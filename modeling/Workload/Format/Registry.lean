import Workload.Format.Adapter

/-! The formats that a conversion can choose from, by name and direction. -/
namespace Workload

/-- Inbound and outbound names are apart: one name may stand for both. -/
structure Registry where
  ingesters : Dict Ingester := ∅
  emitters : Dict Emitter := ∅

structure FormatInfo where
  direction : Direction
  format : String
  description : String
deriving DecidableEq

namespace Registry

def addIngester (r : Registry) (i : Ingester) : Registry :=
  { r with ingesters := r.ingesters.insert i.format i }

def addEmitter (r : Registry) (e : Emitter) : Registry :=
  { r with emitters := r.emitters.insert e.format e }

def inputFormats (r : Registry) : List String := r.ingesters.keys
def outputFormats (r : Registry) : List String := r.emitters.keys

def ingester (r : Registry) (name : String) : Except ConversionError Ingester :=
  match r.ingesters.find? name with
  | some i => .ok i
  | none => .error (.unknownFormat .input name r.inputFormats)

def emitter (r : Registry) (name : String) : Except ConversionError Emitter :=
  match r.emitters.find? name with
  | some e => .ok e
  | none => .error (.unknownFormat .output name r.outputFormats)

/-- Inbound formats first, each side in name order. -/
def info (r : Registry) : List FormatInfo :=
  r.ingesters.entries.map (fun (_, i) => ⟨.input, i.format, i.description⟩) ++
    r.emitters.entries.map fun (_, e) => ⟨.output, e.format, e.description⟩

def standard : Registry :=
  let r : Registry := {}
  let r := (r.addIngester Compose.ingester).addIngester Ecs.ingester |>.addIngester Kube.ingester
  (r.addEmitter Compose.emitter).addEmitter Ecs.emitter |>.addEmitter Script.emitter

end Registry

structure RegistryBuilder where
  registry : Registry := {}

namespace RegistryBuilder

def withIngester (b : RegistryBuilder) (i : Ingester) : RegistryBuilder :=
  { b with registry := b.registry.addIngester i }

def withEmitter (b : RegistryBuilder) (e : Emitter) : RegistryBuilder :=
  { b with registry := b.registry.addEmitter e }

def build (b : RegistryBuilder) : Registry := b.registry

end RegistryBuilder

structure Converter where
  ingester : Ingester
  emitter : Emitter

namespace Converter

def ofNames (r : Registry) (input output : String) : Except ConversionError Converter := do
  return { ingester := ← r.ingester input, emitter := ← r.emitter output }

def convert (c : Converter) (document : ByteArray) : Except ConversionError Emission := do
  return c.emitter.emit (← c.ingester.ingestBytes document)

def describe (c : Converter) : String :=
  "Converter \x7b input: " ++ quotedText c.ingester.format ++ ", output: " ++
    quotedText c.emitter.format ++ " \x7d"

end Converter
end Workload
