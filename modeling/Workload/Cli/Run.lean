import Workload.Cli.Usage
import Workload.Format.Registry
import Workload.Log.Filter

/-! What the command line program does, as a function of what it is given. -/
namespace Workload.Cli

/-- What the program can see: its arguments, the log filter of the environment, standard input, and
the contents of files that can be opened. -/
structure World where
  arguments : List String
  filter : Option String := none
  input : ByteArray := .empty
  file? : String → Option ByteArray := fun _ => none

structure Outcome where
  exitCode : UInt32
  output : String := ""
  log : List Log.Event := []

def partNames : List String :=
  ["podshift", "podshift_convert", "podshift_compose", "podshift_ecs", "podshift_kube",
    "podshift_script"]

def partOf (format : String) : String :=
  if format = Kube.formatName then "podshift_kube" else "podshift_" ++ format

def levelFilter (level : Log.Level) : Log.Filter :=
  .ofList (partNames.map fun name => { target := some name, rank := level.rank })

/-- The filter of the environment if it is well formed, otherwise one for the level. There is none
when a directive would be cut inside a character; the program stops then. -/
def logFilter? (environment : Option String) (level : Log.Level) : Option Log.Filter :=
  match environment.map Log.Filter.parse with
  | some (.ok f) => some f
  | some (.error .brokenCharacter) => none
  | some (.error .malformed) | none => some (levelFilter level)

def listFormats (r : Registry) : String :=
  String.join <| r.info.map fun i =>
    padTo 7 i.direction.name ++ " " ++ padTo 8 i.format ++ " " ++ i.description ++ "\n"

def startEvent (json : Bool) : Log.Event where
  target := "podshift::tracing"
  level := .debug
  message := "Tracing initialized"
  fields := [("version", .text versionNumber), ("format", .text (if json then "Json" else "Pretty"))]

def convertSpan (c : Converter) : Log.Span where
  target := programName
  name := "convert"
  fields := [("input", .text c.ingester.format), ("output", .text c.emitter.format)]

def ingestSpan (format : String) : Log.Span where
  target := partOf format ++ "::ingest"
  name := format ++ "_ingest"

def emitSpan (format : String) (g : Group) : Log.Span where
  target := partOf format ++ "::emitter"
  name := format ++ "_emit"
  fields := [("containers", .count g.containers.length)]

def ingestEvents (c : Converter) (g : Group) : List Log.Event := [
  { target := "podshift_convert::adapter"
    level := .debug
    message := "Ingested workload document"
    fields := [("format", .text c.ingester.format), ("containers", .count g.containers.length)]
    spans := [convertSpan c, ingestSpan c.ingester.format] },
  { target := programName
    level := .debug
    message := "Ingested pod group"
    fields := [
      ("containers", .count g.containers.length),
      ("name", .text (g.name.elim "None" fun name => "Some(" ++ quotedText name ++ ")"))]
    spans := [convertSpan c] }]

def emitEvents (c : Converter) (g : Group) (warnings : List Warning) : List Log.Event :=
  let span := emitSpan c.emitter.format g
  warnings.map (.ofWarning span.target [convertSpan c, span])

def runConverter (c : Converter) (document : ByteArray) : Outcome :=
  match c.ingester.ingestBytes document with
  | .error _ => { exitCode := 1 }
  | .ok g =>
    let emission := c.emitter.emit g
    { exitCode := 0
      output := emission.text ++ "\n"
      log := ingestEvents c g ++ emitEvents c g emission.warnings }

/-- Both formats are looked up before the input is opened. -/
def runOptions (o : Options) (w : World) : Outcome :=
  let r := Registry.standard
  if o.listFormats then { exitCode := 0, output := listFormats r }
  else match Converter.ofNames r o.input o.output with
    | .error _ => { exitCode := 1 }
    | .ok c =>
      match o.file with
      | none => runConverter c w.input
      | some name => match w.file? name with
        | some document => runConverter c document
        | none => { exitCode := 1 }

def run (w : World) : Outcome :=
  match parse w.arguments with
  | .version => { exitCode := 0, output := programName ++ " " ++ versionNumber ++ "\n" }
  | .help full => { exitCode := 0, output := help full }
  | .invalid => { exitCode := 2 }
  | .run o =>
    match logFilter? w.filter o.level with
    | none => { exitCode := 101 }
    | some filter =>
      let outcome := runOptions o w
      { outcome with log := filter.apply (startEvent o.json :: outcome.log) }

end Workload.Cli
