import Workload.Compose.Emit
import Workload.Compose.Ingest
import Workload.Ecs.Emit
import Workload.Ecs.Ingest
import Workload.Kube.Ingest
import Workload.Script.Emit

/-! Formats as values: what reads a document into a group, and what writes a group as a document. -/
namespace Workload

structure Ingester where
  format : String
  description : String := "Workload ingester"
  ingest : String → Except ConversionError Group

/-- A written document, and what it leaves out. -/
structure Emission where
  text : String
  warnings : List Warning := []
deriving DecidableEq

structure Emitter where
  format : String
  description : String := "Workload emitter"
  fileExtension : String
  emit : Group → Emission

def Ingester.ingestBytes (i : Ingester) (bytes : ByteArray) : Except ConversionError Group :=
  match String.fromUTF8? bytes with
  | some text => i.ingest text
  | none => .error .invalidUtf8

namespace Compose

def ingester : Ingester where
  format := formatName
  description := "Docker Compose file (YAML)"
  ingest := ingest

def emitter (version : String := defaultVersion) : Emitter where
  format := formatName
  description := "Docker Compose file (YAML)"
  fileExtension := "yaml"
  emit g := ⟨emit version g, warnings g.canonical⟩

end Compose

namespace Ecs

def ingester : Ingester where
  format := formatName
  description := "Amazon ECS task definition (JSON)"
  ingest := ingest

def emitter (indent : Nat := defaultIndent) : Emitter where
  format := formatName
  description := "Amazon ECS task definition (JSON)"
  fileExtension := "json"
  emit g := ⟨emit indent g, warnings g.canonical⟩

end Ecs

namespace Kube

def ingester : Ingester where
  format := formatName
  description := "Kubernetes Pod manifest (YAML or JSON)"
  ingest := ingest

end Kube

namespace Script

def emitter : Emitter where
  format := formatName
  description := "Shell script of docker run commands"
  fileExtension := "sh"
  emit g := ⟨emit g, warnings g⟩

end Script
end Workload
