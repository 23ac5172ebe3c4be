import Workload.Warning
import Workload.Text.Quoted

/-! What a run reports beside its result. -/
namespace Workload.Log

inductive Level where
  | error
  | warn
  | info
  | debug
  | trace
deriving DecidableEq, Repr

namespace Level

def rank : Level → Nat
  | error => 1
  | warn => 2
  | info => 3
  | debug => 4
  | trace => 5

def name : Level → String
  | error => "ERROR"
  | warn => "WARN"
  | info => "INFO"
  | debug => "DEBUG"
  | trace => "TRACE"

def ofName? : String → Option Level
  | "error" => some error
  | "warn" => some warn
  | "info" => some info
  | "debug" => some debug
  | "trace" => some trace
  | _ => none

end Level

inductive FieldValue where
  | text (s : String)
  | count (n : Nat)
deriving DecidableEq, Repr

structure Span where
  target : String
  name : String
  fields : List (String × FieldValue) := []
deriving DecidableEq, Repr

structure Event where
  target : String
  level : Level
  message : String
  fields : List (String × FieldValue) := []
  spans : List Span := []
deriving DecidableEq, Repr

def Event.ofWarning (target : String) (spans : List Span) (w : Warning) : Event where
  target := target
  level := .warn
  message := w.message
  fields := List.filterMap id [
    w.container?.map fun c => ("container", .text c),
    w.field?.map fun f => ("field", .text f),
    w.labels?.map fun n => ("labels", .count n)]
  spans := spans

end Workload.Log
