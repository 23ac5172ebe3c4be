import Workload.Error
import Workload.Value
import Workload.Text.Split

/-! Commands and other fields that are a string or a list of strings. -/
namespace Workload.Command

def join (args : List String) : Option String :=
  if args.isEmpty then none else some (joinWith ' ' args)

/-- Cuts at every space; there is no quoting. -/
def split (command : String) : List String := splitAtChar ' ' command

inductive Shape where
  | list (items : List String)
  | single (item : String)

/-- Tries a list first, and blames what is found when it is no string either. -/
def shape (dialect : Dialect) (expected : String) (v : Value) : Except FieldError Shape :=
  match v.strings? dialect with
  | .ok items => .ok (.list items)
  | .error _ =>
    match v.string? dialect with
    | .ok item => .ok (.single item)
    | .error found => .error (.unsupportedShape expected found)

def decode (dialect : Dialect) (v : Value) : Except FieldError (Option String) := do
  match ← shape dialect "a list of arguments or a command string" v with
  | .list args => return join args
  | .single command => return nonEmpty command

def decodeList (dialect : Dialect) (v : Value) : Except FieldError (List String) := do
  match ← shape dialect "a string or a list of strings" v with
  | .list items => return items
  | .single item => return [item]

/-- The command of a check array, without the keyword in front; `NONE` disables the check. -/
def ofTest : List String → Option String
  | [] => none
  | head :: rest =>
    if head = "NONE" then none
    else if head = "CMD-SHELL" ∨ head = "CMD" then join rest
    else join (head :: rest)

def toTest (command : String) : List String := ["CMD-SHELL", command]

def decodeTest (dialect : Dialect) (v : Value) : Except FieldError (Option String) := do
  match ← shape dialect "a test array or a shell command string" v with
  | .list test => return ofTest test
  | .single command => return nonEmpty command

/-- Names in a list, or the keys of a mapping. -/
def decodeNetworks (dialect : Dialect) (v : Value) : Except FieldError (List String) :=
  match v.stringEntries? dialect with
  | some es => .ok (Dict.ofList es).keys
  | none =>
    match v.strings? dialect with
    | .ok names => .ok names
    | .error found => .error
        (.unsupportedShape "a list of network names or a mapping keyed by network name" found)

end Workload.Command
