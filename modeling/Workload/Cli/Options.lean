import Workload.Log.Event

/-! The command line of the converter. -/
namespace Workload.Cli

def defaultInput : String := "compose"
def defaultOutput : String := "ecs"

structure Options where
  input : String := defaultInput
  output : String := defaultOutput
  /-- Standard input is read when there is no file. -/
  file : Option String := none
  listFormats : Bool := false
  level : Log.Level := .warn
  json : Bool := false
deriving DecidableEq, Repr

inductive Request where
  | run (options : Options)
  | version
  | help (full : Bool)
  | invalid
deriving DecidableEq, Repr

/-- What has been given so far; nothing may be given twice. -/
structure Given where
  input : Option String := none
  output : Option String := none
  file : Option String := none
  listFormats : Bool := false
  level : Option Log.Level := none
  json : Bool := false

namespace Given

def options (g : Given) : Options where
  input := g.input.getD defaultInput
  output := g.output.getD defaultOutput
  file := g.file
  listFormats := g.listFormats
  level := g.level.getD .warn
  json := g.json

def setFile? (g : Given) (file : String) : Option Given :=
  if g.file.isSome || file.isEmpty then none else some { g with file := some file }

def setValue? (g : Given) (letter : Char) (value : String) : Option Given :=
  match letter with
  | 'i' => if g.input.isSome then none else some { g with input := some value }
  | 'o' => if g.output.isSome then none else some { g with output := some value }
  | 'l' =>
    if g.level.isSome then none
    else (Log.Level.ofName? value).map fun level => { g with level := some level }
  | _ => none

def setFlag? (g : Given) (name : String) : Option Given :=
  match name with
  | "list-formats" => if g.listFormats then none else some { g with listFormats := true }
  | "json" => if g.json then none else some { g with json := true }
  | _ => none

end Given

inductive Argument where
  | separator
  | file (name : String)
  | version
  | help (full : Bool)
  | flag (name : String)
  | option (letter : Char) (value : Option String)
  | unknown

def letterOf? : String → Option Char
  | "input" => some 'i'
  | "output" => some 'o'
  | "level" => some 'l'
  | _ => none

def Argument.ofLong (name : List Char) (value : Option String) : Argument :=
  let name := String.ofList name
  match letterOf? name, value with
  | some letter, value => .option letter value
  | none, some _ => .unknown
  | none, none =>
    if name = "version" then .version
    else if name = "help" then .help true
    else .flag name

def Argument.ofString (s : String) : Argument :=
  match s.toList with
  | ['-', '-'] => .separator
  | '-' :: '-' :: cs =>
    let name := cs.takeWhile (· ≠ '=')
    let value := cs.drop name.length
    ofLong name (if value.isEmpty then none else some (String.ofList (value.drop 1)))
  | '-' :: 'V' :: _ => .version
  | '-' :: 'h' :: _ => .help false
  | '-' :: c :: cs =>
    if ['i', 'o', 'l'].contains c then
      .option c <| match cs with
        | [] => none
        | '=' :: value => some (String.ofList value)
        | value => some (String.ofList value)
    else .unknown
  | _ => .file s

/-- Whether an argument can only be an option, so that it is no value of the one before it. -/
def looksLikeOption (s : String) : Bool := s.startsWith "-" && s != "-"

def filesOnly (g : Given) : List String → Request
  | [] => .run g.options
  | s :: rest => match g.setFile? s with
    | some g => filesOnly g rest
    | none => .invalid

def readArguments (g : Given) : List String → Request
  | [] => .run g.options
  | s :: rest =>
    match Argument.ofString s with
    | .separator => filesOnly g rest
    | .version => .version
    | .help full => .help full
    | .unknown => .invalid
    | .file name => match g.setFile? name with
      | some g => readArguments g rest
      | none => .invalid
    | .flag name => match g.setFlag? name with
      | some g => readArguments g rest
      | none => .invalid
    | .option letter (some value) => match g.setValue? letter value with
      | some g => readArguments g rest
      | none => .invalid
    | .option letter none =>
      match rest with
      | [] => .invalid
      | value :: rest =>
        if looksLikeOption value then .invalid
        else match g.setValue? letter value with
          | some g => readArguments g rest
          | none => .invalid

def parse (args : List String) : Request := readArguments {} args

end Workload.Cli
