import Workload.Cli.Run

/-! The command line program. -/
open Workload

def logLine (json : Bool) (e : Log.Event) : String :=
  let value (v : Log.FieldValue) : Json := match v with
    | .text s => .string s
    | .count n => .natural n
  if json then
    Json.compress <| .object [
      ("level", .string e.level.name),
      ("fields", .object (("message", .string e.message) ::
        e.fields.map fun (name, v) => (name, value v))),
      ("target", .string e.target),
      ("spans", .array (e.spans.map fun s => .object [("name", .string s.name)]))]
  else
    let fields := e.fields.map fun (name, v) => " " ++ name ++ "=" ++ (value v).compress
    e.level.name ++ " " ++ e.message ++ String.join fields

def readNamedFile (args : List String) : IO (Option (String × ByteArray)) := do
  match Cli.parse args with
  | .run { file := some name, .. } =>
    try return some (name, ← IO.FS.readBinFile name)
    catch _ => return none
  | _ => return none

def needsInput (args : List String) : Bool :=
  match Cli.parse args with
  | .run o => o.file.isNone && !o.listFormats
  | _ => false

def main (args : List String) : IO UInt32 := do
  let file ← readNamedFile args
  let input ← if needsInput args then (← IO.getStdin).readBinToEnd else pure .empty
  let outcome := Cli.run {
    arguments := args
    filter := ← IO.getEnv "RUST_LOG"
    input
    file? := fun name => file.bind fun (n, bytes) => if n == name then some bytes else none }
  let json := match Cli.parse args with
    | .run o => o.json
    | _ => false
  for e in outcome.log do
    (← IO.getStderr).putStrLn (logLine json e)
  (← IO.getStdout).putStr outcome.output
  return outcome.exitCode
