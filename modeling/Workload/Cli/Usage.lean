import Workload.Cli.Options

/-! What the command line program says about its own use. -/
namespace Workload.Cli

def programName : String := "podshift"
def versionNumber : String := "0.3.0"

def purpose : String := "Convert container workload definitions between formats"

structure Entry where
  spelling : String
  text : String
  default : Option String := none
  values : List (String × String) := []

def fileEntry : Entry := { spelling := "[FILE]", text := "Input file; reads stdin when omitted" }

def optionEntries : List Entry := [
  { spelling := "-i, --input <INPUT>", text := "Format of the input", default := some defaultInput },
  { spelling := "-o, --output <OUTPUT>", text := "Format of the output", default := some defaultOutput },
  { spelling := "    --list-formats", text := "List the available input and output formats" },
  { spelling := "-l, --level <LEVEL>", text := "Set logging level", default := some "warn"
    values := [
      ("trace", "Show all logs (trace level)"),
      ("debug", "Show debug and above"),
      ("info", "Show info and above"),
      ("warn", "Show warnings and above (default)"),
      ("error", "Show errors only")] },
  { spelling := "    --json", text := "Output logs in JSON format" }]

def helpEntries (full : Bool) : List Entry := [
  { spelling := "-h, --help"
    text := if full then "Print help (see a summary with '-h')"
      else "Print help (see more with '--help')" },
  { spelling := "-V, --version", text := "Print version" }]

def padTo (width : Nat) (s : String) : String :=
  s ++ String.ofList (List.replicate (width - s.length) ' ')

/-- An entry on one line, its text at a column that is the same for all entries of a group. -/
def Entry.line (width : Nat) (e : Entry) : String :=
  let default := e.default.elim "" fun d => " [default: " ++ d ++ "]"
  let values :=
    if e.values.isEmpty then ""
    else " [possible values: " ++ ", ".intercalate (e.values.map (·.1)) ++ "]"
  "  " ++ padTo width e.spelling ++ "  " ++ e.text ++ default ++ values

def Entry.paragraph (e : Entry) : List String :=
  let margin := "          "
  let width := (e.values.map fun v => v.1.length + 1).foldl max 0
  let values :=
    if e.values.isEmpty then []
    else ["", margin ++ "Possible values:"] ++
      e.values.map fun (name, remark) => margin ++ "- " ++ padTo width (name ++ ":") ++ " " ++ remark
  let default := e.default.elim [] fun d => [margin, margin ++ "[default: " ++ d ++ "]"]
  ["  " ++ e.spelling, margin ++ e.text] ++ values ++ default

def describe (full : Bool) (es : List Entry) : List String :=
  if full then (es.map Entry.paragraph).intersperse [""] |>.flatten
  else
    let width := (es.map (·.spelling.length)).foldl max 0
    es.map (Entry.line width)

def help (full : Bool) : String :=
  String.join <| List.map (· ++ "\n") <|
    [purpose, "", "Usage: " ++ programName ++ " [OPTIONS] [FILE]", "", "Arguments:"] ++
      describe full [fileEntry] ++ ["", "Options:"] ++
      describe full (optionEntries ++ helpEntries full)

end Workload.Cli
