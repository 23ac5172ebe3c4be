import Workload.Json.Basic
import Workload.Text.Split

/-! Writing JSON text, on one line or indented. -/
namespace Workload.Json
open Text

def escape (c : Char) : List Char :=
  match c with
  | '"' => ['\\', '"']
  | '\\' => ['\\', '\\']
  | '\n' => ['\\', 'n']
  | '\r' => ['\\', 'r']
  | '\t' => ['\\', 't']
  | '\x08' => ['\\', 'b']
  | '\x0c' => ['\\', 'f']
  | _ => if c.toNat < 0x20 then '\\' :: 'u' :: padZeros 4 (lowerHex c.toNat) else [c]

def quote (s : String) : List Char := '"' :: s.toList.flatMap escape ++ ['"']

def numberText : Number → List Char
  | .natural n => digits n.toNat
  | .negative n => '-' :: digits n.toInt.natAbs
  | .fraction x => Decimal.compact x

/-- Items between brackets: a line each, one level deeper, when `indent` is given. -/
def enclose (indent : Option Nat) (level : Nat) (opening closing : Char)
    (items : List (List Char)) : List Char :=
  match indent with
  | none => opening :: Text.join ',' items ++ [closing]
  | some width =>
    if items.isEmpty then [opening, closing] else
      let newLine (n : Nat) := '\n' :: List.replicate (width * n) ' '
      opening :: List.intercalate [','] (items.map (newLine (level + 1) ++ ·)) ++
        newLine level ++ [closing]

mutual

def write (indent : Option Nat) (level : Nat) : Json → List Char
  | null | unreadable => "null".toList
  | bool b => (toString b).toList
  | number n => numberText n
  | string s => quote s
  | array items => enclose indent level '[' ']' (writeItems indent level items)
  | object members => enclose indent level '\x7b' '\x7d' (writeMembers indent level members)

def writeItems (indent : Option Nat) (level : Nat) : List Json → List (List Char)
  | [] => []
  | v :: vs => write indent (level + 1) v :: writeItems indent level vs

def writeMembers (indent : Option Nat) (level : Nat) : List (String × Json) → List (List Char)
  | [] => []
  | (k, v) :: rest =>
    (quote k ++ ':' :: (if indent.isSome then [' '] else []) ++ write indent (level + 1) v) ::
      writeMembers indent level rest

end

def compress (v : Json) : String := String.ofList (write none 0 v)

def pretty (width : Nat) (v : Json) : String := String.ofList (write (some width) 0 v)

end Workload.Json
