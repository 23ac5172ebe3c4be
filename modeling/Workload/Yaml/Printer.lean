import Workload.Yaml.Cursor
import Workload.Yaml.Resolve
import Workload.Text.Split

/-! Writing values as YAML in block style. Lines are never folded, and each level of a mapping is
indented by two spaces; a list stands at the column of its key. -/
namespace Workload.Yaml
open Text

def isPrintable (c : Char) : Bool :=
  let n := c.toNat
  n == 0x0A || (0x20 ≤ n && n ≤ 0x7E) || (0xA0 ≤ n && n ≤ 0xD7FF) ||
  (0xE000 ≤ n && n ≤ 0xFFFD && n != 0xFEFF) || 0x10000 ≤ n

def hasSpaceBreak : List Char → Bool
  | ' ' :: c :: cs => isBreak c || hasSpaceBreak (c :: cs)
  | _ :: cs => hasSpaceBreak cs
  | [] => false

def hasBreakSpace : List Char → Bool
  | c :: ' ' :: cs => isBreak c || hasBreakSpace (' ' :: cs)
  | _ :: cs => hasBreakSpace cs
  | [] => false

/-- Whether a character after the first would be read as an indicator; `gap` tells whether a blank
or break comes before. -/
def hasInnerIndicator (gap : Bool) : List Char → Bool
  | [] => false
  | c :: cs =>
    (c == ':' && atGap cs) || (c == '#' && gap) || hasInnerIndicator (isSpace c || isBreak c) cs

def hasIndicator : List Char → Bool
  | [] => false
  | c :: cs =>
    ['#', ',', '[', ']', '\x7b', '\x7d', '&', '*', '!', '|', '>', '\x27', '"', '%', '@',
      '\x60'].contains c ||
    ((c == '?' || c == ':' || c == '-') && atGap cs) ||
    "---".toList.isPrefixOf (c :: cs) || "...".toList.isPrefixOf (c :: cs) ||
    hasInnerIndicator (isSpace c || isBreak c) cs

def needsEscapes (cs : List Char) : Bool := !cs.all isPrintable || hasSpaceBreak cs

def allowsPlain (cs : List Char) : Bool :=
  !needsEscapes cs && !cs.any isBreak && cs.head? != some ' ' && cs.getLast? != some ' ' &&
  !hasIndicator cs

def allowsSingleQuotes (cs : List Char) : Bool := !needsEscapes cs && !hasBreakSpace cs

def allowsLiteral (cs : List Char) : Bool := !needsEscapes cs && cs.getLast? != some ' '

/-- Whether a plain scalar of this text would be read as another value than the text. -/
def isAmbiguous (s : String) : Bool :=
  match valueOfPlain? s with
  | some (.string _) => hasLeadingZero (splitSign s.toList).2
  | _ => true

def styleOf (s : String) : ScalarStyle :=
  let cs := s.toList
  if cs.contains '\n' then (if allowsLiteral cs then .literal else .doubleQuoted)
  else if !isAmbiguous s && allowsPlain cs then .plain
  else if allowsSingleQuotes cs then .singleQuoted
  else .doubleQuoted

def spaces (n : Nat) : List Char := List.replicate n ' '

def indentLines (indent : Nat) (fresh : Bool) : List Char → List Char
  | [] => []
  | c :: cs =>
    if isBreak c then c :: indentLines indent true cs
    else (if fresh then spaces indent else []) ++ c :: indentLines indent false cs

def singleQuoted (indent : Nat) (cs : List Char) : List Char :=
  let body := indentLines indent false (cs.flatMap fun c => if c = '\x27' then [c, c] else [c])
  let closing := if cs.getLast?.any isBreak then spaces indent else []
  '\x27' :: body ++ closing ++ ['\x27']

/-- The escape of a character in double quotes, if it needs one. All above 0xFFFF are printable, so
four digits suffice. -/
def escape (c : Char) : List Char :=
  let n := c.toNat
  if c = '"' ∨ c = '\\' then ['\\', c]
  else if isPrintable c && !isBreak c then [c]
  else '\\' :: match n with
    | 0x00 => ['0']
    | 0x07 => ['a']
    | 0x08 => ['b']
    | 0x09 => ['t']
    | 0x0A => ['n']
    | 0x0B => ['v']
    | 0x0C => ['f']
    | 0x0D => ['r']
    | 0x1B => ['e']
    | 0x85 => ['N']
    | 0x2028 => ['L']
    | 0x2029 => ['P']
    | _ =>
      if n ≤ 0xFF then 'x' :: padZeros 2 (upperHex n)
      else 'u' :: padZeros 4 (upperHex n)

def doubleQuoted (cs : List Char) : List Char := '"' :: cs.flatMap escape ++ ['"']

def chompingMark (cs : List Char) : List Char :=
  match cs.reverse with
  | [] => ['-']
  | [c] => if isBreak c then ['+'] else ['-']
  | c :: d :: _ => if !isBreak c then ['-'] else if isBreak d then ['+'] else []

/-- The depth of one level; a literal that starts with a blank line or a space must state it. -/
def level : Nat := 2

def literal (indent : Nat) (cs : List Char) : List Char :=
  let mark := if cs.head?.any fun c => c == ' ' || isBreak c then digits level else []
  '|' :: mark ++ chompingMark cs ++ '\n' :: indentLines indent true cs

def scalarText (indent : Nat) (s : String) : List Char :=
  let cs := s.toList
  match styleOf s with
  | .plain | .folded => cs
  | .singleQuoted => singleQuoted indent cs
  | .doubleQuoted => doubleQuoted cs
  | .literal => literal indent cs

def endLine (cs : List Char) : List Char := if cs.getLast?.any isBreak then cs else cs ++ ['\n']

/-- Keys of one line and at most 128 bytes stand before a bare colon. -/
def isSimpleKey (s : String) : Bool := !s.toList.any isBreak && decide (s.utf8ByteSize ≤ 128)

def leafText (indent : Nat) : Value → List Char
  | .null => "null".toList
  | .bool b => (if b then "true" else "false").toList
  | .number (.natural n) => digits n.toNat
  | .number (.negative n) => '-' :: digits n.toInt.natAbs
  | .number (.fraction x) => Decimal.pointed x
  | .string s => scalarText indent s
  | .list _ => "[]".toList
  | .mapping _ => ['\x7b', '\x7d']
  | .tagged _ v => leafText indent v

def keyText : Value → String
  | .string s => s
  | v => String.ofList (leafText 0 v)

mutual

/-- A value after a colon or dash in a collection at column `indent`, with the end of its line.
`inline` values start on the same line. -/
def write (indent : Nat) (inline : Bool) : Value → List Char
  | .list (x :: xs) =>
    if inline then ' ' :: (writeItems (indent + level) (x :: xs)).drop (indent + level)
    else '\n' :: writeItems indent (x :: xs)
  | .mapping (e :: es) =>
    if inline then ' ' :: (writeEntries (indent + level) (e :: es)).drop (indent + level)
    else '\n' :: writeEntries (indent + level) (e :: es)
  | v => endLine (' ' :: leafText (indent + level) v)

def writeItems (indent : Nat) : List Value → List Char
  | [] => []
  | v :: vs => spaces indent ++ '-' :: write indent true v ++ writeItems indent vs

def writeEntries (indent : Nat) : List (Value × Value) → List Char
  | [] => []
  | (k, v) :: es =>
    let key := keyText k
    (if isSimpleKey key then
      spaces indent ++ scalarText indent key ++ ':' :: write indent false v
    else
      endLine (spaces indent ++ '?' :: ' ' :: scalarText (indent + level) key) ++
        spaces indent ++ ':' :: write indent true v) ++
    writeEntries indent es

end

def print (v : Value) : String :=
  String.ofList <| match v with
    | .list (x :: xs) => writeItems 0 (x :: xs)
    | .mapping (e :: es) => writeEntries 0 (e :: es)
    | v => endLine (leafText level v)

end Workload.Yaml
