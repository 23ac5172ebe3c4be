import Workload.Text.Octets

/-! A place in a YAML text, and the classes of characters that scanning looks for. -/
namespace Workload.Yaml

def isBreak (c : Char) : Bool :=
  c == '\n' || c == '\r' || c == '\u0085' || c == '\u2028' || c == '\u2029'

def isSpace (c : Char) : Bool := c == ' ' || c == '\t'

def isWordChar (c : Char) : Bool := c.isAlphanum || c == '_' || c == '-'

def isAllowed (c : Char) : Bool :=
  let n := c.toNat
  n == 0x09 || n == 0x0A || n == 0x0D || (0x20 ≤ n && n ≤ 0x7E) || n == 0x85 ||
  (0xA0 ≤ n && n ≤ 0xD7FF) || (0xE000 ≤ n && n ≤ 0xFFFD) || 0x10000 ≤ n

def atGap : List Char → Bool
  | [] => true
  | c :: _ => isSpace c || isBreak c

def atLineEnd : List Char → Bool
  | [] => true
  | c :: _ => isBreak c

def atDocumentMark : List Char → Bool
  | '-' :: '-' :: '-' :: cs | '.' :: '.' :: '.' :: cs => atGap cs
  | _ => false

/-- The characters ahead with their place. -/
structure Cursor where
  rest : List Char
  index : Nat := 0
  line : Nat := 0
  column : Nat := 0

namespace Cursor

def advance (c : Cursor) (n : Nat := 1) : Cursor :=
  { c with
    rest := c.rest.drop n
    index := c.index + Text.octets (c.rest.take n)
    column := c.column + n }

def skipWhile (c : Cursor) (p : Char → Bool) : Cursor := c.advance (c.rest.takeWhile p).length

/-- The break ahead, with all but the Unicode separators written as a line feed. -/
def readBreak? (c : Cursor) : Option (Char × Cursor) :=
  let next (size : Nat) (rest : List Char) : Cursor :=
    { rest, index := c.index + size, line := c.line + 1, column := 0 }
  match c.rest with
  | '\r' :: '\n' :: r => some ('\n', next 2 r)
  | b :: r =>
    if b = '\u2028' ∨ b = '\u2029' then some (b, next b.utf8Size r)
    else if isBreak b then some ('\n', next b.utf8Size r)
    else none
  | [] => none

def skipBreak (c : Cursor) : Cursor := c.readBreak?.elim c (·.2)

/-- Past blanks and a comment; whatever follows must not be on this line. -/
def skipLineEnd? (c : Cursor) : Option Cursor :=
  let c := c.skipWhile isSpace
  let c := if c.rest.head? = some '#' then c.skipWhile (!isBreak ·) else c
  if atLineEnd c.rest then some c.skipBreak else none

end Cursor
end Workload.Yaml
