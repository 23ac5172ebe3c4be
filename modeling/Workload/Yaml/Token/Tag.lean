import Workload.Yaml.Cursor
import Workload.Yaml.Token
import Workload.Text.Numeral

/-! Scanning anchors, tags and directives. -/
namespace Workload.Yaml

def isTagChar (c : Char) : Bool :=
  isWordChar c || [';', '/', '?', ':', '@', '&', '=', '+', '$', '.', '%', '!', '~', '*', '\x27',
    '(', ')'].contains c

def isUriChar (c : Char) : Bool := isTagChar c || c == ',' || c == '[' || c == ']'

def octet? : List Char → Option (UInt8 × List Char)
  | '%' :: a :: b :: cs => (Text.inBase? 16 [a, b]).map fun n => (UInt8.ofNat n, cs)
  | _ => none

def continuation? : Nat → List Char → Option (List UInt8 × List Char)
  | 0, cs => some ([], cs)
  | count + 1, cs => do
    let (b, cs) ← octet? cs
    let (bs, cs) ← if b >>> 6 = 2 then continuation? count cs else none
    return (b :: bs, cs)

/-- The escapes of one character: the first octet tells how many follow it. No more is asked of
them, so the character need not be one. -/
def escapedChar? (cs : List Char) : Option (List UInt8 × List Char) := do
  let (b, cs) ← octet? cs
  let (bs, cs) ←
    if b < 0x80 then some ([], cs)
    else if b >>> 5 = 6 then continuation? 1 cs
    else if b >>> 4 = 14 then continuation? 2 cs
    else if b >>> 3 = 30 then continuation? 3 cs
    else none
  return (b :: bs, cs)

def tagOctets? (p : Char → Bool) : Nat → List Char → Option (List UInt8 × List Char)
  | 0, _ => none
  | _ + 1, [] => some ([], [])
  | fuel + 1, c :: cs =>
    if !p c then some ([], c :: cs)
    else do
      let (bs, rest) ← if c = '%' then escapedChar? (c :: cs) else some ([UInt8.ofNat c.toNat], cs)
      let (more, rest) ← tagOctets? p fuel rest
      return (bs ++ more, rest)

namespace Cursor

/-- The part of a tag ahead, which may be missing. An escaped zero ends it, and what follows up to
its end is passed over. -/
def readTagPart? (c : Cursor) (p : Char → Bool) : Option (Option Tag × Cursor) := do
  let (bs, rest) ← tagOctets? p (c.rest.length + 1) c.rest
  let part := if bs.isEmpty then none else some ⟨bs.takeWhile (· != 0)⟩
  return (part, c.advance (c.rest.length - rest.length))

def readHandle? (c : Cursor) : Option (List Char × Bool × Cursor) :=
  if c.rest.head? ≠ some '!' then none else
    let word := (c.rest.drop 1).takeWhile isWordChar
    let c := c.advance (word.length + 1)
    if c.rest.head? = some '!' then some ('!' :: word ++ ['!'], true, c.advance)
    else some ('!' :: word, false, c)

def readName? (c : Cursor) : Option (String × Cursor) :=
  let name := (c.rest.drop 1).takeWhile isWordChar
  let c := c.advance (name.length + 1)
  let closed := atGap c.rest ||
    c.rest.head?.any ['?', ':', ',', ']', '\x7d', '%', '@', '\x60'].contains
  if name.isEmpty || !closed then none else some (String.ofList name, c)

/-- A tag: verbatim, with a handle, or local. A lone `!` is a tag of its own. -/
def readTag? (c : Cursor) (flow : Bool) : Option (Token × Cursor) := do
  let (token, c) ←
    if c.rest[1]? = some '<' then do
      let (part, c) ← (c.advance 2).readTagPart? isUriChar
      if c.rest.head? ≠ some '>' then none
      pure (.tag "" (← part), c.advance)
    else do
      let (handle, closed, c) ← c.readHandle?
      let (part, c) ← c.readTagPart? isTagChar
      if closed then pure (.tag (String.ofList handle) (← part), c)
      else
        let name := .ofString (String.ofList (handle.drop 1)) ++ part.getD (.ofString "")
        pure (if name = .ofString "" then .tag "" (.ofString "!") else .tag "!" name, c)
  if atGap c.rest || (flow && c.rest.head? == some ',') then return (token, c) else none

def readVersionPart? (c : Cursor) : Option (Nat × Cursor) :=
  let ds := c.rest.takeWhile Char.isDigit
  if ds.isEmpty ∨ 9 < ds.length then none else some (Text.ofDigits ds, c.advance ds.length)

def readDirective? (c : Cursor) : Option (Token × Cursor) := do
  let name := (c.rest.drop 1).takeWhile isWordChar
  let c := c.advance (name.length + 1)
  if !atGap c.rest then none
  let (token, c) ←
    if name = ['Y', 'A', 'M', 'L'] then do
      let (major, c) ← (c.skipWhile isSpace).readVersionPart?
      if c.rest.head? ≠ some '.' then none
      let (minor, c) ← c.advance.readVersionPart?
      pure (Token.version major minor, c)
    else if name = ['T', 'A', 'G'] then do
      let (handle, closed, c) ← (c.skipWhile isSpace).readHandle?
      if !closed ∧ handle ≠ ['!'] then none
      if !c.rest.head?.any isSpace then none
      let (part, c) ← (c.skipWhile isSpace).readTagPart? isUriChar
      if !atGap c.rest then none
      pure (.handle (String.ofList handle) (← part), c)
    else none
  return (token, ← c.skipLineEnd?)

end Cursor
end Workload.Yaml
