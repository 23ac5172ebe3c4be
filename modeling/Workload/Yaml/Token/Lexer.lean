import Workload.Yaml.Token.Plain
import Workload.Yaml.Token.Quoted
import Workload.Yaml.Token.Block
import Workload.Yaml.Token.Tag

/-! From a text to its tokens. A key of a mapping is recognised by the colon after it, so the place
where a token may have started such a key is remembered, and the key token put there later. -/
namespace Workload.Yaml

/-- A place where a key may have started. -/
structure KeyStart where
  position : Nat
  index : Nat
  line : Nat
  column : Nat
  /-- Whether the block mapping around it allows nothing else there. -/
  required : Bool

/-- Keys stand on one line and are at most 1024 octets long. -/
def KeyStart.isStale (k : KeyStart) (c : Cursor) : Bool :=
  decide (k.line < c.line) || decide (k.index + 1024 < c.index)

structure Lexer where
  cursor : Cursor
  tokens : List Token := []
  count : Nat := 0
  /-- One more than the column of the innermost block collection, zero outside all of them. -/
  margin : Nat := 0
  margins : List Nat := []
  keys : List (Option KeyStart) := [none]
  keyAllowed : Bool := true

namespace Lexer

def inFlow (l : Lexer) : Bool := decide (1 < l.keys.length)

def push (l : Lexer) (t : Token) : Lexer :=
  { l with tokens := t :: l.tokens, count := l.count + 1 }

def insertAt (l : Lexer) (position : Nat) (t : Token) : Lexer :=
  { l with tokens := l.tokens.insertIdx (l.count - position) t, count := l.count + 1 }

def dropKey? (l : Lexer) : Option Lexer :=
  match l.keys with
  | some k :: ks => if k.required then none else some { l with keys := none :: ks }
  | _ => some l

def saveKey? (l : Lexer) : Option Lexer :=
  if !l.keyAllowed then some l else do
    let l ← l.dropKey?
    let c := l.cursor
    let required := !l.inFlow && l.margin == c.column + 1
    return { l with keys := some ⟨l.count, c.index, c.line, c.column, required⟩ :: l.keys.drop 1 }

def dropStaleKeys? (l : Lexer) : Option Lexer := do
  let keys ← l.keys.mapM fun
    | some k => if !k.isStale l.cursor then some (some k) else if k.required then none else some none
    | none => some none
  return { l with keys }

def openBlock (l : Lexer) (column : Nat) (position : Nat) (start : Token) : Lexer :=
  if !l.inFlow ∧ l.margin ≤ column then
    { l.insertAt position start with margin := column + 1, margins := l.margin :: l.margins }
  else l

def closeMargins (limit : Nat) : Nat → List Nat → Nat × List Nat × Nat
  | margin, [] => (margin, [], 0)
  | margin, m :: ms =>
    if limit < margin then
      let (margin, ms, n) := closeMargins limit m ms
      (margin, ms, n + 1)
    else (margin, m :: ms, 0)

def closeBlocks (l : Lexer) (limit : Nat) : Lexer :=
  if l.inFlow then l else
    let (margin, margins, n) := closeMargins limit l.margin l.margins
    { l with
      margin, margins
      tokens := List.replicate n .blockEnd ++ l.tokens
      count := l.count + n }

/-- Past blanks, comments and breaks. Tabs may not stand where a key could start. -/
def skipToToken : Nat → Lexer → Lexer
  | 0, l => l
  | fuel + 1, l =>
    let c := l.cursor
    let c := if c.column = 0 ∧ c.rest.head? = some '\ufeff' then c.advance else c
    let c := c.skipWhile fun b => b == ' ' || (b == '\t' && (l.inFlow || !l.keyAllowed))
    let c := if c.rest.head? = some '#' then c.skipWhile (!isBreak ·) else c
    match c.readBreak? with
    | some (_, c) => skipToToken fuel { l with cursor := c, keyAllowed := l.keyAllowed || !l.inFlow }
    | none => { l with cursor := c }

def take (l : Lexer) (n : Nat) (t : Token) : Lexer :=
  { l with cursor := l.cursor.advance n }.push t

def endStream? (l : Lexer) : Option Lexer := do
  let l ← (l.closeBlocks 0).dropKey?
  return { l with keyAllowed := false }.push .streamEnd

def documentMark? (l : Lexer) (t : Token) : Option Lexer := do
  let l ← (l.closeBlocks 0).dropKey?
  return { l with keyAllowed := false }.take 3 t

def directive? (l : Lexer) : Option Lexer := do
  let l ← (l.closeBlocks 0).dropKey?
  let (t, c) ← l.cursor.readDirective?
  return { l with cursor := c, keyAllowed := false }.push t

def flowStart? (l : Lexer) (t : Token) : Option Lexer := do
  let l ← l.saveKey?
  return { l with keys := none :: l.keys, keyAllowed := true }.take 1 t

def flowEnd? (l : Lexer) (t : Token) : Option Lexer := do
  let l ← l.dropKey?
  let keys := if l.inFlow then l.keys.drop 1 else l.keys
  return { l with keys, keyAllowed := false }.take 1 t

def flowEntry? (l : Lexer) : Option Lexer := do
  let l ← l.dropKey?
  return { l with keyAllowed := true }.take 1 .flowEntry

def blockEntry? (l : Lexer) : Option Lexer := do
  if !l.inFlow ∧ !l.keyAllowed then none
  let l ← (l.openBlock l.cursor.column l.count .blockSequenceStart).dropKey?
  return { l with keyAllowed := true }.take 1 .blockEntry

def key? (l : Lexer) : Option Lexer := do
  if !l.inFlow ∧ !l.keyAllowed then none
  let l ← (l.openBlock l.cursor.column l.count .blockMappingStart).dropKey?
  return { l with keyAllowed := !l.inFlow }.take 1 .key

def value? (l : Lexer) : Option Lexer :=
  match l.keys with
  | some k :: ks =>
    let l := (l.insertAt k.position .key).openBlock k.column k.position .blockMappingStart
    some ({ l with keys := none :: ks, keyAllowed := false }.take 1 .value)
  | _ =>
    if !l.inFlow ∧ !l.keyAllowed then none
    else
      let l := l.openBlock l.cursor.column l.count .blockMappingStart
      some ({ l with keyAllowed := !l.inFlow }.take 1 .value)

def content? (l : Lexer) (read : Cursor → Option (Token × Cursor)) : Option Lexer := do
  let l ← l.saveKey?
  let (t, c) ← read l.cursor
  return { l with cursor := c, keyAllowed := false }.push t

def block? (l : Lexer) (folded : Bool) : Option Lexer := do
  let l ← l.dropKey?
  let (text, c) ← l.cursor.readBlock? folded l.margin
  return { l with cursor := c, keyAllowed := true }.push
    (.scalar text (if folded then .folded else .literal))

def plain? (l : Lexer) : Option Lexer := do
  let l ← l.saveKey?
  let (text, broken, c) ← l.cursor.readPlain? l.inFlow l.margin
  return { l with cursor := c, keyAllowed := broken }.push (.scalar text .plain)

def startsPlain (flow : Bool) (c : Char) (cs : List Char) : Bool :=
  if c == '-' then !cs.head?.any isSpace
  else if c == '?' || c == ':' then !flow && !atGap cs
  else !(isSpace c || isBreak c ||
    [',', '[', ']', '\x7b', '\x7d', '#', '&', '*', '!', '|', '>', '\x27', '"', '%', '@',
      '\x60'].contains c)

def token? (l : Lexer) : Option Lexer :=
  let start := l.cursor.column == 0
  match l.cursor.rest with
  | [] => l.endStream?
  | c :: cs =>
    if start && c == '%' then l.directive?
    else if start && atDocumentMark (c :: cs) then
      l.documentMark? (if c = '-' then .documentStart else .documentEnd)
    else if c = '[' then l.flowStart? .flowSequenceStart
    else if c = '\x7b' then l.flowStart? .flowMappingStart
    else if c = ']' then l.flowEnd? .flowSequenceEnd
    else if c = '\x7d' then l.flowEnd? .flowMappingEnd
    else if c = ',' then l.flowEntry?
    else if c = '-' ∧ atGap cs then l.blockEntry?
    else if c = '?' ∧ (l.inFlow || atGap cs) then l.key?
    else if c = ':' ∧ (l.inFlow || atGap cs) then l.value?
    else if c = '*' then l.content? fun c => c.readName?.map fun (s, c) => (.reference s, c)
    else if c = '&' then l.content? fun c => c.readName?.map fun (s, c) => (.anchor s, c)
    else if c = '!' then l.content? (·.readTag? l.inFlow)
    else if c = '|' ∧ !l.inFlow then l.block? false
    else if c = '>' ∧ !l.inFlow then l.block? true
    else if c = '\x27' then
      l.content? fun c => (c.readQuoted? '\x27').map fun (s, c) => (.scalar s .singleQuoted, c)
    else if c = '"' then
      l.content? fun c => (c.readQuoted? '"').map fun (s, c) => (.scalar s .doubleQuoted, c)
    else if startsPlain l.inFlow c cs then l.plain?
    else none

/-- Every round passes a character or ends the stream, so the first argument stays above the number
of characters ahead, and is enough for the breaks among them. -/
def run : Nat → Lexer → Option (List Token)
  | 0, _ => none
  | fuel + 1, l => do
    let l ← (skipToToken (fuel + 1) l).dropStaleKeys?
    let ended := l.cursor.rest.isEmpty
    let l ← (l.closeBlocks (l.cursor.column + 1)).token?
    if ended then return l.tokens.reverse else run fuel l

end Lexer

def Token.scan? (text : String) : Option (List Token) :=
  let cs := text.toList
  if cs.all isAllowed then Lexer.run (cs.length + 1) { cursor := { rest := cs } } else none

end Workload.Yaml
