import Workload.Yaml.Token.Gap
import Workload.Text.Numeral

/-! Scanning quoted scalars. -/
namespace Workload.Yaml

def simpleEscape? : Char → Option Char
  | '0' => some '\x00'
  | 'a' => some '\x07'
  | 'b' => some '\x08'
  | 't' | '\t' => some '\t'
  | 'n' => some '\n'
  | 'v' => some '\x0b'
  | 'f' => some '\x0c'
  | 'r' => some '\r'
  | 'e' => some '\x1b'
  | ' ' => some ' '
  | '"' => some '"'
  | '/' => some '/'
  | '\\' => some '\\'
  | 'N' => some '\u0085'
  | '_' => some '\u00a0'
  | 'L' => some '\u2028'
  | 'P' => some '\u2029'
  | _ => none

def escapeWidth? : Char → Option Nat
  | 'x' => some 2
  | 'u' => some 4
  | 'U' => some 8
  | _ => none

def escape? : List Char → Option (Char × Nat)
  | [] => none
  | c :: cs =>
    match escapeWidth? c with
    | none => (simpleEscape? c).map (·, 1)
    | some width => do
      let ds := cs.take width
      let n ← if ds.length = width then Text.inBase? 16 ds else none
      if h : n.isValidChar then return (Char.ofNatAux n h, width + 1) else none

/-- The text up to the closing quote, collected in reverse. No document mark may start a line
of it. -/
def quotedText? (quote : Char) : Nat → List Char → Cursor → Option (List Char × Cursor)
  | 0, _, _ => none
  | fuel + 1, text, c =>
    if c.column = 0 ∧ atDocumentMark c.rest then none
    else match c.rest with
    | [] => none
    | b :: r =>
      if b = quote then
        if quote = '\x27' ∧ r.head? = some quote then
          quotedText? quote fuel (quote :: text) (c.advance 2)
        else some (text.reverse, c.advance)
      else if b = '\\' ∧ quote = '"' then
        if r.head?.any isBreak then do
          let (gap, c) ← c.advance.skipBreak.readGap? 0 { broken := true }
          quotedText? quote fuel (gap.folded.reverse ++ text) c
        else do
          let (e, length) ← escape? r
          quotedText? quote fuel (e :: text) (c.advance (length + 1))
      else if isSpace b || isBreak b then do
        let (gap, c) ← c.readGap?
        quotedText? quote fuel (gap.folded.reverse ++ text) c
      else quotedText? quote fuel (b :: text) c.advance

def Cursor.readQuoted? (c : Cursor) (quote : Char) : Option (String × Cursor) :=
  (quotedText? quote (c.rest.length + 1) [] c.advance).map fun (text, c) => (String.ofList text, c)

end Workload.Yaml
