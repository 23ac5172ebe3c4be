import Workload.Yaml.Token.Gap

/-! Scanning plain scalars. -/
namespace Workload.Yaml

def isFlowMark (c : Char) : Bool := [',', '[', ']', '\x7b', '\x7d'].contains c

/-- The word of a plain scalar ahead. In a flow collection brackets and commas end it, and a colon
right before one of them is an error. -/
def plainWord? (flow : Bool) : List Char → Option (List Char)
  | [] => some []
  | c :: cs =>
    if isSpace c || isBreak c then some []
    else if flow && c == ':' && cs.head?.any (fun d => isFlowMark d || d == '?') then none
    else if (c == ':' && atGap cs) || (flow && isFlowMark c) then some []
    else (plainWord? flow cs).map (c :: ·)

/-- Words and the gaps between them, as long as the text is indented enough. The result tells
whether a break was passed after the last word. -/
def plainText? (flow : Bool) (indent : Nat) :
    Nat → Gap → List Char → Cursor → Option (List Char × Bool × Cursor)
  | 0, _, _, _ => none
  | fuel + 1, gap, text, c => do
    if c.column = 0 ∧ atDocumentMark c.rest ∨ c.rest.head? = some '#' then
      return (text, gap.broken, c)
    let word ← plainWord? flow c.rest
    if word.isEmpty then return (text, gap.broken, c)
    let text := text ++ gap.folded ++ word
    let c := c.advance word.length
    if c.rest.head?.any fun b => isSpace b || isBreak b then
      let (gap, c) ← c.readGap? indent
      if !flow ∧ c.column < indent then return (text, gap.broken, c)
      plainText? flow indent fuel gap text c
    else return (text, false, c)

def Cursor.readPlain? (c : Cursor) (flow : Bool) (indent : Nat) :
    Option (String × Bool × Cursor) :=
  (plainText? flow indent (c.rest.length + 1) {} [] c).map fun (text, broken, c) =>
    (String.ofList text, broken, c)

end Workload.Yaml
