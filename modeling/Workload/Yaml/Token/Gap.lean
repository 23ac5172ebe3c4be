import Workload.Yaml.Cursor

/-! The blanks and line breaks between the words of a flow scalar, and what they fold to. -/
namespace Workload.Yaml

structure Gap where
  blanks : List Char := []
  broken : Bool := false
  first : Option Char := none
  later : List Char := []

namespace Gap

/-- Blanks stay, one break becomes a space, and of several line feeds the first is dropped. -/
def folded (g : Gap) : List Char :=
  if !g.broken then g.blanks.reverse
  else
    match g.first with
    | some '\n' => if g.later.isEmpty then [' '] else g.later.reverse
    | some b => b :: g.later.reverse
    | none => g.later.reverse

/-- The gap ahead. Beyond a break, a tab before column `indent` is an error. -/
def read? (indent : Nat) : Nat → Gap → Cursor → Option (Gap × Cursor)
  | 0, _, _ => none
  | fuel + 1, g, c =>
    match c.rest with
    | [] => some (g, c)
    | b :: _ =>
      if isSpace b then
        if !g.broken then read? indent fuel { g with blanks := b :: g.blanks } c.advance
        else if b = '\t' ∧ c.column < indent then none
        else read? indent fuel g c.advance
      else
        match c.readBreak? with
        | none => some (g, c)
        | some (b, c) =>
          if !g.broken then read? indent fuel { broken := true, first := some b } c
          else read? indent fuel { g with later := b :: g.later } c

end Gap

def Cursor.readGap? (c : Cursor) (indent : Nat := 0) (start : Gap := {}) : Option (Gap × Cursor) :=
  Gap.read? indent (c.rest.length + 1) start c

end Workload.Yaml
