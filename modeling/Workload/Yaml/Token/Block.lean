import Workload.Yaml.Cursor

/-! Scanning literal and folded block scalars. -/
namespace Workload.Yaml

inductive Chomping where
  | strip
  | clip
  | keep
deriving DecidableEq

def chomping? : List Char → Option Chomping
  | '+' :: _ => some .keep
  | '-' :: _ => some .strip
  | _ => none

def indentDigit? : List Char → Option Nat
  | d :: _ => if d.isDigit then some (d.toNat - '0'.toNat) else none
  | [] => none

/-- The indicators after `|` or `>`, in either order: chomping, and an indentation that is not
zero. -/
def Cursor.readIndicators? (c : Cursor) : Option (Chomping × Option Nat × Cursor) := do
  let (chomping, indent, c) ← match chomping? c.rest, indentDigit? c.rest with
    | some chomping, _ =>
      let c := c.advance
      match indentDigit? c.rest with
      | some d => some (chomping, some d, c.advance)
      | none => some (chomping, none, c)
    | none, some d =>
      let c := c.advance
      match chomping? c.rest with
      | some chomping => some (chomping, some d, c.advance)
      | none => some (.clip, some d, c)
    | none, none => some (.clip, none, c)
  if indent = some 0 then none else return (chomping, indent, c)

/-- The empty lines ahead with their breaks, and the deepest indentation among them. Spaces are
passed up to column `indent`, if that is known; a tab among them is an error. -/
def blockBreaks? (indent : Option Nat) :
    Nat → Nat → List Char → Cursor → Option (List Char × Nat × Cursor)
  | 0, _, _, _ => none
  | fuel + 1, deepest, breaks, c =>
    let spaces := (c.rest.takeWhile (· == ' ')).length
    let c := c.advance (indent.elim spaces fun n => min spaces (n - c.column))
    let deepest := max deepest c.column
    if indent.all (c.column < ·) && c.rest.head? == some '\t' then none
    else match c.readBreak? with
      | some (b, c) => blockBreaks? indent fuel deepest (breaks ++ [b]) c
      | none => some (breaks, deepest, c)

/-- The lines of a block scalar at column `indent`. `first` is the break after the line before,
`later` the breaks of empty lines since, and `spaced` whether that line started with a blank. -/
def blockLines? (folded : Bool) (indent : Nat) :
    Nat → Option Char → List Char → Bool → List Char → Cursor →
      Option (List Char × Option Char × List Char × Cursor)
  | 0, _, _, _, _, _ => none
  | fuel + 1, first, later, spaced, text, c =>
    if c.column ≠ indent ∨ c.rest.isEmpty then some (text, first, later, c)
    else do
      let blank := c.rest.head?.any isSpace
      let joint :=
        if folded && first == some '\n' && !spaced && !blank then
          if later.isEmpty then [' '] else []
        else first.toList
      let line := c.rest.takeWhile (!isBreak ·)
      let text := text ++ joint ++ later ++ line
      let c := c.advance line.length
      let (first, c) := match c.readBreak? with
        | some (b, c) => (some b, c)
        | none => (none, c)
      let (later, _, c) ← blockBreaks? (some indent) (c.rest.length + 1) 0 [] c
      blockLines? folded indent fuel first later blank text c

def Cursor.readBlock? (c : Cursor) (folded : Bool) (parent : Nat) : Option (String × Cursor) := do
  let (chomping, increment, c) ← c.advance.readIndicators?
  let c ← c.skipLineEnd?
  let known := increment.map (parent - 1 + ·)
  let (later, deepest, c) ← blockBreaks? known (c.rest.length + 1) 0 [] c
  let indent := known.getD (max (max deepest parent) 1)
  let (text, first, later, c) ← blockLines? folded indent (c.rest.length + 1) none later false [] c
  let ending := match chomping with
    | .strip => []
    | .clip => first.toList
    | .keep => first.toList ++ later
  return (String.ofList (text ++ ending), c)

end Workload.Yaml
