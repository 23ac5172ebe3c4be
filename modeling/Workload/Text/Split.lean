/-! Cutting a text at a separator character, and joining the pieces again. -/
namespace Workload.Text

def splitFirst (sep : Char) : List Char → Option (List Char × List Char)
  | [] => none
  | c :: cs => if c = sep then some ([], cs) else (splitFirst sep cs).map fun (a, b) => (c :: a, b)

theorem splitFirst_eq_none_iff {sep : Char} {cs : List Char} :
    splitFirst sep cs = none ↔ sep ∉ cs := by
  induction cs with
  | nil => simp [splitFirst]
  | cons c cs ih =>
    by_cases h : c = sep
    · simp [splitFirst, h]
    · simp [splitFirst, h, ih, Ne.symm h]

theorem splitFirst_append {sep : Char} {a : List Char} (b : List Char) (h : sep ∉ a) :
    splitFirst sep (a ++ sep :: b) = some (a, b) := by
  induction a with
  | nil => simp [splitFirst]
  | cons c a ih =>
    simp only [List.mem_cons, not_or] at h
    simp [splitFirst, ih h.2, Ne.symm h.1]

def beforeFirst (sep : Char) (cs : List Char) : List Char := cs.takeWhile (· != sep)

def join (sep : Char) (pieces : List (List Char)) : List Char :=
  List.intercalate [sep] pieces

def dropEnding? (ending : String) (cs : List Char) : Option (List Char) :=
  ending.toList.isSuffixOf? cs

end Workload.Text

namespace Workload

def nonEmpty (s : String) : Option String := if s.isEmpty then none else some s

def splitAtChar (sep : Char) (s : String) : List String :=
  (s.toList.splitOn sep).map String.ofList

def joinWith (sep : Char) (pieces : List String) : String :=
  String.ofList (Text.join sep (pieces.map String.toList))

end Workload
