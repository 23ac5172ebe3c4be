import Workload.Json.Printer
import Workload.Json.Reader
import Workload.Proofs.Text
import Workload.Proofs.Traverse

/-! Printed JSON is read back, on one line or indented. Left out are fractions, which the reader
computes from their leading digits only, and what stands for no value. -/
namespace Workload.Json
open Text

/-- Values put together from null, booleans, naturals and texts. -/
inductive Plain : Json → Prop
  | null : Plain .null
  | bool (b : Bool) : Plain (.bool b)
  | natural (n : UInt64) : Plain (.number (.natural n))
  | string (s : String) : Plain (.string s)
  | array {items : List Json} (h : ∀ v ∈ items, Plain v) : Plain (.array items)
  | object {members : List (String × Json)} (h : ∀ m ∈ members, Plain m.2) :
      Plain (.object members)

/-! Texts. -/

theorem inBase?_padZeros_lowerHex {n : Nat} (h : n < 0x20) :
    ∃ a b c d, padZeros 4 (lowerHex n) = [a, b, c, d] ∧ inBase? 16 [a, b, c, d] = some n := by
  have all : ∀ n < 0x20, (padZeros 4 (lowerHex n)).length = 4 ∧
      inBase? 16 (padZeros 4 (lowerHex n)) = some n := by decide
  obtain ⟨length, value⟩ := all n h
  obtain ⟨a, b, c, d, four⟩ := List.length_eq_four.1 length
  exact ⟨a, b, c, d, four, four ▸ value⟩

theorem readUnits?_escape (c : Char) (acc : List Nat) (cs : List Char) :
    readUnits? acc (escape c ++ cs) = readUnits? (c.toNat :: acc) cs := by
  unfold escape
  split
  case h_8 noQuote noBackslash _ _ _ _ _ =>
    split
    · rename_i control
      obtain ⟨a, b, c', d, text, value⟩ := inBase?_padZeros_lowerHex control
      rw [text]
      simp [readUnits?, value]
    · rename_i visible
      rw [List.singleton_append, readUnits?.eq_12 acc c cs noQuote
        (fun _ _ _ _ _ h _ => noBackslash h) (fun _ _ h _ => noBackslash h), if_neg visible]
  all_goals rfl

theorem ofUnits?_map_toNat (cs : List Char) : ofUnits? (cs.map Char.toNat) = some cs := by
  induction cs with
  | nil => rfl
  | cons c cs ih =>
    -- no character is half of a surrogate pair
    have valid : c.toNat < 0xD800 ∨ 0xDFFF < c.toNat := c.valid.imp id And.left
    rw [List.map_cons, ofUnits?.eq_def]
    simp only
    rw [if_neg (by omega), if_neg (by omega), ih, Option.map_some, Char.ofNat_toNat]

theorem readUnits?_flatMap_escape (cs rest : List Char) (acc : List Nat) :
    readUnits? acc (cs.flatMap escape ++ '"' :: rest) =
      some (acc.reverse ++ cs.map Char.toNat, rest) := by
  induction cs generalizing acc with
  | nil => simp [readUnits?]
  | cons c cs ih => simp [readUnits?_escape, ih]

theorem readText?_flatMap_escape (s : String) (rest : List Char) :
    readText? (s.toList.flatMap escape ++ '"' :: rest) = some (some s, rest) := by
  simp [readText?, readUnits?_flatMap_escape, ofUnits?_map_toNat]

/-! Numerals. -/

/-- What follows a numeral does not go on with it. -/
def Stops (rest : List Char) : Prop :=
  ∀ c ∈ rest.head?, c.isDigit = false ∧ c ≠ '.' ∧ c ≠ 'e' ∧ c ≠ 'E'

theorem eq_zero_of_head?_digits {n : Nat} (h : (digits n).head? = some '0') : n = 0 := by
  induction n using Nat.strong_induction_on with
  | _ n ih =>
    unfold digits at h ih
    by_cases small : n < 10
    · rw [Nat.toDigits_of_lt_base small] at h
      have single : ∀ n < 10, some (Nat.digitChar n) = some '0' → n = 0 := by decide
      exact single n small h
    · rw [Nat.toDigits_of_base_le (by decide) (by omega),
        List.head?_append_of_ne_nil _ Nat.toDigits_ne_nil] at h
      have tens := ih (n / 10) (by omega) h
      omega

theorem readDigits?_digits (n : Nat) {rest : List Char} (stops : Stops rest) :
    readDigits? (digits n ++ rest) = some (digits n, rest) := by
  have inside : ∀ c ∈ digits n, c.isDigit := fun _ => isDigit_of_mem_digits
  have outside : ∀ c ∈ rest.head?, c.isDigit = false := fun c hc => (stops c hc).1
  simp only [readDigits?, takeWhile_run inside outside, dropWhile_run inside outside]
  exact if_neg (by simpa using digits_ne_nil n)

theorem digits_append_ne {n : Nat} {rest cs : List Char} {c : Char} (other : c.isDigit = false) :
    digits n ++ rest ≠ c :: cs := by
  obtain ⟨d, ds, text, digit⟩ := exists_digits_eq_cons n
  intro starts
  rw [text, List.cons_append, List.cons_eq_cons] at starts
  rw [starts.1, other] at digit
  contradiction

theorem readNumeral?_digits (n : Nat) {rest : List Char} (stops : Stops rest) :
    readNumeral? (digits n ++ rest) = some (⟨false, digits n, none, none⟩, rest) := by
  have canonical : ¬((digits n).length > 1 ∧ (digits n).head? = some '0') := by
    rintro ⟨long, zero⟩
    rw [eq_zero_of_head?_digits zero] at long
    exact absurd long (by decide)
  unfold readNumeral?
  split
  rename_i sign
  split at sign
  · rename_i starts
    exact absurd starts (digits_append_ne rfl)
  · cases sign
    simp only [readDigits?_digits n stops, Option.bind_eq_bind, Option.bind_some, canonical]
    rw [if_neg not_false]
    split
    · exact absurd rfl (stops '.' rfl).2.1
    · split
      · exact absurd rfl (stops 'e' rfl).2.2.1
      · exact absurd rfl (stops 'E' rfl).2.2.2
      · rfl

theorem value?_digits (n : UInt64) :
    Numeral.value? ⟨false, digits n.toNat, none, none⟩ = some (.natural n) := by
  simp [Numeral.value?, ofDigits_digits, n.toNat_lt_size]

/-! The layout of lists and objects. -/

theorem skipSpace_append {pad : List Char} (blank : ∀ c ∈ pad, isSpace c) (cs : List Char) :
    skipSpace (pad ++ cs) = skipSpace cs :=
  List.dropWhile_append_of_pos blank

theorem readValue?_append {pad : List Char} (blank : ∀ c ∈ pad, isSpace c) (fuel : Nat)
    (cs : List Char) : readValue? fuel (pad ++ cs) = readValue? fuel cs := by
  cases fuel with
  | zero => rfl
  | succ fuel => rw [readValue?, readValue?, skipSpace_append blank]

theorem readItems?_append {pad : List Char} (blank : ∀ c ∈ pad, isSpace c) (fuel : Nat)
    (acc : List Json) (cs : List Char) :
    readItems? fuel acc (pad ++ cs) = readItems? fuel acc cs := by
  cases fuel with
  | zero => rfl
  | succ fuel => rw [readItems?, readItems?, readValue?_append blank]

theorem readMembers?_append {pad : List Char} (blank : ∀ c ∈ pad, isSpace c) (fuel : Nat)
    (acc : List (Option String × Json)) (cs : List Char) :
    readMembers? fuel acc (pad ++ cs) = readMembers? fuel acc cs := by
  cases fuel with
  | zero => rfl
  | succ fuel => rw [readMembers?, readMembers?, skipSpace_append blank]

def lineBreak (indent : Option Nat) (level : Nat) : List Char :=
  match indent with
  | none => []
  | some width => '\n' :: List.replicate (width * level) ' '

theorem isSpace_of_mem_lineBreak {indent : Option Nat} {level : Nat} {c : Char}
    (h : c ∈ lineBreak indent level) : isSpace c := by
  cases indent with
  | none => cases h
  | some width =>
    rcases List.mem_cons.1 h with rfl | h
    · rfl
    · rw [List.eq_of_mem_replicate h]
      rfl

/-- What stands after an item: the items that follow it and the closing bracket. -/
def listed (indent : Option Nat) (level : Nat) (closing : Char) : List (List Char) → List Char
  | [] => lineBreak indent level ++ [closing]
  | item :: items =>
    ',' :: (lineBreak indent (level + 1) ++ (item ++ listed indent level closing items))

theorem enclose_nil (indent : Option Nat) (level : Nat) (opening closing : Char) :
    enclose indent level opening closing [] = [opening, closing] := by
  cases indent <;> rfl

theorem enclose_cons (indent : Option Nat) (level : Nat) (opening closing : Char)
    (item : List Char) (items : List (List Char)) :
    enclose indent level opening closing (item :: items) =
      opening :: (lineBreak indent (level + 1) ++ (item ++ listed indent level closing items)) := by
  have joined : Text.join ',' ((item :: items).map (lineBreak indent (level + 1) ++ ·)) ++
      (lineBreak indent level ++ [closing]) =
        lineBreak indent (level + 1) ++ (item ++ listed indent level closing items) := by
    induction items generalizing item with
    | nil => simp [listed]
    | cons next items ih => simpa [listed] using ih next
  cases indent with
  | none => simpa [enclose, lineBreak] using joined
  | some width => simpa [enclose, lineBreak, Text.join] using joined

theorem skipSpace_listed_nil (indent : Option Nat) (level : Nat) {closing : Char}
    (visible : isSpace closing = false) (rest : List Char) :
    skipSpace (listed indent level closing [] ++ rest) = closing :: rest := by
  rw [listed, List.append_assoc, skipSpace_append fun _ => isSpace_of_mem_lineBreak]
  exact List.dropWhile_cons_of_neg (by simp [visible])

theorem skipSpace_listed_cons (indent : Option Nat) (level : Nat) (closing : Char)
    (item : List Char) (items : List (List Char)) (rest : List Char) :
    skipSpace (listed indent level closing (item :: items) ++ rest) =
      ',' :: (lineBreak indent (level + 1) ++
        (item ++ (listed indent level closing items ++ rest))) := by
  rw [listed, List.cons_append, List.append_assoc, List.append_assoc]
  rfl

theorem length_listed_pos (indent : Option Nat) (level : Nat) (closing : Char)
    (items : List (List Char)) : 0 < (listed indent level closing items).length := by
  cases items <;> simp [listed]

theorem stops_listed (indent : Option Nat) (level : Nat) {closing : Char}
    (bracket : closing = ']' ∨ closing = '\x7d') (items : List (List Char)) (rest : List Char) :
    Stops (listed indent level closing items ++ rest) := by
  intro c first
  cases items with
  | cons item items => cases first; decide
  | nil =>
    cases indent with
    | none => rcases bracket with rfl | rfl <;> cases first <;> decide
    | some width => cases first; decide

theorem isSpace_of_isDigit {c : Char} (h : c.isDigit) : isSpace c = false := by
  rw [Bool.eq_false_iff]
  intro space
  simp only [isSpace, Bool.or_eq_true, beq_iff_eq] at space
  obtain ((rfl | rfl) | rfl) | rfl := space <;> exact absurd h (by decide)

/-- The text of a value starts with a character that neither is blank nor ends a list. -/
theorem exists_write_eq_cons (indent : Option Nat) (level : Nat) {v : Json} (plain : Plain v) :
    ∃ c cs, write indent level v = c :: cs ∧ isSpace c = false ∧ c ≠ ']' := by
  have enclosed (opening closing : Char) (items : List (List Char)) :
      ∃ cs, enclose indent level opening closing items = opening :: cs := by
    cases items with
    | nil => exact ⟨_, enclose_nil ..⟩
    | cons item items => exact ⟨_, enclose_cons ..⟩
  cases plain with
  | null => exact ⟨'n', _, rfl, rfl, by decide⟩
  | bool b => cases b <;> exact ⟨_, _, rfl, rfl, by decide⟩
  | string s => exact ⟨'"', _, rfl, rfl, by decide⟩
  | natural n =>
    obtain ⟨c, cs, text, digit⟩ := exists_digits_eq_cons n.toNat
    refine ⟨c, cs, text, isSpace_of_isDigit digit, ?_⟩
    rintro rfl
    contradiction
  | @array items =>
    obtain ⟨cs, text⟩ := enclosed '[' ']' (writeItems indent level items)
    exact ⟨'[', cs, by rw [write, text], rfl, by decide⟩
  | @object members =>
    obtain ⟨cs, text⟩ := enclosed '\x7b' '\x7d' (writeMembers indent level members)
    exact ⟨'\x7b', cs, by rw [write, text], rfl, by decide⟩

theorem readValue?_digits (n : UInt64) {rest : List Char} (stops : Stops rest) (fuel : Nat) :
    readValue? (fuel + 1) (digits n.toNat ++ rest) = some (.number (.natural n), rest) := by
  obtain ⟨c, cs, text, digit⟩ := exists_digits_eq_cons n.toNat
  have here : skipSpace (digits n.toNat ++ rest) = digits n.toNat ++ rest := by
    rw [text]
    exact List.dropWhile_cons_of_neg (by simp [isSpace_of_isDigit digit])
  rw [readValue?, here]
  split
  case h_7 =>
    simp only [readNumeral?_digits n.toNat stops, Option.map_some, value?_digits, Option.elim]
  all_goals
    rename_i starts
    exact absurd starts (digits_append_ne rfl)

@[simp] theorem skipSpace_bracket (cs : List Char) : skipSpace ('[' :: cs) = '[' :: cs := rfl

@[simp] theorem skipSpace_brace (cs : List Char) :
    skipSpace ('\x7b' :: cs) = '\x7b' :: cs := rfl

theorem readValue?_list {cs tail : List Char} {c : Char} (ahead : skipSpace cs = c :: tail)
    (item : c ≠ ']') (fuel : Nat) :
    readValue? (fuel + 1) ('[' :: cs) = readItems? fuel [] (c :: tail) := by
  simp [readValue?, ahead, item]

theorem readValue?_object {cs tail : List Char} (ahead : skipSpace cs = '"' :: tail) (fuel : Nat) :
    readValue? (fuel + 1) ('\x7b' :: cs) = readMembers? fuel [] ('"' :: tail) := by
  simp [readValue?, ahead]

def memberText (indent : Option Nat) (level : Nat) (m : String × Json) : List Char :=
  '"' :: (m.1.toList.flatMap escape ++
    '"' :: ':' :: ((if indent.isSome then [' '] else []) ++ write indent (level + 1) m.2))

theorem writeMembers_cons (indent : Option Nat) (level : Nat) (m : String × Json)
    (ms : List (String × Json)) :
    writeMembers indent level (m :: ms) =
      memberText indent level m :: writeMembers indent level ms := by
  simp [writeMembers, memberText, quote]

theorem memberText_append (indent : Option Nat) (level : Nat) (m : String × Json)
    (rest : List Char) :
    memberText indent level m ++ rest = '"' :: (m.1.toList.flatMap escape ++
      '"' :: (':' :: ((if indent.isSome then [' '] else []) ++
        (write indent (level + 1) m.2 ++ rest)))) := by
  simp [memberText]

@[simp] theorem skipSpace_quote (cs : List Char) : skipSpace ('"' :: cs) = '"' :: cs := rfl

@[simp] theorem skipSpace_colon (cs : List Char) : skipSpace (':' :: cs) = ':' :: cs := rfl

section Member
variable {indent : Option Nat} {level fuel : Nat} {m : String × Json}
  {acc : List (Option String × Json)} {rest cs : List Char}
  (value : readValue? fuel ((if indent.isSome then [' '] else []) ++
    (write indent (level + 1) m.2 ++ rest)) = some (m.2, rest))
include value

theorem readMembers?_comma (ahead : skipSpace rest = ',' :: cs) :
    readMembers? (fuel + 1) acc (memberText indent level m ++ rest) =
      readMembers? fuel ((some m.1, m.2) :: acc) cs := by
  rw [memberText_append]
  simp [readMembers?, readText?_flatMap_escape, value, ahead]

theorem readMembers?_brace (ahead : skipSpace rest = '\x7d' :: cs) :
    readMembers? (fuel + 1) acc (memberText indent level m ++ rest) =
      some (ofMembers ((some m.1, m.2) :: acc).reverse, cs) := by
  rw [memberText_append]
  simp [readMembers?, readText?_flatMap_escape, value, ahead]

end Member

theorem ofMembers_map (ms : List (String × Json)) :
    ofMembers (ms.map fun m => (some m.1, m.2)) = object ms := by
  rw [ofMembers, mapM_map_eq_some]
  exact fun _ _ => rfl

section Reading
variable (indent : Option Nat)

/-- With that fuel every text that is no longer is read back, and so are the items of a list and
the members of an object, after others that were read before. -/
structure ReadsBack (fuel : Nat) : Prop where
  value : ∀ {v} (level) {rest}, Plain v → (write indent level v).length ≤ fuel → Stops rest →
    readValue? fuel (write indent level v ++ rest) = some (v, rest)
  items : ∀ {v vs level acc rest}, Plain v → (∀ w ∈ vs, Plain w) →
    (write indent (level + 1) v ++
      listed indent level ']' (writeItems indent level vs)).length ≤ fuel →
    readItems? fuel acc (write indent (level + 1) v ++
      (listed indent level ']' (writeItems indent level vs) ++ rest)) =
        some (array (acc.reverse ++ v :: vs), rest)
  members : ∀ {m ms level acc rest}, Plain m.2 → (∀ m ∈ ms, Plain m.2) →
    (memberText indent level m ++
      listed indent level '\x7d' (writeMembers indent level ms)).length ≤ fuel →
    readMembers? fuel acc (memberText indent level m ++
      (listed indent level '\x7d' (writeMembers indent level ms) ++ rest)) =
        some (ofMembers (acc.reverse ++ (m :: ms).map fun m => (some m.1, m.2)), rest)

namespace ReadsBack
variable {indent} {fuel level : Nat} {rest : List Char}

theorem zero : ReadsBack indent 0 where
  value _ _ plain enough _ := by
    obtain ⟨c, cs, text, -⟩ := exists_write_eq_cons indent _ plain
    rw [text] at enough
    contradiction
  items plain _ enough := by
    obtain ⟨c, cs, text, -⟩ := exists_write_eq_cons indent _ plain
    rw [text] at enough
    contradiction
  members _ _ enough := by contradiction

theorem value_succ (ih : ReadsBack indent fuel) {v : Json} (plain : Plain v)
    (enough : (write indent level v).length ≤ fuel + 1) (stops : Stops rest) :
    readValue? (fuel + 1) (write indent level v ++ rest) = some (v, rest) := by
  cases plain with
  | null => rfl
  | bool b => cases b <;> rfl
  | natural n => exact readValue?_digits n stops fuel
  | string s =>
    have text : write indent level (.string s) ++ rest =
        '"' :: (s.toList.flatMap escape ++ '"' :: rest) := by simp [write, quote]
    rw [text, readValue?]
    simp [skipSpace, isSpace, readText?_flatMap_escape]
  | @array items h =>
    cases items with
    | nil => cases indent <;> rfl
    | cons v vs =>
      obtain ⟨first, others⟩ := List.forall_mem_cons.1 h
      rw [write, writeItems, enclose_cons] at enough ⊢
      rw [List.length_cons, List.length_append] at enough
      obtain ⟨c, cs, text, visible, item⟩ := exists_write_eq_cons indent (level + 1) first
      have ahead (after : List Char) :
          skipSpace (lineBreak indent (level + 1) ++ (write indent (level + 1) v ++ after)) =
            c :: (cs ++ after) := by
        rw [skipSpace_append fun _ => isSpace_of_mem_lineBreak, text]
        exact List.dropWhile_cons_of_neg (by simp [visible])
      rw [List.cons_append, List.append_assoc, List.append_assoc, readValue?_list (ahead _) item,
        ← List.cons_append, ← text]
      exact ih.items first others (by omega)
  | @object members h =>
    cases members with
    | nil => cases indent <;> rfl
    | cons m ms =>
      obtain ⟨first, others⟩ := List.forall_mem_cons.1 h
      rw [write, writeMembers_cons, enclose_cons] at enough ⊢
      rw [List.length_cons, List.length_append] at enough
      have ahead (after : List Char) :
          skipSpace (lineBreak indent (level + 1) ++ (memberText indent level m ++ after)) =
            memberText indent level m ++ after :=
        skipSpace_append (fun _ => isSpace_of_mem_lineBreak) _
      rw [List.cons_append, List.append_assoc, List.append_assoc, readValue?_object (ahead _),
        ← ofMembers_map]
      exact ih.members first others (by omega)

theorem items_succ (ih : ReadsBack indent fuel) {v : Json} {vs acc : List Json} (plain : Plain v)
    (plains : ∀ w ∈ vs, Plain w) (enough : (write indent (level + 1) v ++
      listed indent level ']' (writeItems indent level vs)).length ≤ fuel + 1) :
    readItems? (fuel + 1) acc (write indent (level + 1) v ++
      (listed indent level ']' (writeItems indent level vs) ++ rest)) =
        some (array (acc.reverse ++ v :: vs), rest) := by
  have stops := stops_listed indent level (.inl rfl) (writeItems indent level vs) rest
  have follows := length_listed_pos indent level ']' (writeItems indent level vs)
  rw [List.length_append] at enough
  rw [readItems?, ih.value _ plain (by omega) stops]
  cases vs with
  | nil => simp [writeItems, skipSpace_listed_nil _ _ (show isSpace ']' = false from rfl)]
  | cons w ws =>
    obtain ⟨next, others⟩ := List.forall_mem_cons.1 plains
    rw [writeItems, listed, List.length_cons, List.length_append] at enough
    simp only [Option.bind_eq_bind, Option.bind_some, writeItems, skipSpace_listed_cons]
    rw [readItems?_append fun _ => isSpace_of_mem_lineBreak]
    refine (ih.items next others (by omega)).trans ?_
    rw [List.reverse_cons, List.append_assoc, List.singleton_append]

theorem members_succ (ih : ReadsBack indent fuel) {m : String × Json} {ms : List (String × Json)}
    {acc : List (Option String × Json)} (plain : Plain m.2) (plains : ∀ m ∈ ms, Plain m.2)
    (enough : (memberText indent level m ++
      listed indent level '\x7d' (writeMembers indent level ms)).length ≤ fuel + 1) :
    readMembers? (fuel + 1) acc (memberText indent level m ++
      (listed indent level '\x7d' (writeMembers indent level ms) ++ rest)) =
        some (ofMembers (acc.reverse ++ (m :: ms).map fun m => (some m.1, m.2)), rest) := by
  have stops := stops_listed indent level (.inr rfl) (writeMembers indent level ms) rest
  have follows := length_listed_pos indent level '\x7d' (writeMembers indent level ms)
  have blank : ∀ c ∈ if indent.isSome then [' '] else [], isSpace c := by
    cases indent <;> simp [isSpace]
  have value : readValue? fuel ((if indent.isSome then [' '] else []) ++
      (write indent (level + 1) m.2 ++
        (listed indent level '\x7d' (writeMembers indent level ms) ++ rest))) =
      some (m.2, listed indent level '\x7d' (writeMembers indent level ms) ++ rest) := by
    rw [readValue?_append blank]
    refine ih.value _ plain ?_ stops
    simp only [memberText, List.length_append, List.length_cons] at enough
    omega
  cases ms with
  | nil =>
    have ends : skipSpace (listed indent level '\x7d' (writeMembers indent level []) ++ rest) =
        '\x7d' :: rest := skipSpace_listed_nil _ _ rfl rest
    rw [readMembers?_brace value ends, List.reverse_cons]
    rfl
  | cons n ns =>
    obtain ⟨next, others⟩ := List.forall_mem_cons.1 plains
    have more :
        skipSpace (listed indent level '\x7d' (writeMembers indent level (n :: ns)) ++ rest) =
          ',' :: (lineBreak indent (level + 1) ++ (memberText indent level n ++
            (listed indent level '\x7d' (writeMembers indent level ns) ++ rest))) := by
      rw [writeMembers_cons, skipSpace_listed_cons]
    rw [writeMembers_cons, listed, List.length_append, List.length_cons, List.length_append]
      at enough
    rw [readMembers?_comma value more, readMembers?_append fun _ => isSpace_of_mem_lineBreak]
    refine (ih.members next others (by omega)).trans ?_
    rw [List.reverse_cons, List.append_assoc, List.singleton_append]
    rfl

end ReadsBack

theorem readsBack (fuel : Nat) : ReadsBack indent fuel := by
  induction fuel with
  | zero => exact .zero
  | succ fuel ih => exact ⟨fun _ _ => ih.value_succ, ih.items_succ, ih.members_succ⟩

theorem parse?_write {v : Json} (plain : Plain v) :
    parse? (String.ofList (write indent 0 v)) = some v := by
  apply parse?_ofList
  have stops : Stops [] := nofun
  have read := (readsBack indent _).value 0 plain (Nat.le_succ _) stops
  rwa [List.append_nil] at read

end Reading

theorem parse?_pretty {v : Json} (plain : Plain v) (width : Nat) :
    parse? (v.pretty width) = some v :=
  parse?_write (some width) plain

end Workload.Json
