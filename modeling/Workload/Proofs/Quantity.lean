import Workload.Codec.Quantity
import Workload.Proofs.Text
import Mathlib.Algebra.Order.Floor.Semifield
import Mathlib.Data.List.TakeWhile
import Mathlib.Data.Rat.Floor
import Mathlib.Tactic.Positivity
import Mathlib.Tactic.Ring

/-! Amounts are exact. A text with the form of its quantity is read as the whole units that it
stands for, if they fit 64 bits, and no other text is read. Nothing is lost on the way: what does
not fit 128 bits there would not fit 64 in the end. -/
namespace Workload

namespace DecimalParts

/-- What stands on one side of the point: digits, or nothing. Where signs are allowed a plus may
stand before the digits. -/
inductive Side (signed : Bool) : List Char → Nat → Prop
  | digits {ds : List Char} (h : ∀ c ∈ ds, c.isDigit) : Side signed ds (Text.ofDigits ds)
  | plus {ds : List Char} (allowed : signed) (h : Text.isDigits ds) :
      Side signed ('+' :: ds) (Text.ofDigits ds)

/-- One side alone, or two with a point between them, of which one may be empty; no more than 18
characters come after the point. -/
inductive Numeral (signed : Bool) : List Char → DecimalParts → Prop
  | whole {cs : List Char} {m : Nat} (h : Side signed cs m) (nonempty : cs ≠ []) :
      Numeral signed cs ⟨m, 0, 0⟩
  | point {cs ds : List Char} {m n : Nat} (before : Side signed cs m) (after : Side signed ds n)
      (nonempty : cs ≠ [] ∨ ds ≠ []) (short : ds.length ≤ 18) :
      Numeral signed (cs ++ '.' :: ds) ⟨m, n, ds.length⟩

def value (d : DecimalParts) : ℚ := d.whole + d.fraction / 10 ^ d.places

section Reading
variable {signed : Bool} {cs : List Char} {m : Nat} {d : DecimalParts}

theorem Side.isDigit_or_plus (h : Side signed cs m) :
    ∀ c ∈ cs, c.isDigit ∨ signed ∧ c = '+' := by
  intro c hc
  cases h with
  | digits h => exact .inl (h c hc)
  | plus allowed h =>
    rcases List.mem_cons.1 hc with rfl | hc
    · exact .inr ⟨allowed, rfl⟩
    · exact .inl (Text.isDigit_of_isDigits h c hc)

theorem Side.point_not_mem (h : Side signed cs m) : '.' ∉ cs := by
  intro hc
  rcases h.isDigit_or_plus _ hc with digit | ⟨_, plus⟩
  · exact absurd digit (by decide)
  · exact absurd plus (by decide)

theorem Side.lt (h : Side signed cs m) : m < 10 ^ cs.length := by
  cases h with
  | digits h => exact Text.ofDigits_lt h
  | @plus ds allowed h =>
    calc Text.ofDigits ds < 10 ^ ds.length := Text.ofDigits_lt (Text.isDigit_of_isDigits h)
      _ ≤ 10 ^ (ds.length + 1) := Nat.pow_le_pow_right (by decide) (Nat.le_succ _)

theorem Side.toUnsigned (h : Side signed cs m) (plus : '+' ∉ cs) : Side false cs m := by
  cases h with
  | digits h => exact .digits h
  | plus => exact absurd List.mem_cons_self plus

theorem Side.toSigned (h : Side signed cs m) : Side true cs m := by
  cases h with
  | digits h => exact .digits h
  | plus _ h => exact .plus rfl h

theorem Numeral.isDigit_or_sign (h : Numeral signed cs d) :
    ∀ c ∈ cs, c.isDigit ∨ c = '.' ∨ signed ∧ c = '+' := by
  intro c hc
  cases h with
  | whole h => exact (h.isDigit_or_plus c hc).imp_right .inr
  | point before after =>
    rcases List.mem_append.1 hc with hc | hc
    · exact (before.isDigit_or_plus c hc).imp_right .inr
    · rcases List.mem_cons.1 hc with rfl | hc
      · exact .inr (.inl rfl)
      · exact (after.isDigit_or_plus c hc).imp_right .inr

theorem Numeral.fraction_lt (h : Numeral signed cs d) : d.fraction < 10 ^ 18 := by
  cases h with
  | whole => exact Nat.pow_pos (by decide)
  | @point _ ds _ n _ after _ short =>
    calc n < 10 ^ ds.length := after.lt
      _ ≤ 10 ^ 18 := Nat.pow_le_pow_right (by decide) short

theorem Numeral.toUnsigned (h : Numeral signed cs d) (plus : '+' ∉ cs) : Numeral false cs d := by
  cases h with
  | whole h nonempty => exact .whole (h.toUnsigned plus) nonempty
  | point before after nonempty short =>
    simp only [List.mem_append, List.mem_cons, not_or] at plus
    exact .point (before.toUnsigned plus.1) (after.toUnsigned plus.2.2) nonempty short

theorem Numeral.toSigned (h : Numeral signed cs d) : Numeral true cs d := by
  cases h with
  | whole h nonempty => exact .whole h.toSigned nonempty
  | point before after nonempty short => exact .point before.toSigned after.toSigned nonempty short

theorem side?_eq_some_iff : side? cs = some m ↔ Side true cs m ∧ m < Text.size128 := by
  cases cs with
  | nil =>
    constructor
    · intro read
      cases read
      exact ⟨.digits (by simp), by decide⟩
    · rintro ⟨h, -⟩
      cases h
      rfl
  | cons c cs =>
    have signed : Text.unsigned? (c :: cs) = some m ↔ Side true (c :: cs) m := by
      rw [Text.unsigned?_eq_some_iff]
      constructor
      · rintro ⟨ds, rfl | same, digits, rfl⟩
        · exact .digits (Text.isDigit_of_isDigits digits)
        · exact same ▸ .plus rfl digits
      · intro h
        cases h with
        | digits h => exact ⟨_, .inl rfl, Text.isDigits_iff.2 ⟨List.cons_ne_nil _ _, h⟩, rfl⟩
        | plus _ h => exact ⟨_, .inr rfl, h, rfl⟩
    simp only [side?, Text.unsignedBelow?, List.isEmpty_cons, Bool.false_eq_true, if_false,
      Option.filter_eq_some_iff, decide_eq_true_eq, signed]

theorem parse?_whole (point : '.' ∉ cs) (nonempty : cs ≠ []) :
    parse? cs = (side? cs).map (⟨·, 0, 0⟩) := by
  have nothing : side? [] = some 0 := rfl
  unfold parse?
  rw [Text.splitFirst_eq_none_iff.2 point]
  cases read : side? cs <;> simp [nonempty, nothing, read]

theorem parse?_point {ds : List Char} (point : '.' ∉ cs) :
    parse? (cs ++ '.' :: ds) =
      if (cs ≠ [] ∨ ds ≠ []) ∧ ds.length ≤ 18 then
        (side? cs).bind fun m => (side? ds).map fun n => ⟨m, n, ds.length⟩
      else none := by
  unfold parse?
  rw [Text.splitFirst_append ds point]
  by_cases empty : cs = [] ∧ ds = []
  · simp [empty]
  · have nonempty : cs ≠ [] ∨ ds ≠ [] := Decidable.not_and_iff_or_not.1 empty
    by_cases short : ds.length ≤ 18
    · have long : ¬18 < ds.length := Nat.not_lt.2 short
      rw [if_pos ⟨nonempty, short⟩]
      cases before : side? cs <;> cases after : side? ds <;> simp [empty, long, before, after]
    · have long : 18 < ds.length := Nat.not_le.1 short
      rw [if_neg fun h => short h.2]
      simp [empty, long]

/-- Numerals are read as their parts, if the parts fit 128 bits; the part after the point does. -/
theorem parse?_eq_some_iff :
    parse? cs = some d ↔ Numeral true cs d ∧ d.whole < Text.size128 := by
  constructor
  · intro read
    by_cases point : '.' ∈ cs
    · obtain ⟨before, after, rfl, first⟩ := List.eq_append_cons_of_mem point
      rw [parse?_point first] at read
      obtain ⟨⟨nonempty, short⟩, read⟩ := Option.ite_none_right_eq_some.1 read
      obtain ⟨m, hm, read⟩ := Option.bind_eq_some_iff.1 read
      obtain ⟨n, hn, rfl⟩ := Option.map_eq_some_iff.1 read
      rw [side?_eq_some_iff] at hm hn
      exact ⟨.point hm.1 hn.1 nonempty short, hm.2⟩
    · have nonempty : cs ≠ [] := by
        rintro rfl
        cases read
      rw [parse?_whole point nonempty] at read
      obtain ⟨m, hm, rfl⟩ := Option.map_eq_some_iff.1 read
      rw [side?_eq_some_iff] at hm
      exact ⟨.whole hm.1 nonempty, hm.2⟩
  · rintro ⟨numeral, small⟩
    have fraction := numeral.fraction_lt
    cases numeral with
    | whole h nonempty =>
      rw [parse?_whole h.point_not_mem nonempty, side?_eq_some_iff.2 ⟨h, small⟩]
      rfl
    | point before after nonempty short =>
      have hafter := side?_eq_some_iff.2 ⟨after, fraction.trans (by decide)⟩
      rw [parse?_point before.point_not_mem, if_pos ⟨nonempty, short⟩,
        side?_eq_some_iff.2 ⟨before, small⟩, hafter]
      rfl

end Reading

/-- Units so neither large nor fine that the arithmetic on the way stays in its bounds. -/
structure InRange (multiplier divisor : Nat) : Prop where
  positive : 0 < multiplier
  bounded : multiplier ≤ 2 ^ 40
  divides : 0 < divisor
  coarse : divisor ≤ 1000

instance (multiplier divisor : Nat) : Decidable (InRange multiplier divisor) :=
  decidable_of_iff (0 < multiplier ∧ multiplier ≤ 2 ^ 40 ∧ 0 < divisor ∧ divisor ≤ 1000)
    ⟨fun ⟨positive, bounded, divides, coarse⟩ => ⟨positive, bounded, divides, coarse⟩,
      fun h => ⟨h.positive, h.bounded, h.divides, h.coarse⟩⟩

section Scaling
variable {d : DecimalParts} {multiplier divisor : Nat} {n : UInt64}

theorem floor_value (d : DecimalParts) (multiplier divisor : Nat) :
    ⌊d.value * multiplier / divisor⌋₊ =
      (d.whole * multiplier + d.fraction * multiplier / 10 ^ d.places) / divisor := by
  have fraction : (0 : ℚ) ≤ ((d.fraction * multiplier : ℕ) : ℚ) / ((10 ^ d.places : ℕ) : ℚ) := by
    positivity
  have product : d.value * multiplier =
      ((d.fraction * multiplier : ℕ) : ℚ) / ((10 ^ d.places : ℕ) : ℚ) +
        ((d.whole * multiplier : ℕ) : ℚ) := by
    unfold value
    push_cast
    ring
  rw [Nat.floor_div_natCast, product, Nat.floor_add_natCast fraction, Nat.floor_div_eq_div,
    Nat.add_comm]

/-- A result of 64 bits is never lost for want of bits on the way to it. -/
theorem scale?_eq_some_iff (fraction : d.fraction < 10 ^ 18) (unit : InRange multiplier divisor) :
    d.scale? multiplier divisor = some n ↔ ⌊d.value * multiplier / divisor⌋₊ = n.toNat := by
  rw [floor_value]
  unfold scale?
  dsimp only
  rw [Nat.pow_eq]
  generalize d.fraction * multiplier / 10 ^ d.places = rest
  have hfraction : d.fraction * multiplier < Text.size128 :=
    calc d.fraction * multiplier ≤ 10 ^ 18 * 2 ^ 40 := Nat.mul_le_mul fraction.le unit.bounded
      _ < Text.size128 := by decide
  have hsum (h : (d.whole * multiplier + rest) / divisor < UInt64.size) :
      d.whole * multiplier + rest < Text.size128 :=
    calc d.whole * multiplier + rest
        < UInt64.size * divisor := (Nat.div_lt_iff_lt_mul unit.divides).1 h
      _ ≤ UInt64.size * 1000 := Nat.mul_le_mul_left _ unit.coarse
      _ < Text.size128 := by decide
  rw [Option.ite_none_right_eq_some]
  constructor
  · rintro ⟨⟨-, -, -, h⟩, same⟩
    cases same
    exact (UInt64.toNat_ofNat_of_lt h).symm
  · intro same
    have h : (d.whole * multiplier + rest) / divisor < UInt64.size := same ▸ n.toNat_lt_size
    have hwhole : d.whole * multiplier < Text.size128 := (Nat.le_add_right _ _).trans_lt (hsum h)
    refine ⟨⟨hwhole, hfraction, hsum h, h⟩, ?_⟩
    rw [same, UInt64.ofNat_toNat]

theorem whole_lt_of_scale? (positive : 0 < multiplier)
    (scaled : d.scale? multiplier divisor = some n) : d.whole < Text.size128 := by
  obtain ⟨⟨fits, -⟩, -⟩ := Option.ite_none_right_eq_some.1 scaled
  exact (Nat.le_mul_of_pos_right _ positive).trans_lt fits

end Scaling
end DecimalParts

namespace Quantity
open DecimalParts

abbrev Units := List (String × Nat × Nat)

def byteUnits : Units := [
  ("", 1, 1), ("b", 1, 1), ("k", 2 ^ 10, 1), ("kb", 2 ^ 10, 1), ("m", 2 ^ 20, 1), ("mb", 2 ^ 20, 1),
  ("g", 2 ^ 30, 1), ("gb", 2 ^ 30, 1)]

def memoryUnits : Units := [
  ("", 1, 1), ("m", 1, 1000), ("k", 10 ^ 3, 1), ("K", 10 ^ 3, 1), ("M", 10 ^ 6, 1),
  ("G", 10 ^ 9, 1), ("T", 10 ^ 12, 1), ("Ki", 2 ^ 10, 1), ("Mi", 2 ^ 20, 1), ("Gi", 2 ^ 30, 1), ("Ti", 2 ^ 40, 1)]

def cpuUnits : Units := [("", 1024, 1), ("m", 1024, 1000)]

/-- A numeral with one of the units after it stands for a number of bytes or shares. -/
inductive Denotes (signed : Bool) (units : Units) : List Char → ℚ → Prop
  | intro {number : List Char} {d : DecimalParts} {unit : String} {multiplier divisor : Nat}
      (numeral : Numeral signed number d) (known : (unit, multiplier, divisor) ∈ units) :
      Denotes signed units (number ++ unit.toList) (d.value * multiplier / divisor)

/-- The result is the number that is denoted, rounded down, if that fits 64 bits. Where it does not,
or nothing is denoted, the text is refused. -/
structure Exact (denoted : ℚ → Prop) (s : String) (result : Except FieldError UInt64) : Prop where
  ok_iff : ∀ n, result = .ok n ↔ ∃ q, denoted q ∧ ⌊q⌋₊ < 2 ^ 64 ∧ ⌊q⌋₊ = n.toNat
  error_iff : ∀ e, result = .error e ↔
    e = .invalidQuantity s ∧ ¬∃ q, denoted q ∧ ⌊q⌋₊ < 2 ^ 64

section Amount
variable {s : String} {number : List Char} {unit : Option (Nat × Nat)}

theorem amount_eq_ok_iff {n : UInt64} : amount s number unit = .ok n ↔
    ∃ x ∈ unit, ∃ d, parse? number = some d ∧ d.scale? x.1 x.2 = some n := by
  have result : amount s number unit = .ok n ↔
      (unit.bind fun x => (parse? number).bind fun d => d.scale? x.1 x.2) = some n := by
    unfold amount
    dsimp only [bind]
    split <;> simp [*]
  rw [result]
  simp [Option.bind_eq_some_iff]

theorem eq_of_amount_eq_error {e : FieldError} (failed : amount s number unit = .error e) :
    e = .invalidQuantity s := by
  unfold amount at failed
  dsimp only at failed
  split at failed <;> cases failed
  rfl

theorem exact_amount {denoted : ℚ → Prop} (range : ∀ x ∈ unit, InRange x.1 x.2)
    (meaning : ∀ q, denoted q ↔
      ∃ x ∈ unit, ∃ d, Numeral true number d ∧ q = d.value * x.1 / x.2) :
    Exact denoted s (amount s number unit) := by
  have ok_iff (n : UInt64) : amount s number unit = .ok n ↔
      ∃ q, denoted q ∧ ⌊q⌋₊ < 2 ^ 64 ∧ ⌊q⌋₊ = n.toNat := by
    rw [amount_eq_ok_iff]
    constructor
    · rintro ⟨x, hx, d, read, scaled⟩
      obtain ⟨numeral, -⟩ := parse?_eq_some_iff.1 read
      have floor := (scale?_eq_some_iff numeral.fraction_lt (range x hx)).1 scaled
      exact ⟨_, (meaning _).2 ⟨x, hx, d, numeral, rfl⟩, floor ▸ n.toNat_lt_size, floor⟩
    · rintro ⟨q, hq, -, floor⟩
      obtain ⟨x, hx, d, numeral, rfl⟩ := (meaning q).1 hq
      have scaled := (scale?_eq_some_iff numeral.fraction_lt (range x hx)).2 floor
      have whole := whole_lt_of_scale? (range x hx).positive scaled
      exact ⟨x, hx, d, parse?_eq_some_iff.2 ⟨numeral, whole⟩, scaled⟩
  refine ⟨ok_iff, fun e => ⟨fun failed => ?_, ?_⟩⟩
  · refine ⟨eq_of_amount_eq_error failed, ?_⟩
    rintro ⟨q, hq, fits⟩
    have read := (ok_iff (.ofNat ⌊q⌋₊)).2 ⟨q, hq, fits, (UInt64.toNat_ofNat_of_lt fits).symm⟩
    rw [read] at failed
    cases failed
  · rintro ⟨rfl, none⟩
    cases result : amount s number unit with
    | ok n =>
      obtain ⟨q, hq, fits, -⟩ := (ok_iff n).1 result
      exact absurd ⟨q, hq, fits⟩ none
    | error e => rw [eq_of_amount_eq_error result]

end Amount

section Splitting
variable {cs : List Char} {units : Units}

def inNumber (c : Char) : Bool := c.isDigit || c == '.'

theorem inNumber_of_numeral {d : DecimalParts} (h : Numeral false cs d) :
    ∀ c ∈ cs, inNumber c := by
  intro c hc
  rcases h.isDigit_or_sign c hc with digit | rfl | ⟨signed, -⟩
  · simp [inNumber, digit]
  · rfl
  · cases signed

theorem splitUnit_append {unit : String} (number : ∀ c ∈ cs, inNumber c)
    (bare : ∀ c ∈ unit.toList.head?, inNumber c = false) :
    splitUnit (cs ++ unit.toList) = (cs, unit) := by
  have split : splitUnit (cs ++ unit.toList) = ((cs ++ unit.toList).takeWhile inNumber,
      String.ofList ((cs ++ unit.toList).dropWhile inNumber)) := rfl
  rw [split, Text.takeWhile_run number bare, Text.dropWhile_run number bare, String.ofList_toList]

theorem append_splitUnit (cs : List Char) :
    (splitUnit cs).1 ++ (splitUnit cs).2.toList = cs ∧ ∀ c ∈ (splitUnit cs).1, inNumber c := by
  constructor
  · unfold splitUnit
    rw [String.toList_ofList, List.takeWhile_append_dropWhile]
  · intro c hc
    exact List.mem_takeWhile_imp hc

/-- No unit starts as a number does, so there is one way only to take a text apart. -/
theorem denotes_iff_splitUnit (bare : ∀ u ∈ units, ∀ c ∈ u.1.toList.head?, inNumber c = false)
    (q : ℚ) : Denotes false units cs q ↔
      ∃ x, ((splitUnit cs).2, x) ∈ units ∧
        ∃ d, Numeral true (splitUnit cs).1 d ∧ q = d.value * x.1 / x.2 := by
  constructor
  · rintro ⟨numeral, known⟩
    rw [splitUnit_append (inNumber_of_numeral numeral) (bare _ known)]
    exact ⟨_, known, _, numeral.toSigned, rfl⟩
  · rintro ⟨x, known, d, numeral, rfl⟩
    obtain ⟨whole, number⟩ := append_splitUnit cs
    have plus : '+' ∉ (splitUnit cs).1 := fun h => absurd (number _ h) (by decide)
    have denoted := Denotes.intro (numeral.toUnsigned plus) known
    rwa [whole] at denoted

theorem exact_splitUnit {unit? : String → Option (Nat × Nat)}
    (known : ∀ unit x, unit? unit = some x ↔ (unit, x) ∈ units)
    (bare : ∀ u ∈ units, ∀ c ∈ u.1.toList.head?, inNumber c = false)
    (range : ∀ u ∈ units, InRange u.2.1 u.2.2) (s : String) (cs : List Char) :
    Exact (Denotes false units cs) s (amount s (splitUnit cs).1 (unit? (splitUnit cs).2)) := by
  refine exact_amount ?_ ?_
  · intro x hx
    exact range _ ((known _ x).1 hx)
  · intro q
    simp only [denotes_iff_splitUnit bare, Option.mem_def, known]

end Splitting

theorem byteUnit?_eq_some_iff (unit : String) (x : Nat × Nat) :
    byteUnit? unit = some x ↔ (unit, x) ∈ byteUnits := by
  unfold byteUnit? byteUnits
  simp only [List.mem_cons, List.not_mem_nil, or_false, Prod.mk.injEq]
  split <;> simp_all [@eq_comm _ x]

theorem memoryUnit?_eq_some_iff (unit : String) (x : Nat × Nat) :
    memoryUnit? unit = some x ↔ (unit, x) ∈ memoryUnits := by
  unfold memoryUnit? memoryUnits
  simp only [List.mem_cons, List.not_mem_nil, or_false, Prod.mk.injEq]
  split <;> simp_all [@eq_comm _ x]

/-- Sizes in bytes are read in either case, amounts of memory as they stand; both are exact. -/
theorem byteSize_memory_exact (s : String) :
    Exact (Denotes false byteUnits ((Text.trim s.toList).map Char.toLower)) s (byteSize s) ∧
    Exact (Denotes false memoryUnits (Text.trim s.toList)) s (memory s) :=
  ⟨exact_splitUnit byteUnit?_eq_some_iff (by simp [byteUnits, inNumber]) (by decide) s _,
    exact_splitUnit memoryUnit?_eq_some_iff (by simp [memoryUnits, inNumber]) (by decide) s _⟩

section Cores
variable {signed : Bool} {cs : List Char} {q : ℚ}

theorem Denotes.toUnsigned (h : Denotes true cpuUnits cs q) (plus : '+' ∉ cs) :
    Denotes false cpuUnits cs q := by
  obtain ⟨numeral, known⟩ := h
  exact .intro (numeral.toUnsigned fun h => plus (List.mem_append_left _ h)) known

theorem Denotes.toSigned (h : Denotes signed cpuUnits cs q) : Denotes true cpuUnits cs q := by
  obtain ⟨numeral, known⟩ := h
  exact .intro numeral.toSigned known

theorem Denotes.plus_not_mem (h : Denotes false cpuUnits cs q) : '+' ∉ cs := by
  obtain ⟨numeral, known⟩ := h
  have unit : ∀ u ∈ cpuUnits, '+' ∉ u.1.toList := by decide
  intro hc
  rcases List.mem_append.1 hc with hc | hc
  · have plain : inNumber '+' = true := inNumber_of_numeral numeral _ hc
    cases plain
  · exact unit _ known hc

theorem Denotes.exists_numeral (h : Denotes true cpuUnits cs q) :
    (Text.dropEnding? "m" cs = none ∧ ∃ d, Numeral true cs d ∧ q = d.value * 1024) ∨
      ∃ number, Text.dropEnding? "m" cs = some number ∧
        ∃ d, Numeral true number d ∧ q = d.value * 1024 / 1000 := by
  obtain ⟨numeral, known⟩ := h
  rename_i number d unit multiplier divisor
  simp only [cpuUnits, List.mem_cons, List.not_mem_nil, or_false, Prod.mk.injEq] at known
  rcases known with ⟨rfl, rfl, rfl⟩ | ⟨rfl, rfl, rfl⟩
  · rw [String.toList_empty, List.append_nil]
    refine .inl ⟨Text.dropEnding?_eq_none (c := 'm') rfl fun last => ?_, d, numeral, by simp⟩
    have letter := numeral.isDigit_or_sign _ (List.mem_of_getLast? last)
    exact absurd letter (by decide)
  · exact .inr ⟨number, Text.dropEnding?_append "m" number, d, numeral, by simp⟩

theorem exact_cpu (s : String) : Exact (Denotes true cpuUnits (Text.trim s.toList)) s (cpu s) := by
  unfold cpu
  dsimp only
  generalize Text.trim s.toList = cs
  cases ending : Text.dropEnding? "m" cs with
  | some number =>
    refine exact_amount (by decide) fun q => ⟨fun h => ?_, ?_⟩
    · rcases h.exists_numeral with ⟨none, -⟩ | ⟨number', same, d, numeral, rfl⟩
      · rw [ending] at none
        cases none
      · rw [ending, Option.some.injEq] at same
        exact ⟨_, rfl, d, same ▸ numeral, by simp⟩
    · rintro ⟨_, ⟨⟩, d, numeral, rfl⟩
      rw [← Text.dropEnding?_eq_some_iff.1 ending]
      exact .intro numeral (by decide)
  | none =>
    refine exact_amount (by decide) fun q => ⟨fun h => ?_, ?_⟩
    · rcases h.exists_numeral with ⟨-, d, numeral, rfl⟩ | ⟨number, some, -⟩
      · exact ⟨_, rfl, d, numeral, by simp⟩
      · rw [ending] at some
        cases some
    · rintro ⟨_, ⟨⟩, d, numeral, rfl⟩
      have denoted : Denotes true cpuUnits (cs ++ "".toList) (d.value * (1024 : ℕ) / (1 : ℕ)) :=
        .intro numeral (by decide)
      simpa using denoted

/-- Amounts of processor time are exact for numerals that may have a plus sign on either side of the
point, where it counts as one of the places. Texts without a plus are read by the plain numerals. -/
theorem cpu_exact (s : String) :
    Exact (Denotes true cpuUnits (Text.trim s.toList)) s (cpu s) ∧
    ('+' ∉ s.toList → Exact (Denotes false cpuUnits (Text.trim s.toList)) s (cpu s)) := by
  have exact := exact_cpu s
  refine ⟨exact, fun plus => ?_⟩
  have plain : '+' ∉ Text.trim s.toList := fun h => plus (Text.mem_of_mem_trimWhile h)
  have same (q : ℚ) : Denotes true cpuUnits (Text.trim s.toList) q ↔
      Denotes false cpuUnits (Text.trim s.toList) q := ⟨(·.toUnsigned plain), (·.toSigned)⟩
  rwa [funext fun q => propext (same q)] at exact

theorem cpu_exact_millis :
    '+' ∉ " 100m".toList ∧
    Exact (Denotes false cpuUnits "100m".toList) " 100m" (cpu " 100m") ∧
    cpu " 100m" = .ok 102 ∧ cpu "+2" = .ok 2048 := by
  have plus : '+' ∉ " 100m".toList := by decide
  exact ⟨plus, (cpu_exact " 100m").2 plus, by decide, by decide⟩

theorem cpu_reads_inner_sign :
    ¬ ∀ s, Exact (Denotes false cpuUnits (Text.trim s.toList)) s (cpu s) := by
  intro h
  have read : cpu "2.+5" = .ok 2099 := by decide
  obtain ⟨q, denoted, -⟩ := ((h "2.+5").ok_iff 2099).1 read
  exact denoted.plus_not_mem (by decide)

end Cores
end Quantity
end Workload
