import Workload.Codec.Quantity
import Workload.Proofs.Build
import Mathlib.Data.List.TakeWhile

/-! Numbers and their quoted numerals. A field reads a number by one path and a text by another; both
end in the same value or the same error, for every number of 64 bits. -/
namespace Workload

theorem Text.toLower_of_isDigit {c : Char} (h : c.isDigit) : c.toLower = c := by
  simp only [Char.isDigit, Bool.and_eq_true, decide_eq_true_eq] at h
  have small : c.toNat ≤ 57 := h.2
  refine dif_neg fun upper => ?_
  have large : 65 ≤ c.toNat := upper.1
  omega

theorem DecimalParts.parse?_digits (n : UInt64) :
    parse? (Text.digits n.toNat) = some ⟨n.toNat, 0, 0⟩ := by
  have point : Text.splitFirst '.' (Text.digits n.toNat) = none :=
    Text.splitFirst_eq_none_iff.2 (Text.not_mem_digits (by decide) n.toNat)
  have size : n.toNat < Text.size128 := n.toNat_lt_size.trans (by decide)
  have whole : side? (Text.digits n.toNat) = some n.toNat := by
    simp [side?, Text.digits_ne_nil, Text.unsignedBelow?, Text.unsigned?_digits, size]
  have fraction : side? [] = some 0 := rfl
  simp [parse?, point, whole, fraction, Text.digits_ne_nil]

theorem Quantity.splitUnit_digits (n : Nat) : splitUnit (Text.digits n) = (Text.digits n, "") := by
  have number : ∀ c ∈ Text.digits n, (c.isDigit || c == '.') = true := by
    intro c hc
    rw [Text.isDigit_of_mem_digits hc, Bool.true_or]
  unfold splitUnit
  dsimp only
  rw [List.takeWhile_eq_self_iff.2 number, List.dropWhile_eq_nil_iff.2 number]

theorem Quantity.byteSize_numeral (n : UInt64) : byteSize (numeral n.toNat) = .ok n := by
  have lower : (Text.digits n.toNat).map Char.toLower = Text.digits n.toNat := by
    rw [List.map_congr_left fun c hc => Text.toLower_of_isDigit (Text.isDigit_of_mem_digits hc),
      List.map_id']
  have scaled : DecimalParts.scale? ⟨n.toNat, 0, 0⟩ 1 1 = some n := by
    have size := n.toNat_lt_size
    have wide : n.toNat < Text.size128 := size.trans (by decide)
    have zero : 0 < Text.size128 := by decide
    simp [DecimalParts.scale?, wide, size, zero]
  have unit : byteUnit? "" = some (1, 1) := rfl
  unfold byteSize numeral
  rw [String.toList_ofList, Text.trim_digits, lower, splitUnit_digits]
  simp [amount, unit, DecimalParts.parse?_digits, scaled]

/-- The scalar itself, or the numeral of a number as a text. -/
inductive Scalar.Quoted : Scalar → Scalar → Prop
  | same (s : Scalar) : Quoted s s
  | number (n : UInt64) : Quoted (int n) (text (numeral n.toNat))

namespace Scalar.Quoted
variable {s t : Scalar}

theorem toText_eq (h : s.Quoted t) : s.toText = t.toText := by
  cases h <;> rfl

theorem toUInt64_eq (h : s.Quoted t) : s.toUInt64 = t.toUInt64 := by
  cases h with
  | same => rfl
  | number n =>
    have trimmed : Text.trim (numeral n.toNat).toList = Text.digits n.toNat := by
      rw [numeral, String.toList_ofList, Text.trim_digits]
    unfold toUInt64
    dsimp only
    rw [trimmed, Text.uint64?_digits]

theorem toNatBelow_eq (h : s.Quoted t) (bound : Nat) : s.toNatBelow bound = t.toNatBelow bound := by
  unfold toNatBelow
  rw [h.toUInt64_eq]

theorem toUInt16_eq (h : s.Quoted t) : s.toUInt16 = t.toUInt16 :=
  congrArg (Except.map _) (h.toNatBelow_eq _)

theorem toUInt32_eq (h : s.Quoted t) : s.toUInt32 = t.toUInt32 :=
  congrArg (Except.map _) (h.toNatBelow_eq _)

end Scalar.Quoted

namespace Dict
variable {d e : Dict Scalar}

def Quoted (d e : Dict Scalar) : Prop :=
  List.Forall₂ (fun x y => x.1 = y.1 ∧ x.2.Quoted y.2) d.entries e.entries

theorem Quoted.texts_eq (h : d.Quoted e) : Pairs.texts d = Pairs.texts e := by
  refine Pairs.texts_congr (Dict.ext (map_eq_of_forall₂ (h.imp ?_)))
  intro x y alike
  rw [alike.1, alike.2.toText_eq]

theorem Quoted.find?_rel (h : d.Quoted e) (key : String) :
    Option.Rel Scalar.Quoted (d.find? key) (e.find? key) :=
  lookup_rel (R := fun _ => Scalar.Quoted) h key

end Dict

namespace Value
variable {v w : Value}

inductive Quoted : Value → Value → Prop
  | same (v : Value) : Quoted v v
  | number (n : UInt64) : Quoted (.number (.natural n)) (.string (numeral n.toNat))

/-- A mapping of scalars with quoted numerals in the places of numbers; nothing else changes. -/
inductive TableQuoted : Value → Value → Prop
  | same (v : Value) : TableQuoted v v
  | mapping {es fs : List (Value × Value)}
      (h : List.Forall₂ (fun e f => e.1 = f.1 ∧ e.2.Quoted f.2) es fs) :
      TableQuoted (.mapping es) (.mapping fs)
  | tagged (tag : String) {v w : Value} (h : TableQuoted v w) :
      TableQuoted (.tagged tag v) (.tagged tag w)

inductive BuildQuoted : Value → Value → Prop
  | same (v : Value) : BuildQuoted v v
  | mapping {es fs : List (Value × Value)}
      (h : List.Forall₂ (fun e f => e.1 = f.1 ∧
        (e.2 = f.2 ∨ e.1.string? .yaml = .ok "args" ∧ e.2.TableQuoted f.2)) es fs) :
      BuildQuoted (.mapping es) (.mapping fs)
  | tagged (tag : String) {v w : Value} (h : BuildQuoted v w) :
      BuildQuoted (.tagged tag v) (.tagged tag w)

theorem Quoted.ofValue?_rel (h : v.Quoted w) :
    Option.Rel Scalar.Quoted (Scalar.ofValue? v) (Scalar.ofValue? w) := by
  cases h with
  | number n => exact .some (.number n)
  | same v => cases Scalar.ofValue? v with
    | none => exact .none
    | some s => exact .some (.same s)

theorem Quoted.hasTag_eq (h : v.Quoted w) : v.hasTag = w.hasTag := by
  cases h <;> rfl

theorem entriesHaveTag_quoted {es fs : List (Value × Value)}
    (h : List.Forall₂ (fun e f => e.1 = f.1 ∧ e.2.Quoted f.2) es fs) :
    entriesHaveTag es = entriesHaveTag fs := by
  induction h with
  | nil => rfl
  | cons head _ ih => rw [entriesHaveTag, entriesHaveTag, head.1, head.2.hasTag_eq, ih]

theorem meaning_quoted {dialect : Dialect} {es fs : List (Value × Value)}
    (h : List.Forall₂ (fun e f => e.1 = f.1 ∧ e.2.Quoted f.2) es fs) :
    (Pairs.scalars? dialect (.mapping es)).map Pairs.meaning =
      (Pairs.scalars? dialect (.mapping fs)).map Pairs.meaning := by
  rw [Pairs.scalars?_mapping, Pairs.scalars?_mapping]
  refine congrArg (Option.map Dict.ofList) (mapM_congr h ?_)
  intro e f alike
  have quoted := alike.2.ofValue?_rel
  unfold Pairs.entryMeaning?
  rw [alike.1]
  generalize Scalar.ofValue? e.2 = s, Scalar.ofValue? f.2 = t at quoted
  cases quoted with
  | none => rfl
  | some quoted => simp only [Option.map_some, quoted.toText_eq]

theorem TableQuoted.decode_eq {dialect : Dialect} (h : v.TableQuoted w) :
    Pairs.decode dialect v = Pairs.decode dialect w := by
  induction h with
  | same v => rfl
  | mapping h => exact Pairs.decode_congr (meaning_quoted h) rfl
  | tagged tag _ ih => exact ih

theorem TableQuoted.args?_eq (h : v.TableQuoted w) :
    BuildSection.args? v = BuildSection.args? w := by
  cases h with
  | same v => rfl
  | tagged tag h => rfl
  | mapping h => rw [BuildSection.args?_mapping, BuildSection.args?_mapping, meaning_quoted h,
      hasTag, hasTag, entriesHaveTag_quoted h]

theorem BuildQuoted.decode_eq (h : v.BuildQuoted w) :
    Build.decode .yaml v = Build.decode .yaml w := by
  induction h with
  | same v => rfl
  | tagged tag _ ih => exact ih
  | mapping h =>
    refine Build.decode_mapping_congr (h.imp fun e f alike => ⟨alike.1, alike.2.imp_right ?_⟩)
    exact fun args => ⟨args.1, args.2.args?_eq⟩

end Value
end Workload
