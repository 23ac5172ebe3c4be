import Workload.Codec.Quantity
import Mathlib.Algebra.Group.Nat.Defs

/-! Limits counted in bytes and in MiB. Both counts have a least value and a greatest one, and a
limit that was written in MiB once is counted alike from then on. -/
namespace Workload.Memory

/-- What is left of `b` bytes where only whole MiB count, and four of them at least. -/
structure Floored (b r : Nat) : Prop where
  whole : 2 ^ 20 ∣ r
  least : 4 * 2 ^ 20 ≤ r
  close : 4 * 2 ^ 20 ≤ b → r ≤ b ∧ b < r + 2 ^ 20
  short : b < 4 * 2 ^ 20 → r = 4 * 2 ^ 20

namespace Floored
variable {b c r s : Nat}

theorem mono (hr : Floored b r) (hs : Floored c s) (le : b ≤ c) : r ≤ s := by
  by_cases short : b < 4 * 2 ^ 20
  · rw [hr.short short]
    exact hs.least
  · -- both are multiples of 2^20, so the less than 2^20 between `s` and `c` cannot hold `r`
    have below := (hr.close (Nat.not_lt.1 short)).1
    have above := (hs.close (Nat.le_trans (Nat.not_lt.1 short) le)).2
    have hr := hr.whole
    have hs := hs.whole
    omega

theorem unique (hr : Floored b r) (hs : Floored b s) : r = s :=
  Nat.le_antisymm (hr.mono hs (Nat.le_refl b)) (hs.mono hr (Nat.le_refl b))

theorem self (h : Floored b r) : Floored r r where
  whole := h.whole
  least := h.least
  close _ := ⟨Nat.le_refl r, by omega⟩
  short lt := absurd h.least (Nat.not_le.2 lt)

end Floored

theorem toNat_toMebibytes (bytes : Option UInt64) :
    (toMebibytes bytes).toNat = max ((bytes.getD 0).toNat / 2 ^ 20) 4 := by
  have fits := (bytes.getD 0).toNat_lt_size
  have size : UInt64.size = 2 ^ 64 := rfl
  unfold toMebibytes mebibyte leastMebibytes
  exact UInt64.toNat_ofNat_of_lt' (by omega)

theorem toNat_ofMebibytes (mib : Option UInt64) :
    (ofMebibytes mib).toNat = if (mib.getD 0).toNat = 0 then 4 * 2 ^ 20
      else min ((mib.getD 0).toNat * 2 ^ 20) (2 ^ 64 - 1) := by
  have size : UInt64.size = 2 ^ 64 := rfl
  unfold ofMebibytes mebibyte leastMebibytes
  dsimp only
  split
  · rfl
  · exact UInt64.toNat_ofNat_of_lt' (by omega)

theorem toNat_toMebibytes_ofMebibytes (mib : Option UInt64) :
    (toMebibytes (some (ofMebibytes mib))).toNat =
      min (max (mib.getD 0).toNat 4) (2 ^ 44 - 1) := by
  rw [toNat_toMebibytes, Option.getD_some, toNat_ofMebibytes]
  split <;> omega

def reread (bytes : Option UInt64) : UInt64 := ofMebibytes (some (toMebibytes bytes))

theorem toMebibytes_lt (bytes : Option UInt64) : (toMebibytes bytes).toNat * 2 ^ 20 < 2 ^ 64 := by
  have fits := (bytes.getD 0).toNat_lt
  rw [toNat_toMebibytes]
  omega

theorem four_le_toMebibytes (bytes : Option UInt64) : 4 ≤ (toMebibytes bytes).toNat := by
  rw [toNat_toMebibytes]
  exact Nat.le_max_right _ _

theorem toNat_reread (bytes : Option UInt64) :
    (reread bytes).toNat = (toMebibytes bytes).toNat * 2 ^ 20 := by
  have fits := toMebibytes_lt bytes
  have least := four_le_toMebibytes bytes
  rw [reread, toNat_ofMebibytes, Option.getD_some, if_neg (by omega)]
  omega

theorem floored_reread (bytes : Option UInt64) :
    Floored (bytes.getD 0).toNat (reread bytes).toNat := by
  rw [toNat_reread, toNat_toMebibytes]
  constructor <;> omega

theorem reread_reread (bytes : Option UInt64) : reread (some (reread bytes)) = reread bytes := by
  have again : Floored (reread bytes).toNat (reread (some (reread bytes))).toNat :=
    floored_reread (some (reread bytes))
  exact UInt64.toNat_inj.1 (again.unique (floored_reread bytes).self)

/-- Both ways round a limit is kept as far as the other count goes: one in MiB from the least limit
up to the whole MiB below 2^64 bytes, and one in bytes down to whole MiB. Going through MiB never
needs more than 64 bits, keeps the order of limits, and changes nothing the second time. -/
theorem mebibytes_exact :
    (∀ mib : Option UInt64, (toMebibytes (some (ofMebibytes mib))).toNat =
      min (max (mib.getD 0).toNat 4) (2 ^ 44 - 1)) ∧
    ∀ bytes : Option UInt64,
      (toMebibytes bytes).toNat * 2 ^ 20 < 2 ^ 64 ∧
      (reread bytes).toNat = (toMebibytes bytes).toNat * 2 ^ 20 ∧
      Floored (bytes.getD 0).toNat (reread bytes).toNat ∧
      (∀ more : Option UInt64, bytes.getD 0 ≤ more.getD 0 → reread bytes ≤ reread more) ∧
      reread (some (reread bytes)) = reread bytes := by
  refine ⟨toNat_toMebibytes_ofMebibytes, fun bytes => ⟨toMebibytes_lt bytes, toNat_reread bytes,
    floored_reread bytes, fun more le => ?_, reread_reread bytes⟩⟩
  rw [UInt64.le_iff_toNat_le] at le ⊢
  exact (floored_reread bytes).mono (floored_reread more) le

theorem mebibytes_exact_uneven :
    (some 5242881 : Option UInt64).getD 0 ≤ (some 6291455 : Option UInt64).getD 0 ∧
      reread (some 5242881) ≤ reread (some 6291455) ∧ reread (some 5242881) = 5242880 := by
  have le : (some 5242881 : Option UInt64).getD 0 ≤ (some 6291455 : Option UInt64).getD 0 := by
    decide
  have order := (mebibytes_exact.2 (some 5242881)).2.2.2.1
  exact ⟨le, order (some 6291455) le, by decide⟩

end Workload.Memory
