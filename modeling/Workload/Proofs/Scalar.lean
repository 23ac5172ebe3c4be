import Workload.Codec.Command
import Workload.Codec.Pairs
import Workload.Proofs.Dict
import Workload.Proofs.Text
import Workload.Proofs.Traverse

/-! Field values that read back: numbers written as scalars, texts in tables, and the strings of
commands and checks. -/
namespace Workload

namespace Scalar

theorem toNatBelow_int {bound : Nat} {n : UInt64} (h : n.toNat < bound) :
    (int n).toNatBelow bound = .ok n.toNat := by
  have read : (int n).toUInt64 = .ok n := rfl
  unfold toNatBelow
  rw [read]
  exact if_pos h

@[simp] theorem toUInt16_int (n : UInt16) : (int n.toUInt64).toUInt16 = .ok n := by
  have h : n.toUInt64.toNat < UInt16.size := by
    rw [UInt16.toNat_toUInt64]
    exact n.toNat_lt_size
  simp [toUInt16, toNatBelow_int h, Except.map]

@[simp] theorem toUInt32_int (n : UInt32) : (int n.toUInt64).toUInt32 = .ok n := by
  have h : n.toUInt64.toNat < UInt32.size := by
    rw [UInt32.toNat_toUInt64]
    exact n.toNat_lt_size
  simp [toUInt32, toNatBelow_int h, Except.map]

end Scalar

namespace Pairs

@[simp] theorem texts_map_text (d : Dict String) : texts (d.map .text) = .ok d := by
  have h (k s : String) : (Scalar.text s).toText = .ok (id s) := rfl
  rw [texts, Dict.mapM_map h]
  apply congrArg Except.ok
  apply Dict.ext
  simp

end Pairs

namespace Command

theorem join_of_ne_nil {args : List String} (h : args ≠ []) :
    join args = some (joinWith ' ' args) := by
  simp [join, h]

@[simp] theorem join_split (command : String) : join (split command) = some command := by
  rw [split, join_of_ne_nil (splitAtChar_ne_nil ' ' command), joinWith_splitAtChar]

@[simp] theorem join_map_split (command : Option String) :
    join ((command.map split).getD []) = command := by
  cases command with
  | none => rfl
  | some command => exact join_split command

@[simp] theorem ofTest_toTest (command : String) : ofTest (toTest command) = some command := by
  simp [ofTest, toTest, join, joinWith]

end Command
end Workload
