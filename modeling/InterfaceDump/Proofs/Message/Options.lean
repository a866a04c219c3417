import InterfaceDump.Message.Options
import Mathlib.Data.Nat.Bitwise

/-! Sets of flags.

A set of flags contains another one if it has all of its bits (`Options.contains_iff`). For a
flag, which is a single bit, that is a test of this bit, and for several flags together it is
a test of each of them. -/
namespace InterfaceDump.Options
variable {o a b : Options}

theorem contains_iff : o.contains a = true ↔
    ∀ k, a.bits.toNat.testBit k = true → o.bits.toNat.testBit k = true := by
  rw [contains, beq_iff_eq, ← UInt32.toNat_inj, UInt32.toNat_and]
  constructor
  · intro h k hk
    rw [← h, Nat.testBit_and, Bool.and_eq_true] at hk
    exact hk.1
  · intro h
    apply Nat.eq_of_testBit_eq
    intro k
    rw [Nat.testBit_and, Bool.and_eq_right_iff_imp]
    exact h k

theorem contains_union_iff :
    o.contains (a.union b) = true ↔ o.contains a = true ∧ o.contains b = true := by
  simp only [contains_iff, union, UInt32.toNat_or, Nat.testBit_or, Bool.or_eq_true, or_imp,
    forall_and]

/-- A flag is a single bit. -/
theorem contains_bit_iff {n : Nat} (h : a.bits.toNat = 2 ^ n) :
    o.contains a = true ↔ o.bits.toNat.testBit n = true := by
  simp only [contains_iff, h, Nat.testBit_two_pow, decide_eq_true_eq, forall_eq']

theorem contains_broadcast_iff :
    o.contains broadcast = true ↔ o.bits.toNat.testBit 1 = true := contains_bit_iff rfl

theorem isPointToPoint_iff : o.isPointToPoint = true ↔ o.bits.toNat.testBit 4 = true :=
  contains_bit_iff rfl

end InterfaceDump.Options
