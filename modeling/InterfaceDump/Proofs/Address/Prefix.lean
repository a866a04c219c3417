import InterfaceDump.Address.Netmask
import InterfaceDump.Proofs.Bytes
import Mathlib.Data.List.TakeWhile

/-! Masks as strings of bits.

A mask is read bit by bit, the most significant one of each octet first (`bits`). The ones
in front of its first zero (`onesInFront`) do not depend on what follows that zero
(`onesInFront_append`). The prefix length is their number, as far as 32 bits can count
(`prefixLength_eq`), which is far enough for any mask of less than `2 ^ 29` octets. In a
contiguous mask there is nothing but zeros behind the ones. -/
namespace InterfaceDump

/-! ### Bits -/

namespace Bytes

/-- The bits of an octet, most significant first. -/
def octetBits (b : UInt8) : List Bool := (List.range 8).map fun i => b.toNat.testBit (7 - i)

/-- The bits of a byte string, octet by octet. -/
def bits (b : Bytes) : List Bool := b.flatMap octetBits

@[simp] theorem length_octetBits (b : UInt8) : (octetBits b).length = 8 := by
  simp [octetBits]

theorem bits_cons (b : UInt8) (rest : Bytes) : bits (b :: rest) = octetBits b ++ bits rest :=
  List.flatMap_cons

theorem bits_append (a b : Bytes) : bits (a ++ b) = bits a ++ bits b := List.flatMap_append

@[simp] theorem length_bits (b : Bytes) : (bits b).length = 8 * b.length := by
  induction b with
  | nil => rfl
  | cons x rest ih =>
    rw [bits_cons, List.length_append, length_octetBits, ih, List.length_cons]
    omega

/-- Bit `i` is found in octet `i / 8`, counted from its most significant end. -/
theorem getElem?_bits {b : Bytes} {i : Nat} (h : i < 8 * b.length) :
    (bits b)[i]? = some ((byteAt b (i / 8)).toNat.testBit (7 - i % 8)) := by
  induction b generalizing i with
  | nil => exact absurd h (Nat.not_lt_zero i)
  | cons x rest ih =>
    rw [List.length_cons] at h
    rw [bits_cons]
    rcases Nat.lt_or_ge i 8 with hfirst | hlater
    · rw [List.getElem?_append_left (by rwa [length_octetBits]), Nat.div_eq_of_lt hfirst,
        Nat.mod_eq_of_lt hfirst, byteAt_cons_zero, octetBits, List.getElem?_map,
        List.getElem?_range hfirst, Option.map_some]
    · obtain ⟨k, rfl⟩ := Nat.exists_eq_add_of_le hlater
      rw [List.getElem?_append_right (by rwa [length_octetBits]), length_octetBits,
        Nat.add_sub_cancel_left, ih (by omega), Nat.add_div_left k (by decide),
        Nat.add_mod_left, byteAt_cons_succ]

end Bytes

open Bytes

/-! ### Prefix lengths -/

theorem leadingOnes_eq (b : UInt8) : leadingOnes b = ((octetBits b).takeWhile id).length := by
  revert b
  exact forall_octet (by decide +kernel)

theorem leadingOnes_le (b : UInt8) : leadingOnes b ≤ 8 := by
  have hbits := (List.takeWhile_prefix id (l := octetBits b)).length_le
  rwa [length_octetBits, ← leadingOnes_eq] at hbits

/-- The one bits in front of the first zero bit, however many they are. -/
def onesInFront (mask : Bytes) : Nat := ((bits mask).takeWhile id).length

theorem onesInFront_cons (b : UInt8) (rest : Bytes) : onesInFront (b :: rest) =
    if leadingOnes b = 8 then 8 + onesInFront rest else leadingOnes b := by
  rw [onesInFront, bits_cons, List.takeWhile_append, ← leadingOnes_eq, length_octetBits]
  split
  · rw [List.length_append, length_octetBits, onesInFront]
  · exact (leadingOnes_eq b).symm

theorem addLeadingOnes_eq (count : UInt32) (mask : Bytes) :
    addLeadingOnes count mask = count + UInt32.ofNat (onesInFront mask) := by
  induction mask generalizing count with
  | nil => exact (UInt32.add_zero count).symm
  | cons b rest ih =>
    have hb := leadingOnes_le b
    rw [addLeadingOnes, onesInFront_cons]
    by_cases hfull : leadingOnes b = 8
    · rw [if_neg (by omega), if_pos hfull, ih, hfull, UInt32.ofNat_add, UInt32.add_assoc]
    · rw [if_pos (by omega), if_neg hfull]

/-- **The prefix length of a mask is the number of one bits in front of its first zero bit**,
counted in 32 bits. -/
theorem prefixLength_eq (mask : Bytes) : prefixLength mask = onesInFront mask % 4294967296 := by
  rw [prefixLength, addLeadingOnes_eq, UInt32.zero_add]
  exact UInt32.toNat_ofNat'

theorem onesInFront_le (mask : Bytes) : onesInFront mask ≤ 8 * mask.length := by
  have hbits := (List.takeWhile_prefix id (l := bits mask)).length_le
  rwa [length_bits] at hbits

theorem prefixLength_le (mask : Bytes) : prefixLength mask ≤ 8 * mask.length := by
  rw [prefixLength_eq]
  exact Nat.le_trans (Nat.mod_le _ _) (onesInFront_le mask)

/-- All ones of a mask that is not too long are counted. -/
theorem prefixLength_of_length_lt {mask : Bytes} (h : mask.length < 536870912) :
    prefixLength mask = onesInFront mask := by
  have hle := onesInFront_le mask
  rw [prefixLength_eq, Nat.mod_eq_of_lt (by omega)]

/-- A zero bit ends the ones in front. -/
theorem onesInFront_le_of_zero {mask : Bytes} {i : Nat} (h : (bits mask)[i]? = some false) :
    onesInFront mask ≤ i := by
  rcases Nat.lt_or_ge i (onesInFront mask) with hi | hi
  · have hbit := List.prefix_iff_getElem?.mp (List.takeWhile_prefix id) i hi
    have hone := List.mem_takeWhile_imp (List.getElem_mem hi)
    rw [h] at hbit
    exact absurd ((Option.some.inj hbit).trans hone) Bool.false_ne_true
  · exact hi

/-- Nothing behind the first zero bit counts. -/
theorem onesInFront_append {a : Bytes} (h : onesInFront a < 8 * a.length) (b : Bytes) :
    onesInFront (a ++ b) = onesInFront a := by
  have hstops : ((bits a).takeWhile id).length ≠ (bits a).length := by
    rw [length_bits]
    exact Nat.ne_of_lt h
  rw [onesInFront, bits_append, List.takeWhile_append, if_neg hstops, onesInFront]

/-! ### Contiguous masks -/

/-- All ones of the mask stand in front of all zeros. -/
def Contiguous (mask : Bytes) : Prop :=
  ∃ ones zeros, bits mask = List.replicate ones true ++ List.replicate zeros false

/-- In a contiguous mask there are only ones in front of a one. -/
theorem Contiguous.ones_before {mask : Bytes} (h : Contiguous mask) {i j : Nat} (hij : i ≤ j)
    (hj : (bits mask)[j]? = some true) : (bits mask)[i]? = some true := by
  obtain ⟨ones, zeros, hbits⟩ := h
  rw [hbits] at hj ⊢
  rcases Nat.lt_or_ge j ones with hones | hzeros
  · rw [List.getElem?_append_left (by rw [List.length_replicate]; omega),
      List.getElem?_replicate_of_lt (Nat.lt_of_le_of_lt hij hones)]
  · rw [List.getElem?_append_right (by rwa [List.length_replicate]), List.getElem?_replicate] at hj
    split at hj <;> exact nomatch hj

end InterfaceDump
