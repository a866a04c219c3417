import InterfaceDump.Proofs.Checked.Address
import Mathlib.Logic.ExistsUnique

/-! The ones in front of a mask, and the count of them.

What a prefix length is can be said of the bits alone: the first `n` are ones, and then
comes a zero or the end of the mask (`IsPrefixLength`). Every mask has exactly one such
number (`isPrefixLength_iff`), which depends on the bits up to the first zero only
(`onesInFront_congr`).

It is counted in 32 bits. That is enough unless the mask starts with `2 ^ 29` octets of ones
(`Overlong`); there the count begins again at zero, or stops where sums are checked.
`leading_ones_counted` says what is counted for a mask of any length, and
`not_longest_prefix` that the shortest overlong mask has the prefix length zero. -/
namespace InterfaceDump
open Bytes

variable {mask other : Bytes} {m n : Nat}

/-! ### What a prefix length is -/

/-- The first `n` bits of the mask are ones, and behind them is a zero or the end. -/
structure IsPrefixLength (mask : Bytes) (n : Nat) : Prop where
  ones : ∀ i < n, (bits mask)[i]? = some true
  stops : n = 8 * mask.length ∨ (bits mask)[n]? = some false

theorem lt_of_getElem?_bits {i : Nat} {bit : Bool} (h : (bits mask)[i]? = some bit) :
    i < 8 * mask.length := by
  obtain ⟨hi, -⟩ := List.getElem?_eq_some_iff.mp h
  rwa [length_bits] at hi

/-- The ones in front end where the first zero bit is. -/
theorem onesInFront_eq_findIdx (mask : Bytes) :
    onesInFront mask = (bits mask).findIdx fun bit => !bit := by
  rw [onesInFront, List.takeWhile_eq_take_findIdx_not, List.length_take]
  exact Nat.min_eq_left List.findIdx_le_length

theorem isPrefixLength_onesInFront (mask : Bytes) : IsPrefixLength mask (onesInFront mask) := by
  rw [onesInFront_eq_findIdx]
  refine ⟨fun i hi => ?ones, ?stops⟩
  case ones =>
    have hroom := Nat.lt_of_lt_of_le hi List.findIdx_le_length
    have hbit := List.not_of_lt_findIdx hi
    rw [Bool.not_eq_false'] at hbit
    rw [List.getElem?_eq_getElem hroom, hbit]
  case stops =>
    have hle : (bits mask).findIdx (fun bit => !bit) ≤ (bits mask).length :=
      List.findIdx_le_length
    rcases Nat.lt_or_eq_of_le hle with hzero | hend
    · have hbit := List.findIdx_getElem (w := hzero)
      rw [Bool.not_eq_true'] at hbit
      exact .inr (by rw [List.getElem?_eq_getElem hzero, hbit])
    · exact .inl (by rw [hend, length_bits])

/-- One prefix length cannot be larger than another: the bit behind the smaller one would be a
zero and a one. -/
theorem IsPrefixLength.le (hm : IsPrefixLength mask m) (hn : IsPrefixLength mask n) : m ≤ n := by
  by_contra hlt
  have hone := hm.ones n (Nat.lt_of_not_le hlt)
  rcases hn.stops with hend | hzero
  · exact absurd hend (Nat.ne_of_lt (lt_of_getElem?_bits hone))
  · exact absurd (hone.symm.trans hzero) (by decide)

theorem isPrefixLength_iff : IsPrefixLength mask n ↔ onesInFront mask = n := by
  refine ⟨fun h => ?_, fun h => h ▸ isPrefixLength_onesInFront mask⟩
  apply Nat.le_antisymm
  · exact (isPrefixLength_onesInFront mask).le h
  · exact h.le (isPrefixLength_onesInFront mask)

/-! ### What it depends on -/

/-- Masks that agree up to a zero bit, that bit included, have the same ones in front. -/
theorem onesInFront_congr (hzero : (bits mask)[n]? = some false)
    (hsame : (bits other).take (n + 1) = (bits mask).take (n + 1)) :
    onesInFront other = onesInFront mask := by
  have hbit : ∀ i ≤ n, (bits other)[i]? = (bits mask)[i]? := by
    intro i hi
    have hi : i < n + 1 := Nat.lt_succ_of_le hi
    rw [← List.getElem?_take_of_lt hi, hsame, List.getElem?_take_of_lt hi]
  -- The ones of `mask` and the zero behind them lie within the bits that agree.
  have hle := onesInFront_le_of_zero hzero
  have hlt := lt_of_getElem?_bits hzero
  obtain ⟨hones, hstops⟩ := isPrefixLength_onesInFront mask
  have hend := hstops.resolve_left (by omega)
  refine isPrefixLength_iff.mp ⟨fun i hi => ?_, .inr ?_⟩
  · rw [hbit i (by omega), hones i hi]
  · rw [hbit _ hle, hend]

/-- Octets may be put behind a zero bit, and others in their place. -/
theorem onesInFront_append_of_zero (hzero : (bits mask)[n]? = some false) (rest : Bytes) :
    onesInFront (mask ++ rest) = onesInFront mask :=
  onesInFront_append
    (Nat.lt_of_le_of_lt (onesInFront_le_of_zero hzero) (lt_of_getElem?_bits hzero)) rest

/-! ### What 32 bits hold -/

/-- `8 * k` ones in front are `k` octets of ones. -/
theorem eight_mul_le_onesInFront_iff {k : Nat} :
    8 * k ≤ onesInFront mask ↔ List.replicate k 255 <+: mask := by
  have hones : ∀ b : UInt8, leadingOnes b = 8 ↔ b = 255 := forall_octet (by decide +kernel)
  induction mask generalizing k with
  | nil =>
    have hnone : onesInFront [] = 0 := rfl
    rw [hnone, List.prefix_nil, List.replicate_eq_nil_iff]
    omega
  | cons b rest ih =>
    cases k with
    | zero => exact iff_of_true (Nat.zero_le _) List.nil_prefix
    | succ k =>
      rw [onesInFront_cons, List.replicate_succ, List.cons_prefix_cons]
      by_cases hb : b = 255
      · rw [if_pos ((hones b).mpr hb)]
        calc 8 * (k + 1) ≤ 8 + onesInFront rest
            ↔ 8 * k ≤ onesInFront rest := by omega
          _ ↔ List.replicate k 255 <+: rest := ih
          _ ↔ 255 = b ∧ List.replicate k 255 <+: rest := (and_iff_right hb.symm).symm
      · have hfew := mt (hones b).mp hb
        have hle := leadingOnes_le b
        rw [if_neg hfew]
        exact iff_of_false (by omega) fun h => hb h.1.symm

theorem onesInFront_replicate (k : Nat) : onesInFront (List.replicate k 255) = 8 * k := by
  apply Nat.le_antisymm
  · have hle := onesInFront_le (List.replicate k 255)
    rwa [List.length_replicate] at hle
  · exact eight_mul_le_onesInFront_iff.mpr (List.prefix_refl _)

/-- The mask starts with more ones than a number of 32 bits can say. -/
def Overlong (mask : Bytes) : Prop := List.replicate 536870912 255 <+: mask

theorem overlong_iff : Overlong mask ↔ 4294967296 ≤ onesInFront mask :=
  eight_mul_le_onesInFront_iff.symm

theorem not_overlong_of_length_lt (h : mask.length < 536870912) : ¬ Overlong mask := by
  have hle := onesInFront_le mask
  rw [overlong_iff]
  omega

theorem prefixLength_eq_onesInFront_iff :
    prefixLength mask = onesInFront mask ↔ ¬ Overlong mask := by
  rw [prefixLength_eq, overlong_iff]
  omega

/-- Where sums are checked, the count fails on an overlong mask and on no other. -/
theorem Checked.countOnes_of_overlong (h : Overlong mask) :
    countOnes 0 mask = .error .overflow := by
  have hmany := overlong_iff.mp h
  rw [countOnes_eq mask (Nat.zero_le _), addUpTo, if_neg (by omega)]

theorem Checked.countOnes_of_not_overlong (h : ¬ Overlong mask) :
    countOnes 0 mask = .ok (onesInFront mask) := by
  have hfew := mt overlong_iff.mpr h
  rw [countOnes_eq mask (Nat.zero_le _), addUpTo_eq (by omega), Nat.zero_add]

theorem Checked.countOnes_eq_ok_iff :
    countOnes 0 mask = .ok n ↔ IsPrefixLength mask n ∧ ¬ Overlong mask := by
  by_cases h : Overlong mask
  · rw [countOnes_of_overlong h]
    exact iff_of_false (by simp) fun hn => hn.2 h
  · rw [countOnes_of_not_overlong h, Except.ok.injEq, and_iff_left h, isPrefixLength_iff]

/-! ### The ones that are counted -/

/-- What is counted of the ones in front of a mask. -/
structure LeadingOnesCounted (mask : Bytes) : Prop where
  /-- The bits settle what the prefix length is. -/
  unique : ∃! n, IsPrefixLength mask n
  /-- It is what is counted, except for an overlong mask. -/
  longest : (∀ n, prefixLength mask = n ↔ IsPrefixLength mask n) ↔ ¬ Overlong mask
  /-- The count wraps around. -/
  wraps : ∀ n, IsPrefixLength mask n → prefixLength mask = n % 4294967296
  /-- Where sums are checked, the count comes to this number too, or stops. -/
  checked : ∀ n, Checked.countOnes 0 mask = .ok n ↔ IsPrefixLength mask n ∧ ¬ Overlong mask
  overflows : Overlong mask → Checked.countOnes 0 mask = .error .overflow
  /-- The bits behind a zero may be others. -/
  changed : ∀ (other : Bytes) (n : Nat), (bits mask)[n]? = some false →
    (bits other).take (n + 1) = (bits mask).take (n + 1) → prefixLength other = prefixLength mask
  /-- More octets may stand behind a zero. -/
  appended : ∀ n : Nat, (bits mask)[n]? = some false →
    ∀ rest, prefixLength (mask ++ rest) = prefixLength mask
  le : prefixLength mask ≤ 8 * mask.length

/-- **The prefix length of a mask is the length of its longest prefix of ones**, counted in
32 bits. What is behind the first zero does not count. -/
theorem leading_ones_counted (mask : Bytes) : LeadingOnesCounted mask where
  unique := ⟨onesInFront mask, isPrefixLength_onesInFront mask,
    fun _ h => (isPrefixLength_iff.mp h).symm⟩
  longest := by
    rw [← prefixLength_eq_onesInFront_iff]
    constructor
    · intro h
      exact (isPrefixLength_iff.mp ((h _).mp rfl)).symm
    · intro h n
      rw [h, isPrefixLength_iff]
  wraps n h := by rw [prefixLength_eq, isPrefixLength_iff.mp h]
  checked _ := Checked.countOnes_eq_ok_iff
  overflows := Checked.countOnes_of_overlong
  changed other n hzero hsame := by
    rw [prefixLength_eq, prefixLength_eq, onesInFront_congr hzero hsame]
  appended n hzero rest := by
    rw [prefixLength_eq, prefixLength_eq, onesInFront_append_of_zero hzero]
  le := prefixLength_le mask

/-- A mask with ones behind its first zero. -/
def Sample.gappedMask : Bytes := [0xff, 0x7f, 0xff]

/-- The ones behind bit 8 do not count: they may be cleared, and more may follow. -/
theorem leading_ones_counted_gapped :
    ¬ Overlong Sample.gappedMask ∧ prefixLength Sample.gappedMask = 8 ∧
      Checked.countOnes 0 Sample.gappedMask = .ok 8 ∧
      prefixLength [0xff, 0x2a] = 8 ∧ prefixLength (Sample.gappedMask ++ [0xff, 0xf0]) = 8 := by
  have hcounted := leading_ones_counted Sample.gappedMask
  have hshort : ¬ Overlong Sample.gappedMask := not_overlong_of_length_lt (by decide)
  have hzero : (bits Sample.gappedMask)[8]? = some false := by decide +kernel
  have hsame : (bits [0xff, 0x2a]).take 9 = (bits Sample.gappedMask).take 9 := by decide +kernel
  have hones : IsPrefixLength Sample.gappedMask 8 := ⟨by decide +kernel, .inr hzero⟩
  have hlength := (hcounted.longest.mpr hshort 8).mpr hones
  refine ⟨hshort, hlength, (hcounted.checked 8).mpr ⟨hones, hshort⟩, ?_, ?_⟩
  · rw [hcounted.changed _ 8 hzero hsame, hlength]
  · rw [hcounted.appended 8 hzero, hlength]

/-- **A mask of `2 ^ 29` octets of ones has no prefix, by the count.** It has `2 ^ 32` ones. -/
theorem not_longest_prefix :
    prefixLength (List.replicate 536870912 255) = 0 ∧
      Checked.countOnes 0 (List.replicate 536870912 255) = .error .overflow ∧
      IsPrefixLength (List.replicate 536870912 255) 4294967296 ∧
      ¬ IsPrefixLength (List.replicate 536870912 255)
        (prefixLength (List.replicate 536870912 255)) := by
  have hones : onesInFront (List.replicate 536870912 255) = 4294967296 :=
    onesInFront_replicate 536870912
  have hcount : prefixLength (List.replicate 536870912 255) = 0 := by
    rw [prefixLength_eq, hones]
  refine ⟨hcount, Checked.countOnes_of_overlong (List.prefix_refl _),
    isPrefixLength_iff.mpr hones, fun h => ?_⟩
  have hsame := isPrefixLength_iff.mp h
  rw [hones, hcount] at hsame
  exact absurd hsame (by decide)

end InterfaceDump
