/-! Byte strings, and the numbers written in them.

A dump is a list of octets. Everything read from it goes through the functions
here: an octet by its offset, a run of octets cut or zero-extended to a given
length, and a number in either byte order. Reading is total, because an octet
past the end reads as zero; where a missing octet has to be noticed, the caller
asks for the length or takes a `slice?`. -/
namespace InterfaceDump

abbrev Bytes := List UInt8

namespace Bytes

/-! ### Octets and runs of octets -/

/-- The octet at offset `i`, zero past the end. -/
def byteAt (b : Bytes) (i : Nat) : UInt8 := b.getD i 0

/-- The first `n` octets of `b`, followed by zeros where `b` is shorter. -/
def resize (n : Nat) (b : Bytes) : Bytes := b.take n ++ List.replicate (n - b.length) 0

@[simp] theorem length_resize (n : Nat) (b : Bytes) : (resize n b).length = n := by
  simp only [resize, List.length_append, List.length_take, List.length_replicate]
  omega

theorem resize_of_length {n : Nat} {b : Bytes} (h : b.length = n) : resize n b = b := by
  simp [resize, ← h]

theorem resize_of_le {n : Nat} {b : Bytes} (h : n ≤ b.length) : resize n b = b.take n := by
  simp [resize, Nat.sub_eq_zero_of_le h]

/-- The `n` octets from offset `i` on, zero where `b` has ended. -/
def field (b : Bytes) (i n : Nat) : Bytes := resize n (b.drop i)

@[simp] theorem length_field (b : Bytes) (i n : Nat) : (field b i n).length = n :=
  length_resize n _

/-- The octets from `start` up to `stop`, if `b` has that range. -/
def slice? (b : Bytes) (start stop : Nat) : Option Bytes :=
  if start ≤ stop ∧ stop ≤ b.length then some ((b.drop start).take (stop - start)) else none

/-! ### Numbers -/

/-- The number whose digits in base 256 are the octets, least significant first. -/
def ofLittleEndian : Bytes → Nat
  | [] => 0
  | b :: rest => b.toNat + 256 * ofLittleEndian rest

/-- The number whose digits in base 256 are the octets, most significant first. -/
def ofBigEndian (b : Bytes) : Nat := ofLittleEndian b.reverse

/-- The `width` lowest digits of a number in base 256, least significant first. -/
def littleEndian : (width value : Nat) → Bytes
  | 0, _ => []
  | width + 1, value => UInt8.ofNat value :: littleEndian width (value / 256)

/-- The `width` lowest digits of a number in base 256, most significant first. -/
def bigEndian (width value : Nat) : Bytes := (littleEndian width value).reverse

@[simp] theorem length_littleEndian (width value : Nat) :
    (littleEndian width value).length = width := by
  induction width generalizing value with
  | zero => rfl
  | succ width ih => simp [littleEndian, ih]

@[simp] theorem length_bigEndian (width value : Nat) : (bigEndian width value).length = width := by
  simp [bigEndian]

/-! ### Numbers at an offset -/

/-- The little-endian 16-bit number at offset `i`. -/
def u16le (b : Bytes) (i : Nat) : UInt16 := UInt16.ofNat (ofLittleEndian (field b i 2))

/-- The little-endian 32-bit number at offset `i`. -/
def u32le (b : Bytes) (i : Nat) : UInt32 := UInt32.ofNat (ofLittleEndian (field b i 4))

/-- The big-endian 16-bit number at offset `i`. -/
def u16be (b : Bytes) (i : Nat) : UInt16 := UInt16.ofNat (ofBigEndian (field b i 2))

/-- The big-endian 32-bit number at offset `i`. -/
def u32be (b : Bytes) (i : Nat) : UInt32 := UInt32.ofNat (ofBigEndian (field b i 4))

end Bytes

end InterfaceDump
