import InterfaceDump.Bytes
import Mathlib.Algebra.Group.Nat.Defs

/-! Reading parts of byte strings.

Reading and writing a number of a given width undo each other
(`ofLittleEndian_littleEndian`, `littleEndian_ofLittleEndian`).

A field that lies inside the first octets of a byte string does not depend on
what follows them (`field_take`, `byteAt_take`), and a field of a field is a field
of the whole (`field_field`). A field of a byte string that is put together from
parts is read in the part it lies in (`field_append_left`, `field_append_right`),
and a part at its own offset is read back whole (`field_append_self`). The numbers
of a record that is laid out part by part are read by stepping over the parts
before them (`u16le_skip`, `u32le_skip`, and `u16be_skip` and `u32be_skip` for the
other byte order). -/
namespace InterfaceDump.Bytes

/-! ### Numbers -/

theorem ofLittleEndian_littleEndian {width value : Nat} (h : value < 256 ^ width) :
    ofLittleEndian (littleEndian width value) = value := by
  induction width generalizing value with
  | zero =>
    simp only [Nat.pow_zero] at h
    simp only [littleEndian, ofLittleEndian]
    omega
  | succ width ih =>
    have hd : value / 256 < 256 ^ width := by
      apply (Nat.div_lt_iff_lt_mul (by decide : 0 < 256)).2
      simpa [Nat.pow_succ] using h
    simp only [littleEndian, ofLittleEndian, UInt8.toNat_ofNat', ih hd]
    omega

theorem littleEndian_ofLittleEndian (b : Bytes) :
    littleEndian b.length (ofLittleEndian b) = b := by
  induction b with
  | nil => rfl
  | cons x rest ih =>
    have hx := x.toNat_lt
    have hhead : UInt8.ofNat (x.toNat + 256 * ofLittleEndian rest) = x := by
      apply UInt8.toNat_inj.mp
      rw [UInt8.toNat_ofNat']
      omega
    have htail : (x.toNat + 256 * ofLittleEndian rest) / 256 = ofLittleEndian rest := by omega
    simp only [ofLittleEndian, List.length_cons, littleEndian, hhead, htail, ih]

theorem ofLittleEndian_lt (b : Bytes) : ofLittleEndian b < 256 ^ b.length := by
  induction b with
  | nil => exact Nat.one_pos
  | cons x rest ih =>
    have hx := x.toNat_lt
    rw [ofLittleEndian, List.length_cons, Nat.pow_succ]
    omega

/-! ### Cut byte strings -/

theorem field_eq_take {b : Bytes} {i n : Nat} (h : i + n ≤ b.length) :
    field b i n = (b.drop i).take n :=
  resize_of_le (by rw [List.length_drop]; omega)

theorem field_take {b : Bytes} {i n limit : Nat} (h : i + n ≤ limit) :
    field (b.take limit) i n = field b i n := by
  have hzeros : n - min (limit - i) (b.length - i) = n - (b.length - i) := by omega
  have hkept : min n (limit - i) = n := by omega
  simp only [field, resize, List.drop_take, List.take_take, List.length_take, List.length_drop,
    hkept, hzeros]

theorem byteAt_take {b : Bytes} {i limit : Nat} (h : i < limit) :
    byteAt (b.take limit) i = byteAt b i := by
  simp [byteAt, List.getD_eq_getElem?_getD, h]

theorem slice?_to_eq {b : Bytes} {stop : Nat} :
    slice? b 0 stop = if stop ≤ b.length then some (b.take stop) else none := by
  simp [slice?]

theorem slice?_eq_field {b : Bytes} {i n : Nat} (h : i + n ≤ b.length) :
    slice? b i (i + n) = some (field b i n) := by
  rw [slice?, if_pos ⟨Nat.le_add_right i n, h⟩, Nat.add_sub_cancel_left, field_eq_take h]

/-! ### Octet by octet -/

theorem eq_of_byteAt {a b : Bytes} (hlength : a.length = b.length)
    (h : ∀ i, i < a.length → byteAt a i = byteAt b i) : a = b := by
  refine List.ext_getElem hlength fun i ha hb => ?_
  have hi := h i ha
  rwa [byteAt, byteAt, List.getD_eq_getElem?_getD, List.getD_eq_getElem?_getD,
    List.getElem?_eq_getElem ha, List.getElem?_eq_getElem hb, Option.getD_some,
    Option.getD_some] at hi

theorem getElem?_eq_byteAt {b : Bytes} {i : Nat} (h : i < b.length) : b[i]? = some (byteAt b i) := by
  rw [byteAt, List.getD_eq_getElem?_getD, List.getElem?_eq_getElem h, Option.getD_some]

theorem byteAt_of_le {b : Bytes} {i : Nat} (h : b.length ≤ i) : byteAt b i = 0 := by
  rw [byteAt, List.getD_eq_getElem?_getD, List.getElem?_eq_none h, Option.getD_none]

theorem byteAt_drop (b : Bytes) (d i : Nat) : byteAt (b.drop d) i = byteAt b (d + i) := by
  simp only [byteAt, List.getD_eq_getElem?_getD, List.getElem?_drop]

@[simp] theorem byteAt_replicate (n i : Nat) : byteAt (List.replicate n 0) i = 0 := by
  rw [byteAt, List.getD_eq_getElem?_getD, List.getElem?_replicate]
  split <;> rfl

/-- What holds of all 256 octets can be checked one by one. -/
theorem forall_octet {p : UInt8 → Prop} (h : ∀ n < 256, p (UInt8.ofNat n)) (b : UInt8) : p b := by
  have hb := h b.toNat b.toNat_lt
  rwa [UInt8.ofNat_toNat] at hb

theorem take_drop_congr {a b : Bytes} {start n : Nat} (hlength : a.length = b.length)
    (h : ∀ k, start ≤ k → k < start + n → byteAt a k = byteAt b k) :
    (a.drop start).take n = (b.drop start).take n := by
  refine eq_of_byteAt (by simp [hlength]) fun k hk => ?_
  have hkn : k < n := Nat.lt_of_lt_of_le hk (List.length_take_le _ _)
  rw [byteAt_take hkn, byteAt_take hkn, byteAt_drop, byteAt_drop]
  exact h (start + k) (by omega) (by omega)

/-! ### Byte strings in parts -/

theorem field_append_left {a b : Bytes} {i n : Nat} (h : i + n ≤ a.length) :
    field (a ++ b) i n = field a i n := by
  rw [field_eq_take (by rw [List.length_append]; omega), field_eq_take h,
    List.drop_append_of_le_length (by omega), List.take_append_of_le_length (by simp; omega)]

theorem field_append_right {a b : Bytes} {i n : Nat} (h : a.length ≤ i) :
    field (a ++ b) i n = field b (i - a.length) n := by
  rw [field, field, List.drop_append, List.drop_eq_nil_of_le h, List.nil_append]

theorem field_append_self {a b : Bytes} : field (a ++ b) 0 a.length = a := by
  rw [field_append_left (by omega), field, List.drop_zero, resize_of_length rfl]

theorem slice?_append (a b c : Bytes) :
    slice? (a ++ (b ++ c)) a.length (a.length + b.length) = some b := by
  have hbounds : a.length ≤ a.length + b.length ∧
      a.length + b.length ≤ (a ++ (b ++ c)).length := by
    simp only [List.length_append]
    omega
  rw [slice?, if_pos hbounds, List.drop_left, Nat.add_sub_cancel_left, List.take_left]

theorem byteAt_append_left {a b : Bytes} {i : Nat} (h : i < a.length) :
    byteAt (a ++ b) i = byteAt a i := by
  simp [byteAt, List.getD_eq_getElem?_getD, List.getElem?_append_left h]

theorem byteAt_append_right {a b : Bytes} {i : Nat} (h : a.length ≤ i) :
    byteAt (a ++ b) i = byteAt b (i - a.length) := by
  simp [byteAt, List.getD_eq_getElem?_getD, List.getElem?_append_right h]

@[simp] theorem byteAt_cons_zero (x : UInt8) (b : Bytes) : byteAt (x :: b) 0 = x := rfl

@[simp] theorem byteAt_cons_succ (x : UInt8) (b : Bytes) (i : Nat) :
    byteAt (x :: b) (i + 1) = byteAt b i := rfl

/-! ### Fields of fields -/

theorem field_drop (b : Bytes) (d i n : Nat) : field (b.drop d) i n = field b (d + i) n := by
  rw [field, field, List.drop_drop]

theorem byteAt_resize {b : Bytes} {n i : Nat} (h : i < n) : byteAt (resize n b) i = byteAt b i := by
  rcases Nat.lt_or_ge i b.length with hi | hi
  · rw [resize, byteAt_append_left (by rw [List.length_take]; omega), byteAt_take h]
  · rw [resize, byteAt_append_right (by rw [List.length_take]; omega), byteAt_replicate,
      byteAt_of_le hi]

theorem byteAt_field {b : Bytes} {i n j : Nat} (h : j < n) :
    byteAt (field b i n) j = byteAt b (i + j) := by
  rw [field, byteAt_resize h, byteAt_drop]

theorem field_field {b : Bytes} {i n j k : Nat} (h : j + k ≤ n) :
    field (field b i n) j k = field b (i + j) k := by
  refine eq_of_byteAt (by simp) fun l hl => ?_
  rw [length_field] at hl
  rw [byteAt_field hl, byteAt_field (by omega), byteAt_field hl, Nat.add_assoc]

theorem field_zero (b : Bytes) (i : Nat) : field b i 0 = [] :=
  List.eq_nil_of_length_eq_zero (length_field b i 0)

theorem field_succ (b : Bytes) (i n : Nat) :
    field b i (n + 1) = byteAt b i :: field b (i + 1) n := by
  refine eq_of_byteAt (by simp) fun j hj => ?_
  rw [length_field] at hj
  rw [byteAt_field hj]
  cases j with
  | zero => rfl
  | succ j => rw [byteAt_cons_succ, byteAt_field (by omega), Nat.add_assoc, Nat.add_comm 1 j]

/-- Two fields that stand next to each other. -/
theorem field_append_field (b : Bytes) (i m n : Nat) :
    field b i m ++ field b (i + m) n = field b i (m + n) := by
  refine eq_of_byteAt (by simp) fun j hj => ?_
  rw [List.length_append, length_field, length_field] at hj
  rw [byteAt_field hj]
  rcases Nat.lt_or_ge j m with hin | hbehind
  · rw [byteAt_append_left (by rwa [length_field]), byteAt_field hin]
  · rw [byteAt_append_right (by rwa [length_field]), length_field, byteAt_field (by omega),
      Nat.add_assoc, Nat.add_sub_cancel' hbehind]

/-! ### Numbers in records -/

theorem u32le_field {b : Bytes} {i n j : Nat} (h : j + 4 ≤ n) :
    u32le (field b i n) j = u32le b (i + j) := by
  rw [u32le, field_field h, u32le]

theorem u16le_drop (b : Bytes) (d i : Nat) : u16le (b.drop d) i = u16le b (d + i) := by
  rw [u16le, field_drop, u16le]

theorem u32le_drop (b : Bytes) (d i : Nat) : u32le (b.drop d) i = u32le b (d + i) := by
  rw [u32le, field_drop, u32le]

theorem u16le_skip {a b : Bytes} {i : Nat} (h : a.length ≤ i) :
    u16le (a ++ b) i = u16le b (i - a.length) := by
  rw [u16le, field_append_right h, u16le]

theorem u32le_skip {a b : Bytes} {i : Nat} (h : a.length ≤ i) :
    u32le (a ++ b) i = u32le b (i - a.length) := by
  rw [u32le, field_append_right h, u32le]

@[simp] theorem u16le_cons_succ (x : UInt8) (b : Bytes) (i : Nat) :
    u16le (x :: b) (i + 1) = u16le b i := rfl

@[simp] theorem u32le_cons_succ (x : UInt8) (b : Bytes) (i : Nat) :
    u32le (x :: b) (i + 1) = u32le b i := rfl

/-- A number that fits its two octets is read back. -/
theorem toNat_u16le_append {n : Nat} (h : n < 2 ^ 16) (b : Bytes) :
    (u16le (littleEndian 2 n ++ b) 0).toNat = n := by
  have hself : field (littleEndian 2 n ++ b) 0 2 = littleEndian 2 n := by
    simpa using field_append_self (a := littleEndian 2 n) (b := b)
  rw [u16le, hself, ofLittleEndian_littleEndian h, UInt16.toNat_ofNat', Nat.mod_eq_of_lt h]

@[simp] theorem u16le_append (x : UInt16) (b : Bytes) :
    u16le (littleEndian 2 x.toNat ++ b) 0 = x :=
  UInt16.toNat_inj.mp (toNat_u16le_append x.toNat_lt b)

theorem toNat_u32le_append {n : Nat} (h : n < 2 ^ 32) (b : Bytes) :
    (u32le (littleEndian 4 n ++ b) 0).toNat = n := by
  have hself : field (littleEndian 4 n ++ b) 0 4 = littleEndian 4 n := by
    simpa using field_append_self (a := littleEndian 4 n) (b := b)
  rw [u32le, hself, ofLittleEndian_littleEndian h, UInt32.toNat_ofNat', Nat.mod_eq_of_lt h]

@[simp] theorem u32le_append (x : UInt32) (b : Bytes) :
    u32le (littleEndian 4 x.toNat ++ b) 0 = x :=
  UInt32.toNat_inj.mp (toNat_u32le_append x.toNat_lt b)

/-! ### Most significant octet first -/

theorem ofBigEndian_bigEndian {width value : Nat} (h : value < 256 ^ width) :
    ofBigEndian (bigEndian width value) = value := by
  rw [ofBigEndian, bigEndian, List.reverse_reverse, ofLittleEndian_littleEndian h]

theorem u16be_skip {a b : Bytes} {i : Nat} (h : a.length ≤ i) :
    u16be (a ++ b) i = u16be b (i - a.length) := by
  rw [u16be, field_append_right h, u16be]

theorem u32be_skip {a b : Bytes} {i : Nat} (h : a.length ≤ i) :
    u32be (a ++ b) i = u32be b (i - a.length) := by
  rw [u32be, field_append_right h, u32be]

@[simp] theorem u16be_cons_succ (x : UInt8) (b : Bytes) (i : Nat) :
    u16be (x :: b) (i + 1) = u16be b i := rfl

@[simp] theorem u32be_cons_succ (x : UInt8) (b : Bytes) (i : Nat) :
    u32be (x :: b) (i + 1) = u32be b i := rfl

@[simp] theorem u16be_append (x : UInt16) (b : Bytes) :
    u16be (bigEndian 2 x.toNat ++ b) 0 = x := by
  have hself : field (bigEndian 2 x.toNat ++ b) 0 2 = bigEndian 2 x.toNat := by
    simpa using field_append_self (a := bigEndian 2 x.toNat) (b := b)
  rw [u16be, hself, ofBigEndian_bigEndian x.toNat_lt, UInt16.ofNat_toNat]

@[simp] theorem u32be_append (x : UInt32) (b : Bytes) :
    u32be (bigEndian 4 x.toNat ++ b) 0 = x := by
  have hself : field (bigEndian 4 x.toNat ++ b) 0 4 = bigEndian 4 x.toNat := by
    simpa using field_append_self (a := bigEndian 4 x.toNat) (b := b)
  rw [u32be, hself, ofBigEndian_bigEndian x.toNat_lt, UInt32.ofNat_toNat]

theorem toNat_u16be (b : Bytes) (i : Nat) :
    (u16be b i).toNat = 256 * (byteAt b i).toNat + (byteAt b (i + 1)).toNat := by
  have hhigh := (byteAt b i).toNat_lt
  have hlow := (byteAt b (i + 1)).toNat_lt
  have hvalue : ofBigEndian (field b i 2) =
      (byteAt b (i + 1)).toNat + 256 * ((byteAt b i).toNat + 256 * 0) := by
    rw [field_succ, field_succ, field_zero]
    rfl
  rw [u16be, hvalue, UInt16.toNat_ofNat_of_lt' (show _ < 65536 by omega)]
  omega

/-- Two octets are zero together with the number they write. -/
theorem u16be_eq_zero_iff {b : Bytes} {i : Nat} :
    u16be b i = 0 ↔ byteAt b i = 0 ∧ byteAt b (i + 1) = 0 := by
  rw [← UInt16.toNat_inj, toNat_u16be, ← UInt8.toNat_inj, ← UInt8.toNat_inj]
  show 256 * (byteAt b i).toNat + (byteAt b (i + 1)).toNat = 0 ↔
    (byteAt b i).toNat = 0 ∧ (byteAt b (i + 1)).toNat = 0
  omega

/-! ### Numbers written again -/

theorem littleEndian_u32le (b : Bytes) (i : Nat) :
    littleEndian 4 (u32le b i).toNat = field b i 4 := by
  have hlt := ofLittleEndian_lt (field b i 4)
  rw [length_field] at hlt
  have hwritten := littleEndian_ofLittleEndian (field b i 4)
  rw [length_field] at hwritten
  rw [u32le, UInt32.toNat_ofNat_of_lt' hlt, hwritten]

theorem bigEndian_ofBigEndian (b : Bytes) : bigEndian b.length (ofBigEndian b) = b := by
  rw [bigEndian, ofBigEndian, ← List.length_reverse, littleEndian_ofLittleEndian,
    List.reverse_reverse]

theorem ofBigEndian_lt (b : Bytes) : ofBigEndian b < 256 ^ b.length := by
  rw [ofBigEndian, ← List.length_reverse]
  exact ofLittleEndian_lt b.reverse

theorem bigEndian_u16be (b : Bytes) (i : Nat) :
    bigEndian 2 (u16be b i).toNat = field b i 2 := by
  have hlt := ofBigEndian_lt (field b i 2)
  rw [length_field] at hlt
  have hwritten := bigEndian_ofBigEndian (field b i 2)
  rw [length_field] at hwritten
  rw [u16be, UInt16.toNat_ofNat_of_lt' hlt, hwritten]

theorem bigEndian_u32be (b : Bytes) (i : Nat) :
    bigEndian 4 (u32be b i).toNat = field b i 4 := by
  have hlt := ofBigEndian_lt (field b i 4)
  rw [length_field] at hlt
  have hwritten := bigEndian_ofBigEndian (field b i 4)
  rw [length_field] at hwritten
  rw [u32be, UInt32.toNat_ofNat_of_lt' hlt, hwritten]

/-! ### Zeros -/

theorem field_replicate (n i k : Nat) : field (List.replicate n 0) i k = List.replicate k 0 := by
  refine eq_of_byteAt (by simp) fun j hj => ?_
  rw [length_field] at hj
  rw [byteAt_field hj, byteAt_replicate, byteAt_replicate]

@[simp] theorem u16le_replicate (n i : Nat) : u16le (List.replicate n 0) i = 0 := by
  rw [u16le, field_replicate]
  rfl

@[simp] theorem u32le_replicate (n i : Nat) : u32le (List.replicate n 0) i = 0 := by
  rw [u32le, field_replicate]
  rfl

theorem u32le_replicate_append {n i : Nat} (h : i + 4 ≤ n) (b : Bytes) :
    u32le (List.replicate n 0 ++ b) i = 0 := by
  rw [u32le, field_append_left (by rwa [List.length_replicate]), ← u32le, u32le_replicate]

theorem byteAt_eq_zero_of_forall {b : Bytes} (h : ∀ x ∈ b, x = 0) (i : Nat) : byteAt b i = 0 := by
  rcases Nat.lt_or_ge i b.length with hi | hi
  · exact h _ (List.mem_of_getElem? (getElem?_eq_byteAt hi))
  · exact byteAt_of_le hi

/-- Zeros at the end are read alike whether they are there or not. -/
theorem field_take_of_zeros {b : Bytes} {i n limit : Nat} (h : ∀ x ∈ b.drop limit, x = 0) :
    field (b.take limit) i n = field b i n := by
  refine eq_of_byteAt (by simp) fun j hj => ?_
  rw [length_field] at hj
  rw [byteAt_field hj, byteAt_field hj]
  rcases Nat.lt_or_ge (i + j) limit with hin | hbehind
  · exact byteAt_take hin
  · have hzero := byteAt_eq_zero_of_forall h (i + j - limit)
    rw [byteAt_drop, Nat.add_sub_cancel' hbehind] at hzero
    rw [hzero, byteAt_of_le (Nat.le_trans (List.length_take_le _ _) hbehind)]

theorem take_resize {b : Bytes} {k n : Nat} (h : k ≤ n) :
    (resize n b).take k = resize k b := by
  refine eq_of_byteAt (by simp [h]) fun i hi => ?_
  have hik : i < k := Nat.lt_of_lt_of_le hi (List.length_take_le _ _)
  rw [byteAt_take hik, byteAt_resize (Nat.lt_of_lt_of_le hik h), byteAt_resize hik]

theorem resize_of_ge {n : Nat} {b : Bytes} (h : b.length ≤ n) :
    resize n b = b ++ List.replicate (n - b.length) 0 := by
  rw [resize, List.take_of_length_le h]

end InterfaceDump.Bytes
