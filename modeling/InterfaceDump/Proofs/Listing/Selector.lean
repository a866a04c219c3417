import InterfaceDump.Listing.Value
import InterfaceDump.Proofs.Text.Words
import Mathlib.Data.List.Induction

/-! Which texts select an interface.

A text in the form of a number is an index: perhaps a plus sign, then digits (`Denotes`).
What the digits denote is settled by the grammar of numerals, digit by digit and without a
bound. A reader that goes through the digits in 32 bits and gives up where they overflow
gets as far as the bound and no further (`foldlM_pushDigit?`), so it tells the same texts
apart. `selectors_by_grammar` says what becomes of every text: zero is refused, as is the
empty text, other numbers of 32 bits are indexes, and all else is a name, which is kept as
it is. -/
namespace InterfaceDump.Listing

/-! ### Numerals -/

/-- One or more decimal digits, and the number they denote. -/
inductive Numeral : List Char → Nat → Prop where
  | digit {d : Nat} (hd : d < 10) : Numeral [Nat.digitChar d] d
  | next {digits : List Char} {n d : Nat} (h : Numeral digits n) (hd : d < 10) :
      Numeral (digits ++ [Nat.digitChar d]) (10 * n + d)

theorem exists_digitChar {c : Char} (h : c.isDigit = true) : ∃ d < 10, c = Nat.digitChar d := by
  obtain ⟨hlow, hhigh⟩ := Char.isDigit_iff_toNat.mp h
  have hzero : '0'.toNat = 48 := rfl
  have hnine : '9'.toNat = 57 := rfl
  have hd : c.toNat - 48 < 10 := by omega
  refine ⟨c.toNat - 48, hd, Char.toNat_inj.mp ?_⟩
  rw [Nat.toNat_digitChar_of_lt_ten hd]
  omega

theorem ofDigits?_eq_some_iff {digits : List Char} {n : Nat} :
    ofDigits? digits = some n ↔
      digits ≠ [] ∧ (∀ c ∈ digits, c.isDigit = true) ∧ Nat.ofDigitChars 10 digits 0 = n := by
  rw [ofDigits?, Option.ite_none_right_eq_some, List.all_eq_true, and_assoc, Option.some.injEq]
  rfl

theorem ofDigitChars_concat {d : Nat} (hd : d < 10) (digits : List Char) (n : Nat) :
    Nat.ofDigitChars 10 (digits ++ [d.digitChar]) n = 10 * Nat.ofDigitChars 10 digits n + d := by
  have hvalue : d.digitChar.toNat - '0'.toNat = d := Nat.toNat_digitChar_sub_48_of_lt_ten hd
  rw [Nat.ofDigitChars_append, Nat.ofDigitChars_cons, Nat.ofDigitChars_nil, hvalue]

/-- A numeral is as many digits as there are, read from the left. -/
theorem numeral_iff {digits : List Char} {n : Nat} :
    Numeral digits n ↔ ofDigits? digits = some n := by
  rw [ofDigits?_eq_some_iff]
  constructor
  · intro h
    induction h with
    | digit hd =>
      refine ⟨List.cons_ne_nil _ _, ?_, (ofDigitChars_concat hd [] 0).trans (Nat.zero_add _)⟩
      simpa [Nat.isDigit_digitChar] using hd
    | next h hd ih =>
      obtain ⟨-, hdigits, rfl⟩ := ih
      refine ⟨List.append_ne_nil_of_right_ne_nil _ (List.cons_ne_nil _ _), ?_,
        ofDigitChars_concat hd _ 0⟩
      rw [List.forall_mem_append]
      exact ⟨hdigits, by simpa [Nat.isDigit_digitChar] using hd⟩
  · rintro ⟨hne, hdigits, rfl⟩
    induction digits using List.reverseRecOn with
    | nil => exact absurd rfl hne
    | append_singleton front c ih =>
      rw [List.forall_mem_append] at hdigits
      obtain ⟨d, hd, rfl⟩ := exists_digitChar (hdigits.2 c List.mem_cons_self)
      rw [ofDigitChars_concat hd]
      rcases eq_or_ne front [] with rfl | hfront
      · simpa using Numeral.digit hd
      · exact .next (ih hfront hdigits.1) hd

theorem numeral_decimal (n : Nat) : Numeral (toString n).toList n := by
  rw [numeral_iff, ofDigits?_eq_some_iff, toList_decimal]
  exact ⟨Nat.toDigits_ne_nil, fun c hc => Nat.isDigit_of_mem_toDigits (by decide) (by decide) hc,
    Nat.ofDigitChars_ten_toDigits⟩

/-- Zero is written in zeros alone. -/
theorem numeral_zero_iff {digits : List Char} :
    Numeral digits 0 ↔ ∃ k, digits = List.replicate (k + 1) '0' := by
  constructor
  · intro h
    generalize hn : 0 = n at h
    induction h with
    | digit hd => exact ⟨0, by rw [← hn]; rfl⟩
    | @next digits n d h hd ih =>
      obtain ⟨k, rfl⟩ := ih (by omega)
      obtain rfl : d = 0 := by omega
      exact ⟨k + 1, List.replicate_succ'.symm⟩
  · rintro ⟨k, rfl⟩
    rw [numeral_iff, ofDigits?_eq_some_iff, Nat.ofDigitChars_replicate_zero, Nat.mul_zero]
    exact ⟨List.cons_ne_nil _ _, fun c hc => by rw [List.eq_of_mem_replicate hc]; rfl, rfl⟩

/-! ### Numbers with a sign -/

/-- The text has the form of a number: a numeral, perhaps with a plus sign in front. -/
def Denotes (s : String) (n : Nat) : Prop :=
  ∃ digits, Numeral digits n ∧ (s.toList = digits ∨ s.toList = '+' :: digits)

/-- What stands behind the plus sign, if there is one. -/
def unsigned : List Char → List Char
  | '+' :: digits => digits
  | digits => digits

variable {s : String}

theorem Numeral.unsigned_eq {digits : List Char} {n : Nat} (h : Numeral digits n) :
    unsigned digits = digits := by
  obtain ⟨-, hdigits, -⟩ := ofDigits?_eq_some_iff.mp (numeral_iff.mp h)
  unfold unsigned
  split
  · exact absurd (hdigits '+' List.mem_cons_self) (by decide)
  · rfl

theorem denotes_iff {n : Nat} : Denotes s n ↔ ofDigits? (unsigned s.toList) = some n := by
  rw [← numeral_iff]
  constructor
  · rintro ⟨digits, h, hbare | hsigned⟩
    · rwa [hbare, h.unsigned_eq]
    · rwa [hsigned]
  · intro h
    refine ⟨_, h, ?_⟩
    unfold unsigned
    split
    · next digits hsigned => exact .inr hsigned
    · exact .inl rfl

theorem not_denotes_empty {n : Nat} : ¬ Denotes "" n := by
  rw [denotes_iff]
  exact nofun

theorem exists_denotes_iff : (∃ n, Denotes s n) ↔ ∃ digits ≠ [],
    (∀ c ∈ digits, c.isDigit = true) ∧ (s.toList = digits ∨ s.toList = '+' :: digits) := by
  constructor
  · rintro ⟨n, digits, h, hs⟩
    obtain ⟨hne, hdigits, -⟩ := ofDigits?_eq_some_iff.mp (numeral_iff.mp h)
    exact ⟨digits, hne, hdigits, hs⟩
  · rintro ⟨digits, hne, hdigits, hs⟩
    exact ⟨_, digits, numeral_iff.mpr (ofDigits?_eq_some_iff.mpr ⟨hne, hdigits, rfl⟩), hs⟩

theorem denotes_zero_iff : Denotes s 0 ↔ ∃ k,
    s.toList = List.replicate (k + 1) '0' ∨ s.toList = '+' :: List.replicate (k + 1) '0' := by
  simp only [Denotes, numeral_zero_iff]
  constructor
  · rintro ⟨_, ⟨k, rfl⟩, hs⟩
    exact ⟨k, hs⟩
  · rintro ⟨k, hs⟩
    exact ⟨_, ⟨k, rfl⟩, hs⟩

/-! ### Numbers of 32 bits -/

theorem index?_eq (s : String) : index? s = (ofDigits? (unsigned s.toList)).bind fun n =>
    if n < UInt32.size then some (UInt32.ofNat n) else none := rfl

theorem index?_eq_some_iff {index : UInt32} : index? s = some index ↔ Denotes s index.toNat := by
  rw [index?_eq, denotes_iff, Option.bind_eq_some_iff]
  constructor
  · rintro ⟨n, hn, hindex⟩
    obtain ⟨hlt, hindex⟩ := Option.ite_none_right_eq_some.mp hindex
    rwa [← Option.some.inj hindex, UInt32.toNat_ofNat_of_lt' hlt]
  · intro h
    refine ⟨_, h, ?_⟩
    rw [if_pos index.toNat_lt, UInt32.ofNat_toNat]

theorem index?_eq_none_iff : index? s = none ↔ ∀ n, Denotes s n → 4294967295 < n := by
  constructor
  · intro hnone n hn
    by_contra hle
    have hlt : n < UInt32.size := by
      rw [UInt32.size]
      omega
    have hsome : index? s = some (UInt32.ofNat n) :=
      index?_eq_some_iff.mpr (by rwa [UInt32.toNat_ofNat_of_lt' hlt])
    rw [hnone] at hsome
    contradiction
  · intro h
    rw [Option.eq_none_iff_forall_not_mem]
    intro index hindex
    have hlarge := h _ (index?_eq_some_iff.mp hindex)
    have hlt := index.toNat_lt
    omega

/-- One more digit behind a number, as long as 32 bits hold it. -/
def pushDigit? (n : UInt32) (c : Char) : Option UInt32 :=
  let next := 10 * n.toNat + (c.toNat - '0'.toNat)
  if c.isDigit ∧ next < UInt32.size then some (UInt32.ofNat next) else none

theorem le_ofDigitChars (n : Nat) (digits : List Char) : n ≤ Nat.ofDigitChars 10 digits n := by
  induction digits generalizing n with
  | nil => exact Nat.le_refl n
  | cons c rest ih =>
    rw [Nat.ofDigitChars_cons]
    exact Nat.le_trans (by omega) (ih _)

/-- **A reader in 32 bits that gives up at an overflow reads the numbers of 32 bits.** A number
does not shrink as digits are added, so none that is too large on the way fits in the end. -/
theorem foldlM_pushDigit? (n : UInt32) (digits : List Char) :
    digits.foldlM pushDigit? n =
      if digits.all (·.isDigit) ∧ Nat.ofDigitChars 10 digits n.toNat < UInt32.size then
        some (UInt32.ofNat (Nat.ofDigitChars 10 digits n.toNat))
      else none := by
  induction digits generalizing n with
  | nil =>
    rw [Nat.ofDigitChars_nil, if_pos ⟨rfl, n.toNat_lt⟩, UInt32.ofNat_toNat]
    rfl
  | cons c rest ih =>
    rw [List.foldlM_cons, pushDigit?, Nat.ofDigitChars_cons, List.all_cons]
    by_cases hc : c.isDigit = true
    · rcases Nat.lt_or_ge (10 * n.toNat + (c.toNat - '0'.toNat)) UInt32.size with hlt | hge
      · rw [if_pos ⟨hc, hlt⟩, Option.bind_eq_bind, Option.bind_some, ih,
          UInt32.toNat_ofNat_of_lt' hlt, hc, Bool.true_and]
      · have hlarge := Nat.le_trans hge (le_ofDigitChars _ rest)
        rw [if_neg fun h => Nat.not_lt_of_le hge h.2, if_neg fun h => Nat.not_lt_of_le hlarge h.2]
        rfl
    · rw [if_neg fun h => hc h.1, if_neg fun h => hc (Bool.and_eq_true_iff.mp h.1).1]
      rfl

/-- The index that a text denotes, read digit by digit in 32 bits. -/
theorem index?_eq_foldlM (s : String) : index? s =
    if unsigned s.toList = [] then none else (unsigned s.toList).foldlM pushDigit? 0 := by
  rw [index?_eq]
  by_cases hnil : unsigned s.toList = []
  · rw [if_pos hnil, ofDigits?, if_neg fun h => h.1 hnil, Option.bind_none]
  · rw [if_neg hnil, foldlM_pushDigit?, ofDigits?]
    by_cases hdigits : (unsigned s.toList).all (·.isDigit) = true
    · rw [if_pos ⟨hnil, hdigits⟩, Option.bind_some]
      simp only [hdigits, true_and]
      rfl
    · rw [if_neg fun h => hdigits h.2, if_neg fun h => hdigits h.1, Option.bind_none]

/-! ### Selectors -/

theorem ofText_of_ne (h : s ≠ "") : Selector.ofText s =
    (index? s).elim (.ok (.byName s)) fun index =>
      if index = 0 then .error .zeroIndex else .ok (.byIndex index) := by
  rw [Selector.ofText, if_neg h]
  cases index? s <;> rfl

theorem ne_empty_of_denotes {n : Nat} (h : Denotes s n) : s ≠ "" := by
  rintro rfl
  exact not_denotes_empty h

theorem ofText_of_denotes {index : UInt32} (h : Denotes s index.toNat) :
    Selector.ofText s = if index = 0 then .error .zeroIndex else .ok (.byIndex index) := by
  rw [ofText_of_ne (ne_empty_of_denotes h), index?_eq_some_iff.mpr h, Option.elim_some]

theorem ofText_of_large (hne : s ≠ "") (h : ∀ n, Denotes s n → 4294967295 < n) :
    Selector.ofText s = .ok (.byName s) := by
  rw [ofText_of_ne hne, index?_eq_none_iff.mpr h, Option.elim_none]

/-- What a text is read as, by its form. -/
inductive Reads (s : String) : Except ValueError Selector → Prop where
  | empty (h : s = "") : Reads s (.error .missingInterface)
  | zero (h : Denotes s 0) : Reads s (.error .zeroIndex)
  | index {index : UInt32} (h : Denotes s index.toNat) (hne : index ≠ 0) :
      Reads s (.ok (.byIndex index))
  | name (hne : s ≠ "") (h : ∀ n, Denotes s n → 4294967295 < n) : Reads s (.ok (.byName s))

theorem reads_ofText (s : String) : Reads s (Selector.ofText s) := by
  by_cases hne : s = ""
  · rw [Selector.ofText, if_pos hne]
    exact .empty hne
  · cases hindex : index? s with
    | none =>
      have hlarge := index?_eq_none_iff.mp hindex
      rw [ofText_of_large hne hlarge]
      exact .name hne hlarge
    | some index =>
      have hdenotes := index?_eq_some_iff.mp hindex
      rw [ofText_of_denotes hdenotes]
      split
      · next hzero =>
        subst hzero
        exact .zero hdenotes
      · next hzero => exact .index hdenotes hzero

/-- **A text is read as its form says, and in no other way.** -/
theorem ofText_eq_iff {result : Except ValueError Selector} :
    Selector.ofText s = result ↔ Reads s result := by
  constructor
  · rintro rfl
    exact reads_ofText s
  · rintro (h | h | ⟨h, hne⟩ | ⟨hne, h⟩)
    · rw [Selector.ofText, if_pos h]
    · exact ofText_of_denotes (show Denotes s (0 : UInt32).toNat from h)
    · rw [ofText_of_denotes h, if_neg hne]
    · exact ofText_of_large hne h

theorem exists_byIndex_iff {n : Nat} :
    (∃ index, Selector.ofText s = .ok (.byIndex index) ∧ index.toNat = n) ↔
      Denotes s n ∧ 1 ≤ n ∧ n ≤ 4294967295 := by
  constructor
  · rintro ⟨index, hread, rfl⟩
    cases ofText_eq_iff.mp hread with
    | index hdenotes hne =>
      have hpos : index.toNat ≠ 0 := fun hzero => hne (UInt32.toNat_inj.mp hzero)
      have hlt := index.toNat_lt
      exact ⟨hdenotes, by omega, by omega⟩
  · rintro ⟨hdenotes, hpos, hle⟩
    have hvalue : (UInt32.ofNat n).toNat = n :=
      UInt32.toNat_ofNat_of_lt' (Nat.lt_succ_of_le hle)
    refine ⟨UInt32.ofNat n, ofText_eq_iff.mpr (.index (by rwa [hvalue]) fun hzero => ?_), hvalue⟩
    rw [hzero] at hvalue
    exact absurd hvalue (by rw [UInt32.toNat_zero]; omega)

theorem byName_iff {name : String} : Selector.ofText s = .ok (.byName name) ↔
    name = s ∧ s ≠ "" ∧ ∀ n, Denotes s n → 4294967295 < n := by
  rw [ofText_eq_iff]
  constructor
  · rintro (_ | _ | _ | ⟨hne, h⟩)
    exact ⟨rfl, hne, h⟩
  · rintro ⟨rfl, hne, h⟩
    exact .name hne h

theorem missing_iff : Selector.ofText s = .error .missingInterface ↔ s = "" := by
  rw [ofText_eq_iff]
  refine ⟨fun h => ?_, .empty⟩
  cases h with
  | empty h => exact h

theorem zero_iff : Selector.ofText s = .error .zeroIndex ↔ Denotes s 0 := by
  rw [ofText_eq_iff]
  refine ⟨fun h => ?_, .zero⟩
  cases h with
  | zero h => exact h

/-- What becomes of a text that is given as a selector. -/
structure ReadByGrammar (s : String) : Prop where
  form : (∃ n, Denotes s n) ↔ ∃ digits ≠ [],
    (∀ c ∈ digits, c.isDigit = true) ∧ (s.toList = digits ∨ s.toList = '+' :: digits)
  byIndex : ∀ n : Nat,
    (∃ index, Selector.ofText s = .ok (.byIndex index) ∧ index.toNat = n) ↔
      Denotes s n ∧ 1 ≤ n ∧ n ≤ 4294967295
  /-- Nothing but these two is refused. -/
  refused : (∃ e, Selector.ofText s = .error e) ↔ s = "" ∨ ∃ k,
    s.toList = List.replicate (k + 1) '0' ∨ s.toList = '+' :: List.replicate (k + 1) '0'
  missing : Selector.ofText s = .error .missingInterface ↔ s = ""
  byName : ∀ name, Selector.ofText s = .ok (.byName name) ↔
    name = s ∧ s ≠ "" ∧ ∀ n, Denotes s n → 4294967295 < n
  /-- The number is read without a larger one on the way. -/
  bounded : index? s =
    if unsigned s.toList = [] then none else (unsigned s.toList).foldlM pushDigit? 0

/-- **Numbers select by index and all other texts by name**, and the decimal text of an index
selects that index. -/
theorem selectors_by_grammar : (∀ s, ReadByGrammar s) ∧ ∀ index : UInt32,
    Selector.ofText (toString index.toNat) =
      if index = 0 then .error .zeroIndex else .ok (.byIndex index) := by
  refine ⟨fun s => ?_, fun index => ofText_of_denotes ⟨_, numeral_decimal index.toNat, .inl rfl⟩⟩
  refine ⟨exists_denotes_iff, fun n => exists_byIndex_iff, ?_, missing_iff, fun name => byName_iff,
    index?_eq_foldlM s⟩
  rw [← denotes_zero_iff, ← missing_iff, ← zero_iff]
  constructor
  · rintro ⟨e, he⟩
    cases ofText_eq_iff.mp he with
    | empty h => exact .inl he
    | zero h => exact .inr he
  · rintro (h | h)
    · exact ⟨_, h⟩
    · exact ⟨_, h⟩

example : ["+", "-1", " 1", "1+", "+0004294967295", "4294967296", "٣"].map Selector.ofText =
    [.ok (.byName "+"), .ok (.byName "-1"), .ok (.byName " 1"), .ok (.byName "1+"),
     .ok (.byIndex 4294967295), .ok (.byName "4294967296"), .ok (.byName "٣")] := by
  decide +kernel

end InterfaceDump.Listing
