import InterfaceDump.Text.Quoted
import Mathlib.Data.List.Basic

/-! What a text is made of.

A text that is put together from words can be taken apart again if the words lack the
separator. Decimal numbers lack everything but digits, and quoted texts lack line ends. -/
namespace InterfaceDump
open Text

/-! ### Words -/

variable {separator : String} {c : Char} {xs ys : List String}

theorem splitOn_toList_intercalate (hc : separator.toList = [c]) (hxs : ∀ x ∈ xs, c ∉ x.toList)
    (hne : xs ≠ []) :
    (separator.intercalate xs).toList.splitOn c = xs.map String.toList := by
  rw [String.toList_intercalate, hc]
  refine List.splitOn_intercalate c (fun word hword => ?_) (mt List.map_eq_nil_iff.mp hne)
  obtain ⟨x, hx, rfl⟩ := List.mem_map.mp hword
  exact hxs x hx

/-- Words without the separator can be told from the text that they make up. -/
theorem eq_of_intercalate_eq (hc : separator.toList = [c]) (hxs : ∀ x ∈ xs, c ∉ x.toList)
    (hys : ∀ y ∈ ys, c ∉ y.toList) (hxs' : xs ≠ []) (hys' : ys ≠ [])
    (h : separator.intercalate xs = separator.intercalate ys) : xs = ys := by
  have hwords : xs.map String.toList = ys.map String.toList := by
    rw [← splitOn_toList_intercalate hc hxs hxs', h, splitOn_toList_intercalate hc hys hys']
  exact List.map_injective_iff.mpr (fun _ _ => String.toList_inj.mp) hwords

/-! ### Numbers -/

theorem toList_decimal (n : Nat) : (toString n).toList = Nat.toDigits 10 n := String.toList_ofList

theorem not_mem_decimal (hc : c.isDigit = false) (n : Nat) : c ∉ (toString n).toList := by
  rw [toList_decimal]
  intro hmem
  have hdigit := Nat.isDigit_of_mem_toDigits (by decide) (by decide) hmem
  rw [hc] at hdigit
  contradiction

theorem eq_of_decimal_eq {m n : Nat} (h : toString m = toString n) : m = n := by
  have hdigits : Nat.toDigits 10 m = Nat.toDigits 10 n := by
    rw [← toList_decimal, h, toList_decimal]
  rw [← Nat.ofDigitChars_toDigits (b := 10) (n := m) (by decide) (by decide), hdigits,
    Nat.ofDigitChars_toDigits (by decide) (by decide)]

theorem not_mem_hex (n : Nat) : '\n' ∉ (Hex.ofNat n).toList := by
  have hdigit : ∀ d < 16, '\n' ≠ Nat.digitChar d := by decide
  rw [Hex.ofNat, String.toList_ofList]
  induction n using Nat.strongRecOn with
  | ind n ih =>
    rw [Nat.toDigits_eq_if (by decide)]
    split
    · next hlast => exact mt List.mem_singleton.mp (hdigit n hlast)
    · next hmore =>
      rw [List.mem_append, not_or]
      exact ⟨ih (n / 16) (by omega),
        mt List.mem_singleton.mp (hdigit (n % 16) (Nat.mod_lt n (by decide)))⟩

/-! ### Quoted texts -/

theorem not_mem_escape (c : Char) : '\n' ∉ (Quoted.escape c).toList := by
  unfold Quoted.escape
  split
  case h_7 _ _ hline _ _ _ =>
    split
    · simp only [String.toList_append, List.mem_append, not_or]
      exact ⟨⟨by decide, not_mem_hex _⟩, by decide⟩
    · rw [Char.toString_eq_singleton, String.toList_singleton, List.mem_singleton]
      exact fun h => hline h.symm
  all_goals decide

/-- A quoted text takes one line, whatever is quoted. -/
theorem not_mem_quote (s : String) : '\n' ∉ (Quoted.quote s).toList := by
  simp only [Quoted.quote, String.toList_append, String.toList_join, List.mem_append,
    List.mem_flatMap, List.mem_map, not_or, not_exists, not_and]
  refine ⟨⟨by decide, ?_⟩, by decide⟩
  rintro _ ⟨c, -, rfl⟩
  exact not_mem_escape c

end InterfaceDump
