import Mathlib.Algebra.Group.Nat.Defs
import ServerManagement.Decimal.Digits

/-!
Rows of decimal digits are read back as the numbers that they were written for, also when they are
filled up with zeros.
-/

set_option autoImplicit false

namespace ServerManagement.Decimal

theorem digitChar_eq {value : Nat} (small : value < 10) : digitChar value = value.digitChar := by
  have all : ∀ digit < 10, digitChar digit = Nat.digitChar digit := by decide
  exact all value small

theorem digits_eq_toDigits (value : Nat) : digits value = Nat.toDigits 10 value := by
  fun_induction digits value with
  | case1 value small => rw [Nat.toDigits_of_lt_base small, digitChar_eq small]
  | case2 value large ih =>
      have last : digitChar value = digitChar (value % 10) := by simp [digitChar]
      rw [Nat.toDigits_of_base_le (by decide) (Nat.le_of_not_lt large), ih, last,
        digitChar_eq (Nat.mod_lt _ (by decide))]

theorem ofDigits_digits (value : Nat) : ofDigits (digits value) = value := by
  have fold (row : List Char) (high : Nat) :
      ofDigitsFrom high row = Nat.ofDigitChars 10 row high := by
    induction row generalizing high with
    | nil => rfl
    | cons digit row ih => exact ih _
  rw [ofDigits, fold, digits_eq_toDigits, Nat.ofDigitChars_ten_toDigits]

theorem digits_inj {left right : Nat} : digits left = digits right ↔ left = right := by
  constructor
  · intro same
    rw [← ofDigits_digits left, same, ofDigits_digits]
  · intro same
    rw [same]

theorem digits_ne_nil (value : Nat) : digits value ≠ [] :=
  digits_eq_toDigits value ▸ Nat.toDigits_ne_nil

theorem isDigit_of_mem_digits {value : Nat} {c : Char} (member : c ∈ digits value) :
    c.isDigit = true :=
  Nat.isDigit_of_mem_toDigits (by decide) (by decide) (digits_eq_toDigits value ▸ member)

theorem length_digits_le_iff {value bound : Nat} (filled : 0 < bound) :
    (digits value).length ≤ bound ↔ value < 10 ^ bound :=
  digits_eq_toDigits value ▸ Nat.length_toDigits_le_iff (by decide) filled

/-- Only nought is written with a zero in front. -/
theorem head?_digits {value : Nat} (positive : value ≠ 0) : (digits value).head? ≠ some '0' := by
  fun_induction digits value with
  | case1 value small =>
      have all : ∀ digit < 10, digit ≠ 0 → [digitChar digit].head? ≠ some '0' := by decide
      exact all value small positive
  | case2 value large ih =>
      have high := ih (by omega)
      obtain ⟨c, tail, same⟩ := List.exists_cons_of_ne_nil (digits_ne_nil (value / 10))
      rw [same] at high ⊢
      exact high

/-- A row is taken whole where nothing follows that could go on with it. -/
theorem takeWhile_append {wanted : Char → Bool} {row rest : List Char}
    (all : ∀ c ∈ row, wanted c = true) (ends : ∀ c ∈ rest.head?, wanted c = false) :
    (row ++ rest).takeWhile wanted = row := by
  have stays : rest.takeWhile wanted = [] := by
    cases rest with
    | nil => rfl
    | cons c rest => simp [ends c rfl]
  rw [List.takeWhile_append_of_pos all, stays, List.append_nil]

/-! ## Filled up with zeros -/

theorem ofDigits_replicate_append (count : Nat) (row : List Char) :
    ofDigits (List.replicate count '0' ++ row) = ofDigits row := by
  induction count with
  | zero => rfl
  | succ count ih => exact ih

theorem ofDigits_padded (width value : Nat) : ofDigits (padded width value) = value := by
  rw [padded, ofDigits_replicate_append, ofDigits_digits]

theorem isDigit_of_mem_padded {width value : Nat} {c : Char} (member : c ∈ padded width value) :
    c.isDigit = true := by
  rcases List.mem_append.mp member with zero | digit
  · exact List.eq_of_mem_replicate zero ▸ rfl
  · exact isDigit_of_mem_digits digit

theorem padded_ne_nil (width value : Nat) : padded width value ≠ [] := by
  simp [padded, digits_ne_nil]

theorem length_padded {width value : Nat} (filled : 0 < width) (fits : value < 10 ^ width) :
    (padded width value).length = width := by
  have short := (length_digits_le_iff filled).mpr fits
  simp only [padded, List.length_append, List.length_replicate]
  omega

end ServerManagement.Decimal
