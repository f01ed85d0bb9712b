import ServerManagement.Proofs.Decimal.DigitRows

/-!
Which texts are read as whole numbers of a range: an optional sign and one or more digits, perhaps
zeros in front, as long as the number that they denote is in the range.
-/

set_option autoImplicit false

namespace ServerManagement.Decimal

variable {range : Range} {row text : List Char} {value : Int} {negative : Bool}

structure DigitRow (row : List Char) : Prop where
  filled : row ≠ []
  digits : ∀ c ∈ row, c.isDigit = true

inductive UnsignedText : List Char → Nat → Prop
  | bare {row : List Char} (digits : DigitRow row) : UnsignedText row (Nat.ofDigitChars 10 row 0)
  | plus {row : List Char} (digits : DigitRow row) :
      UnsignedText ('+' :: row) (Nat.ofDigitChars 10 row 0)

/-- A text that denotes a whole number: digits, perhaps with a sign in front. -/
inductive SignedText : List Char → Int → Prop
  | unsigned {text : List Char} {value : Nat} (unsigned : UnsignedText text value) :
      SignedText text value
  | minus {row : List Char} (digits : DigitRow row) :
      SignedText ('-' :: row) (-(Nat.ofDigitChars 10 row 0 : Int))

theorem digitRow_digits (value : Nat) : DigitRow (digits value) :=
  ⟨digits_ne_nil value, fun _ => isDigit_of_mem_digits⟩

/-- Neither a sign nor a point is a digit. -/
theorem DigitRow.not_mem (digits : DigitRow row) {c : Char} (other : c.isDigit = false) :
    c ∉ row := by
  intro member
  rw [digits.digits c member] at other
  cases other

theorem ofDigitChars_digits (value : Nat) : Nat.ofDigitChars 10 (digits value) 0 = value := by
  rw [digits_eq_toDigits, Nat.ofDigitChars_ten_toDigits]

theorem unsignedText_digits (value : Nat) : UnsignedText (digits value) value := by
  have text := UnsignedText.bare (digitRow_digits value)
  rwa [ofDigitChars_digits] at text

theorem signedText_signedDigits (value : Int) : SignedText (signedDigits value) value := by
  by_cases below : value < 0
  · have text := SignedText.minus (digitRow_digits value.natAbs)
    have same : -(value.natAbs : Int) = value := by omega
    rw [ofDigitChars_digits, same] at text
    rwa [signedDigits, if_pos below]
  · have text := SignedText.unsigned (unsignedText_digits value.natAbs)
    have same : (value.natAbs : Int) = value := by omega
    rw [same] at text
    rwa [signedDigits, if_neg below]

theorem UnsignedText.not_mem {value : Nat} (unsigned : UnsignedText text value) {c : Char}
    (other : c.isDigit = false) (noSign : c ≠ '+') : c ∉ text := by
  cases unsigned with
  | bare digits => exact digits.not_mem other
  | plus digits =>
      rw [List.mem_cons, not_or]
      exact ⟨noSign, digits.not_mem other⟩

/-! ## Rows of digits -/

theorem Range.holds_iff {value : Int} :
    range.holds value = true ↔ range.least ≤ value ∧ value ≤ range.greatest := by
  simp [Range.holds]

def signed (negative : Bool) (value : Nat) : Int := if negative then -value else value

theorem le_ofDigitChars (row : List Char) (high : Nat) : high ≤ Nat.ofDigitChars 10 row high := by
  induction row generalizing high with
  | nil => exact Nat.le_refl high
  | cons c row ih =>
      rw [Nat.ofDigitChars_cons]
      apply Nat.le_trans _ (ih _)
      omega

section Ranges

variable (nought : range.holds 0 = true)

include nought

/-- With nought in the range, a number leaves it at the end that its sign tells. -/
theorem holds_signed_iff {value : Nat} :
    range.holds (signed negative value) = true ↔
      if negative then range.least ≤ -(value : Int) else (value : Int) ≤ range.greatest := by
  obtain ⟨low, high⟩ := Range.holds_iff.mp nought
  rw [Range.holds_iff]
  cases negative <;> simp only [signed, if_true, Bool.false_eq_true, if_false] <;> omega

theorem readDigits_cons (negative : Bool) (high : Nat) (c : Char) (row : List Char) :
    readDigits range negative high (c :: row) =
      if c.isDigit then
        if range.holds (signed negative (10 * high + (c.toNat - 48))) then
          readDigits range negative (10 * high + (c.toNat - 48)) row
        else .error (if negative then .tooSmall else .tooLarge)
      else .error .invalidDigit := by
  simp only [readDigits, holds_signed_iff nought]
  cases negative <;> simp only [if_true, Bool.false_eq_true, if_false, ← Int.not_lt, ite_not]

/-- A number that has left the range does not come back into it with more digits. -/
theorem holds_of_holds_ofDigitChars {high : Nat}
    (inside : range.holds (signed negative (Nat.ofDigitChars 10 row high)) = true) :
    range.holds (signed negative high) = true := by
  have grows := le_ofDigitChars row high
  rw [holds_signed_iff nought] at inside ⊢
  cases negative <;> simp only [if_true, Bool.false_eq_true, if_false] at inside ⊢ <;> omega

/-- Rows are read digit by digit as long as the number stays in the range. -/
theorem readDigits_eq_ok_iff {high : Nat}
    (inside : range.holds (signed negative high) = true) :
    readDigits range negative high row = .ok value ↔
      (∀ c ∈ row, c.isDigit = true) ∧ signed negative (Nat.ofDigitChars 10 row high) = value ∧
        range.holds value = true := by
  -- The induction carries that the number is in the range so far.
  induction row generalizing high with
  | nil =>
      rw [readDigits, Except.ok.injEq, Nat.ofDigitChars_nil]
      constructor
      · intro same
        exact ⟨nofun, same, same ▸ inside⟩
      · intro ⟨_, same, _⟩
        exact same
  | cons c row ih =>
      rw [readDigits_cons nought, Nat.ofDigitChars_cons, List.forall_mem_cons]
      by_cases digit : c.isDigit = true
      · by_cases next : range.holds (signed negative (10 * high + (c.toNat - 48))) = true
        · rw [if_pos digit, if_pos next, ih next]
          simp [digit]
        · rw [if_pos digit, if_neg next]
          apply iff_of_false nofun
          intro ⟨_, same, holds⟩
          exact next (holds_of_holds_ofDigitChars nought (same ▸ holds))
      · rw [if_neg digit]
        apply iff_of_false nofun
        intro ⟨digits, _⟩
        exact digit digits.1

theorem readDigits_zero_eq_ok_iff :
    readDigits range negative 0 row = .ok value ↔
      (∀ c ∈ row, c.isDigit = true) ∧ signed negative (Nat.ofDigitChars 10 row 0) = value ∧
        range.holds value = true := by
  apply readDigits_eq_ok_iff nought
  cases negative <;> exact nought

end Ranges

/-! ## Signs -/

theorem readSigned_plus (filled : row ≠ []) :
    readSigned range ('+' :: row) = readDigits range false 0 row := by
  obtain ⟨c, row, rfl⟩ := List.exists_cons_of_ne_nil filled
  rfl

theorem readSigned_minus (filled : row ≠ []) :
    readSigned range ('-' :: row) =
      if range.least < 0 then readDigits range true 0 row else .error .invalidDigit := by
  obtain ⟨c, row, rfl⟩ := List.exists_cons_of_ne_nil filled
  rfl

theorem readSigned_bare {c : Char} (plus : c ≠ '+') (minus : c ≠ '-') :
    readSigned range (c :: row) = readDigits range false 0 (c :: row) := by
  cases row with
  | nil => simp [readSigned, plus, minus]
  | cons next row => simp [readSigned, plus, minus]

section Ranges

variable (nought : range.holds 0 = true)

include nought

/-- What is read without a minus sign. -/
theorem readSigned_eq_ok_of_unsigned {number : Nat}
    (unsigned : UnsignedText text number) :
    readSigned range text = .ok value ↔ (number : Int) = value ∧ range.holds value = true := by
  cases unsigned with
  | bare digits =>
      obtain ⟨c, row, rfl⟩ := List.exists_cons_of_ne_nil digits.filled
      have plus : c ≠ '+' := fun same => digits.not_mem (c := '+') rfl (same ▸ List.mem_cons_self)
      have minus : c ≠ '-' := fun same => digits.not_mem (c := '-') rfl (same ▸ List.mem_cons_self)
      rw [readSigned_bare plus minus, readDigits_zero_eq_ok_iff nought]
      exact ⟨fun ⟨_, found⟩ => found, fun found => ⟨digits.digits, found⟩⟩
  | plus digits =>
      rw [readSigned_plus digits.filled, readDigits_zero_eq_ok_iff nought]
      exact ⟨fun ⟨_, found⟩ => found, fun found => ⟨digits.digits, found⟩⟩

theorem readSigned_eq_ok_of_minus (digits : DigitRow row) :
    readSigned range ('-' :: row) = .ok value ↔
      range.least < 0 ∧ -(Nat.ofDigitChars 10 row 0 : Int) = value ∧ range.holds value = true := by
  rw [readSigned_minus digits.filled]
  split
  · rename_i below
    rw [readDigits_zero_eq_ok_iff nought]
    exact ⟨fun ⟨_, found⟩ => ⟨below, found⟩, fun ⟨_, found⟩ => ⟨digits.digits, found⟩⟩
  · rename_i above
    apply iff_of_false nofun
    intro ⟨below, _⟩
    exact above below

/-- Nothing is read but digits with perhaps a sign in front. -/
theorem shape_of_readSigned (read : readSigned range text = .ok value) :
    (∃ number, UnsignedText text number) ∨ ∃ row, text = '-' :: row ∧ DigitRow row := by
  cases text with
  | nil => cases read
  | cons c row =>
      by_cases plus : c = '+'
      · subst plus
        by_cases filled : row = []
        · subst filled
          cases read
        · rw [readSigned_plus filled, readDigits_zero_eq_ok_iff nought] at read
          exact .inl ⟨_, .plus ⟨filled, read.1⟩⟩
      · by_cases minus : c = '-'
        · subst minus
          by_cases filled : row = []
          · subst filled
            cases read
          · rw [readSigned_minus filled] at read
            split at read
            · rw [readDigits_zero_eq_ok_iff nought] at read
              exact .inr ⟨row, rfl, filled, read.1⟩
            · cases read
        · rw [readSigned_bare plus minus, readDigits_zero_eq_ok_iff nought] at read
          exact .inl ⟨_, .bare ⟨List.cons_ne_nil _ _, read.1⟩⟩

end Ranges

/-- In a range without negative numbers a text is read exactly when it denotes a number of it. -/
theorem readSigned_eq_ok_iff_unsigned (least : range.least = 0) (greatest : 0 ≤ range.greatest) :
    readSigned range text = .ok value ↔
      ∃ number : Nat, UnsignedText text number ∧ (number : Int) ≤ range.greatest ∧
        (number : Int) = value := by
  have nought : range.holds 0 = true := Range.holds_iff.mpr ⟨by omega, greatest⟩
  constructor
  · intro read
    rcases shape_of_readSigned nought read with ⟨number, unsigned⟩ | ⟨row, rfl, digits⟩
    · obtain ⟨rfl, inside⟩ := (readSigned_eq_ok_of_unsigned nought unsigned).mp read
      exact ⟨number, unsigned, (Range.holds_iff.mp inside).2, rfl⟩
    · obtain ⟨below, _⟩ := (readSigned_eq_ok_of_minus nought digits).mp read
      omega
  · intro ⟨number, unsigned, small, same⟩
    have inside : range.holds value = true := Range.holds_iff.mpr (by omega)
    exact (readSigned_eq_ok_of_unsigned nought unsigned).mpr ⟨same, inside⟩

/-- In a range with negative numbers a text is read exactly when it denotes a number of it. -/
theorem readSigned_eq_ok_iff_signed (least : range.least < 0) (greatest : 0 ≤ range.greatest) :
    readSigned range text = .ok value ↔ SignedText text value ∧ range.holds value = true := by
  have nought : range.holds 0 = true := Range.holds_iff.mpr ⟨by omega, greatest⟩
  constructor
  · intro read
    rcases shape_of_readSigned nought read with ⟨number, unsigned⟩ | ⟨row, rfl, digits⟩
    · obtain ⟨rfl, inside⟩ := (readSigned_eq_ok_of_unsigned nought unsigned).mp read
      exact ⟨.unsigned unsigned, inside⟩
    · obtain ⟨_, rfl, inside⟩ := (readSigned_eq_ok_of_minus nought digits).mp read
      exact ⟨.minus digits, inside⟩
  · intro ⟨text, inside⟩
    cases text with
    | unsigned unsigned => exact (readSigned_eq_ok_of_unsigned nought unsigned).mpr ⟨rfl, inside⟩
    | minus digits => exact (readSigned_eq_ok_of_minus nought digits).mpr ⟨least, rfl, inside⟩

end ServerManagement.Decimal
