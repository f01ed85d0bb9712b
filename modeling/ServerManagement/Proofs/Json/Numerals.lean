import ServerManagement.Proofs.Decimal.SignedReading
import ServerManagement.Proofs.Json.Strings

/-!
How numerals may be spelled. A spelling is read as the numeral that it stands for when nothing
follows that could go on with it, and all that can be read is a spelling. Whole numbers of the
sixty-four bit ranges are printed as spellings of themselves.
-/

set_option autoImplicit false

namespace ServerManagement.Json

def EndsDigits (rest : Bytes) : Prop := ∀ byte, rest.head? = some byte → isDigitByte byte = false

def EndsNumeral (rest : Bytes) : Prop :=
  ∀ byte, rest.head? = some byte →
    isDigitByte byte = false ∧ byte ≠ 0x2E ∧ byte ≠ 0x65 ∧ byte ≠ 0x45

theorem EndsNumeral.endsDigits {rest : Bytes} (ends : EndsNumeral rest) : EndsDigits rest :=
  fun byte head => (ends byte head).1

/-! ## Runs of digits -/

structure DigitRun (run : Bytes) : Prop where
  filled : run ≠ []
  digits : ∀ byte ∈ run, isDigitByte byte = true

namespace DigitRun

variable {run rest : Bytes}

theorem head (digits : DigitRun run) : ∃ byte tail, run = byte :: tail ∧ isDigitByte byte = true := by
  cases run with
  | nil => exact absurd rfl digits.filled
  | cons byte tail => exact ⟨byte, tail, rfl, digits.digits byte (List.mem_cons_self ..)⟩

theorem read (digits : DigitRun run) (ends : EndsDigits rest) (atEnd : Malformed) :
    readDigitRun atEnd (run ++ rest) = .ok (run, rest) := by
  have stays : rest.takeWhile isDigitByte = [] ∧ rest.dropWhile isDigitByte = rest := by
    cases rest with
    | nil => exact ⟨rfl, rfl⟩
    | cons byte tail => simp [ends byte rfl]
  have taken : (run ++ rest).takeWhile isDigitByte = run ++ rest.takeWhile isDigitByte :=
    List.takeWhile_append_of_pos digits.digits
  have dropped : (run ++ rest).dropWhile isDigitByte = rest.dropWhile isDigitByte :=
    List.dropWhile_append_of_pos digits.digits
  obtain ⟨byte, tail, rfl, digit⟩ := digits.head
  rw [List.cons_append] at taken dropped ⊢
  simp only [readDigitRun, digit, if_true, taken, dropped, stays, List.append_nil]

end DigitRun

theorem digitRun_of_read {atEnd : Malformed} {input run rest : Bytes}
    (read : readDigitRun atEnd input = .ok (run, rest)) : input = run ++ rest ∧ DigitRun run := by
  unfold readDigitRun at read
  split at read
  · cases read
  · rename_i byte tail
    split at read
    · rename_i digit
      obtain ⟨rfl, rfl⟩ : _ = run ∧ _ = rest := by simpa using read
      refine ⟨(List.takeWhile_append_dropWhile ..).symm, ?_, fun other member => ?_⟩
      · simp [digit]
      · exact List.all_eq_true.mp List.all_takeWhile other member
    · cases read

structure WholeRun (run : Bytes) : Prop extends DigitRun run where
  bare : ¬(run.length > 1 ∧ run.head? = some 0x30)

theorem WholeRun.single {byte : UInt8} (digit : isDigitByte byte = true) : WholeRun [byte] :=
  ⟨⟨List.cons_ne_nil _ _, fun _ member => List.mem_singleton.mp member ▸ digit⟩,
    fun ⟨long, _⟩ => Nat.lt_irrefl 1 long⟩

theorem WholeRun.read {run rest : Bytes} (whole : WholeRun run) (ends : EndsDigits rest)
    (atEnd : Malformed) : readWhole atEnd (run ++ rest) = .ok (run, rest) := by
  simp only [readWhole, whole.toDigitRun.read ends, if_neg whole.bare]

theorem wholeRun_of_read {atEnd : Malformed} {input run rest : Bytes}
    (read : readWhole atEnd input = .ok (run, rest)) : input = run ++ rest ∧ WholeRun run := by
  unfold readWhole at read
  split at read
  · cases read
  · rename_i found
    split at read
    · cases read
    · rename_i bare
      obtain ⟨rfl, rfl⟩ : _ = run ∧ _ = rest := by simpa using read
      obtain ⟨same, digits⟩ := digitRun_of_read found
      exact ⟨same, digits, bare⟩

/-! ## Fractions and exponents -/

inductive FractionSpelling : Bytes → Option Bytes → Prop
  | absent : FractionSpelling [] none
  | present {run : Bytes} (digits : DigitRun run) : FractionSpelling (0x2E :: run) (some run)

inductive SignSpelling : Bytes → Bool → Prop
  | absent : SignSpelling [] false
  | plus : SignSpelling [0x2B] false
  | minus : SignSpelling [0x2D] true

inductive ExponentSpelling : Bytes → Option (Bool × Bytes) → Prop
  | absent : ExponentSpelling [] none
  | present {mark : UInt8} {sign run : Bytes} {negative : Bool} (marks : mark = 0x65 ∨ mark = 0x45)
      (signed : SignSpelling sign negative) (digits : DigitRun run) :
      ExponentSpelling (mark :: (sign ++ run)) (some (negative, run))

theorem SignSpelling.read {sign run : Bytes} {negative : Bool} (signed : SignSpelling sign negative)
    (digits : DigitRun run) (rest : Bytes) :
    readExponentSign (sign ++ (run ++ rest)) = (negative, run ++ rest) := by
  cases signed with
  | absent =>
      obtain ⟨byte, tail, rfl, digit⟩ := digits.head
      have minus : byte ≠ 0x2D := by
        rintro rfl
        exact absurd digit (by decide)
      have plus : byte ≠ 0x2B := by
        rintro rfl
        exact absurd digit (by decide)
      simp [readExponentSign, minus, plus]
  | plus => rfl
  | minus => rfl

theorem signSpelling_readExponentSign (input : Bytes) :
    ∃ sign, input = sign ++ (readExponentSign input).2 ∧
      SignSpelling sign (readExponentSign input).1 := by
  unfold readExponentSign
  split
  · exact ⟨[], rfl, .absent⟩
  · split
    case isTrue minus => exact ⟨[0x2D], minus ▸ rfl, .minus⟩
    split
    case isTrue plus => exact ⟨[0x2B], plus ▸ rfl, .plus⟩
    exact ⟨[], rfl, .absent⟩

theorem FractionSpelling.read {used rest : Bytes} {fraction : Option Bytes}
    (spelling : FractionSpelling used fraction) (point : rest.head? ≠ some 0x2E)
    (ends : EndsDigits rest) (atEnd : Malformed) :
    readFraction atEnd (used ++ rest) = .ok (fraction, rest) := by
  cases spelling with
  | absent =>
      cases rest with
      | nil => rfl
      | cons byte tail =>
          have other : byte ≠ 0x2E := fun same => point (same ▸ rfl)
          simp [readFraction, other]
  | present digits => simp [readFraction, digits.read ends]

theorem fractionSpelling_of_read {atEnd : Malformed} {input rest : Bytes} {fraction : Option Bytes}
    (read : readFraction atEnd input = .ok (fraction, rest)) :
    ∃ used, input = used ++ rest ∧ FractionSpelling used fraction := by
  unfold readFraction at read
  split at read
  · obtain ⟨rfl, rfl⟩ : none = fraction ∧ [] = rest := by simpa using read
    exact ⟨[], rfl, .absent⟩
  · rename_i byte tail
    split at read
    · rename_i point
      split at read
      · cases read
      · rename_i run after found
        obtain ⟨rfl, rfl⟩ : some run = fraction ∧ after = rest := by simpa using read
        obtain ⟨rfl, digits⟩ := digitRun_of_read found
        exact ⟨0x2E :: run, point ▸ rfl, .present digits⟩
    · obtain ⟨rfl, rfl⟩ : none = fraction ∧ byte :: tail = rest := by simpa using read
      exact ⟨[], rfl, .absent⟩

theorem ExponentSpelling.read {used rest : Bytes} {exponent : Option (Bool × Bytes)}
    (spelling : ExponentSpelling used exponent) (ends : EndsNumeral rest) (atEnd : Malformed) :
    readExponent atEnd (used ++ rest) = .ok (exponent, rest) := by
  cases spelling with
  | absent =>
      cases rest with
      | nil => rfl
      | cons byte tail =>
          obtain ⟨_, _, small, large⟩ := ends byte rfl
          simp [readExponent, small, large]
  | present marks signed digits =>
      simp [readExponent, marks, signed.read digits, digits.read ends.endsDigits]

theorem exponentSpelling_of_read {atEnd : Malformed} {input rest : Bytes}
    {exponent : Option (Bool × Bytes)}
    (read : readExponent atEnd input = .ok (exponent, rest)) :
    ∃ used, input = used ++ rest ∧ ExponentSpelling used exponent := by
  unfold readExponent at read
  split at read
  · obtain ⟨rfl, rfl⟩ : none = exponent ∧ [] = rest := by simpa using read
    exact ⟨[], rfl, .absent⟩
  · rename_i byte tail
    split at read
    · rename_i marks
      obtain ⟨sign, same, signed⟩ := signSpelling_readExponentSign tail
      split at read
      · cases read
      · rename_i run after found
        obtain ⟨rfl, rfl⟩ : some ((readExponentSign tail).1, run) = exponent ∧ after = rest := by
          simpa using read
        obtain ⟨split, digits⟩ := digitRun_of_read found
        refine ⟨byte :: (sign ++ run), ?_, .present marks signed digits⟩
        rw [List.cons_append, List.append_assoc, ← split, ← same]
    · obtain ⟨rfl, rfl⟩ : none = exponent ∧ byte :: tail = rest := by simpa using read
      exact ⟨[], rfl, .absent⟩

/-! ## Numerals -/

structure NumeralSpelling (used : Bytes) (numeral : Numeral) : Prop where
  whole : WholeRun numeral.whole
  parts : ∃ fraction exponent, FractionSpelling fraction numeral.fraction ∧
    ExponentSpelling exponent numeral.exponent ∧
    used = (if numeral.negative then [0x2D] else []) ++ (numeral.whole ++ (fraction ++ exponent))

namespace NumeralSpelling

variable {used rest : Bytes} {numeral : Numeral}

/-- A numeral starts with its sign or with a digit. -/
theorem head (spelling : NumeralSpelling used numeral) :
    ∃ byte tail, used = byte :: tail ∧ (byte = 0x2D ∨ isDigitByte byte = true) := by
  obtain ⟨whole, fraction, exponent, _, _, rfl⟩ := spelling
  cases numeral.negative with
  | true => exact ⟨_, _, rfl, .inl rfl⟩
  | false =>
      obtain ⟨byte, tail, same, digit⟩ := whole.head
      exact ⟨byte, tail ++ (fraction ++ exponent), by rw [same]; rfl, .inr digit⟩

theorem read (spelling : NumeralSpelling used numeral) (ends : EndsNumeral rest)
    (atEnd : Malformed) : readNumeral atEnd (used ++ rest) = .ok (numeral, rest) := by
  obtain ⟨negative, row, fractionPart, exponentPart⟩ := numeral
  obtain ⟨whole, fraction, exponent, fractional, exponential, rfl⟩ := spelling
  dsimp only at whole fractional exponential
  -- What follows each part ends it.
  have afterFraction : (exponent ++ rest).head? ≠ some 0x2E ∧ EndsDigits (exponent ++ rest) := by
    cases exponential with
    | absent =>
        refine ⟨fun head => ?_, ends.endsDigits⟩
        exact (ends _ head).2.1 rfl
    | present marks _ _ =>
        refine ⟨fun head => ?_, fun byte head => ?_⟩
        · obtain rfl := Option.some.inj head
          rcases marks with mark | mark <;> cases mark
        · obtain rfl := Option.some.inj head
          rcases marks with rfl | rfl <;> rfl
  have afterWhole : EndsDigits (fraction ++ (exponent ++ rest)) := by
    cases fractional with
    | absent => exact afterFraction.2
    | present digits =>
        intro byte head
        obtain rfl := Option.some.inj head
        rfl
  have unsigned : readUnsigned atEnd negative (row ++ (fraction ++ (exponent ++ rest))) =
      .ok (⟨negative, row, fractionPart, exponentPart⟩, rest) := by
    simp only [readUnsigned, whole.read afterWhole,
      fractional.read afterFraction.1 afterFraction.2, exponential.read ends]
  simp only [List.append_assoc]
  cases negative with
  | true => exact unsigned
  | false =>
      obtain ⟨byte, tail, rfl, digit⟩ := whole.head
      have minus : byte ≠ 0x2D := by
        rintro rfl
        exact absurd digit (by decide)
      simp only [Bool.false_eq_true, if_false, List.nil_append, List.cons_append] at unsigned ⊢
      simp only [readNumeral, if_neg minus, unsigned]

end NumeralSpelling

theorem numeralSpelling_of_readUnsigned {atEnd : Malformed} {negative : Bool} {input rest : Bytes}
    {numeral : Numeral} (read : readUnsigned atEnd negative input = .ok (numeral, rest)) :
    ∃ used, (if negative then [0x2D] else []) ++ input = used ++ rest ∧
      NumeralSpelling used numeral := by
  unfold readUnsigned at read
  split at read
  · cases read
  · rename_i found
    obtain ⟨rfl, whole⟩ := wholeRun_of_read found
    split at read
    · cases read
    · rename_i found
      obtain ⟨fraction, rfl, fractional⟩ := fractionSpelling_of_read found
      split at read
      · cases read
      · rename_i found
        obtain ⟨exponent, rfl, exponential⟩ := exponentSpelling_of_read found
        obtain ⟨rfl, rfl⟩ : _ = numeral ∧ _ = rest := by simpa using read
        refine ⟨_, ?_, whole, fraction, exponent, fractional, exponential, rfl⟩
        simp only [List.append_assoc]

theorem numeralSpelling_of_read {atEnd : Malformed} {input rest : Bytes} {numeral : Numeral}
    (read : readNumeral atEnd input = .ok (numeral, rest)) :
    ∃ used, input = used ++ rest ∧ NumeralSpelling used numeral := by
  unfold readNumeral at read
  split at read
  · cases read
  · split at read
    · rename_i minus
      obtain ⟨used, same, spelling⟩ := numeralSpelling_of_readUnsigned read
      exact ⟨used, minus ▸ same, spelling⟩
    · exact numeralSpelling_of_readUnsigned read

/-! ## Printed whole numbers -/

theorem isDigitByte_digitChar (value : Nat) :
    isDigitByte (UInt8.ofNat (Decimal.digitChar value).toNat) = true ∧
      (Decimal.digitChar value).toNat < 128 ∧
      (UInt8.ofNat (Decimal.digitChar value).toNat).toNat = 48 + value % 10 := by
  have all : ∀ digit < 10, isDigitByte (UInt8.ofNat (Char.ofNat (48 + digit)).toNat) = true ∧
      (Char.ofNat (48 + digit)).toNat < 128 ∧
      (UInt8.ofNat (Char.ofNat (48 + digit)).toNat).toNat = 48 + digit := by decide
  exact all (value % 10) (Nat.mod_lt _ (by decide))

theorem bytesOfChars_digitChar (value : Nat) :
    bytesOfChars [Decimal.digitChar value] = [UInt8.ofNat (Decimal.digitChar value).toNat] := by
  rw [bytesOfChars_cons, utf8EncodeChar_of_ascii (isDigitByte_digitChar value).2.1]
  rfl

theorem ofDigitBytes_concat (run : Bytes) (byte : UInt8) :
    ofDigitBytes (run ++ [byte]) = 10 * ofDigitBytes run + (byte.toNat - 0x30) := by
  simp [ofDigitBytes]

theorem digitRun_digits (value : Nat) : DigitRun (bytesOfChars (Decimal.digits value)) := by
  fun_induction Decimal.digits value with
  | case1 value small =>
      rw [bytesOfChars_digitChar]
      refine ⟨List.cons_ne_nil _ _, fun byte member => ?_⟩
      rw [List.mem_singleton.mp member]
      exact (isDigitByte_digitChar value).1
  | case2 value large ih =>
      rw [bytesOfChars_append, bytesOfChars_digitChar]
      refine ⟨List.append_ne_nil_of_right_ne_nil _ (List.cons_ne_nil _ _), fun byte member => ?_⟩
      rcases List.mem_append.mp member with high | low
      · exact ih.digits byte high
      · rw [List.mem_singleton.mp low]
        exact (isDigitByte_digitChar value).1

theorem ofDigitBytes_digits (value : Nat) :
    ofDigitBytes (bytesOfChars (Decimal.digits value)) = value := by
  fun_induction Decimal.digits value with
  | case1 value small =>
      have digit := (isDigitByte_digitChar value).2.2
      rw [bytesOfChars_digitChar]
      simp only [ofDigitBytes, List.foldl_cons, List.foldl_nil, digit]
      omega
  | case2 value large ih =>
      have digit := (isDigitByte_digitChar value).2.2
      rw [bytesOfChars_append, bytesOfChars_digitChar, ofDigitBytes_concat, ih, digit]
      omega

/-- Only nought is printed with a zero in front. -/
theorem head_digits {value : Nat} (positive : value ≠ 0) :
    (bytesOfChars (Decimal.digits value)).head? ≠ some 0x30 := by
  fun_induction Decimal.digits value with
  | case1 value small =>
      have digit := (isDigitByte_digitChar value).2.2
      rw [bytesOfChars_digitChar]
      intro head
      rw [Option.some.inj head] at digit
      have : (0x30 : UInt8).toNat = 48 := rfl
      omega
  | case2 value large ih =>
      have high := ih (by omega)
      obtain ⟨byte, tail, same, _⟩ := (digitRun_digits (value / 10)).head
      rw [bytesOfChars_append, same]
      rwa [same] at high

theorem wholeRun_digits (value : Nat) : WholeRun (bytesOfChars (Decimal.digits value)) := by
  refine ⟨digitRun_digits value, fun ⟨long, head⟩ => ?_⟩
  by_cases zero : value = 0
  · have alone : Decimal.digits value = [Decimal.digitChar value] := by
      rw [Decimal.digits, if_pos (by omega)]
    rw [alone, bytesOfChars_digitChar] at long
    exact absurd long (Nat.lt_irrefl 1)
  · exact head_digits zero head

def isWord (value : Int) : Bool :=
  Decimal.Range.signed64.holds value || Decimal.Range.unsigned64.holds value

theorem isWord_iff {value : Int} :
    isWord value = true ↔ -9223372036854775808 ≤ value ∧ value ≤ 18446744073709551615 := by
  rw [isWord, Bool.or_eq_true, Decimal.Range.holds_iff, Decimal.Range.holds_iff]
  simp only [Decimal.Range.signed64, Decimal.Range.unsigned64]
  omega

theorem numeralSpelling_signedDigits (value : Int) :
    NumeralSpelling (bytesOfChars (Decimal.signedDigits value))
      ⟨value < 0, bytesOfChars (Decimal.digits value.natAbs), none, none⟩ := by
  refine ⟨wholeRun_digits _, [], [], .absent, .absent, ?_⟩
  unfold Decimal.signedDigits
  split
  · rename_i below
    simp only [below, decide_true, if_true, List.append_nil]
    rfl
  · rename_i above
    simp only [above, decide_false, Bool.false_eq_true, if_false, List.append_nil]
    rfl

theorem number?_signedDigits {value : Int} (word : isWord value = true) :
    Numeral.number? ⟨value < 0, bytesOfChars (Decimal.digits value.natAbs), none, none⟩ =
      some (.integer value) := by
  obtain ⟨low, high⟩ := isWord_iff.mp word
  have signed : Nat.pow 2 63 = 9223372036854775808 := rfl
  have unsigned : Nat.pow 2 64 = 18446744073709551616 := rfl
  simp only [Numeral.number?, ofDigitBytes_digits, signed, unsigned]
  by_cases below : value < 0
  · have fits : 0 < value.natAbs ∧ value.natAbs ≤ 9223372036854775808 := by omega
    simp only [below, decide_true, if_true, if_pos fits]
    congr 2
    omega
  · have fits : value.natAbs < 18446744073709551616 := by omega
    simp only [below, decide_false, Bool.false_eq_true, if_false, if_pos fits]
    congr 2
    omega

end ServerManagement.Json
