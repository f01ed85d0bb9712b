import ServerManagement.Proofs.Decimal.SignedReading
import ServerManagement.Proofs.Server.PlainRecords

/-!
What the values of game rules say. A rule has a truth value or a whole number, as its type tells; a
rule that was made for one has it, also after it has been written and read.
-/

set_option autoImplicit false

namespace ServerManagement.GameRule

open ServerManagement.Json
open Decimal (Range SignedText)

variable {rule : GameRule} {key text : String} {truth : Bool} {number : Int64}

/-! ## Truth values -/

theorem asBool_eq_ok_iff :
    rule.asBool = .ok truth ↔ rule.type = .boolean ∧ (rule.value == "true") = truth := by
  unfold asBool
  split
  · rename_i typed
    simp [typed]
  · rename_i other
    simp [other]

theorem asBool_boolean (key : String) (truth : Bool) : (boolean key truth).asBool = .ok truth := by
  cases truth <;> exact asBool_eq_ok_iff.mpr ⟨rfl, rfl⟩

/-! ## Whole numbers -/

theorem holds_toInt (number : Int64) : Range.signed64.holds number.toInt = true :=
  Decimal.Range.holds_iff.mpr ⟨number.minValue_le_toInt, number.toInt_le⟩

theorem readSigned_eq_ok_iff {row : List Char} {value : Int} :
    Decimal.readSigned .signed64 row = .ok value ↔
      SignedText row value ∧ Range.signed64.holds value = true :=
  Decimal.readSigned_eq_ok_iff_signed (by decide) (by decide)

theorem toInt_ofInt {value : Int} (holds : Range.signed64.holds value = true) :
    (Int64.ofInt value).toInt = value := by
  obtain ⟨low, high⟩ := Decimal.Range.holds_iff.mp holds
  exact Int64.toInt_ofInt_of_le low (Int.lt_add_one_of_le high)

theorem asInteger_eq_ok_iff :
    rule.asInteger = .ok number ↔
      rule.type = .integer ∧ SignedText rule.value.toList number.toInt := by
  unfold asInteger
  split
  · rename_i typed
    constructor
    · intro found
      split at found
      · rename_i value read
        obtain ⟨spelled, inside⟩ := readSigned_eq_ok_iff.mp read
        obtain rfl := Except.ok.inj found
        exact ⟨typed, (toInt_ofInt inside).symm ▸ spelled⟩
      · cases found
    · intro ⟨_, spelled⟩
      rw [readSigned_eq_ok_iff.mpr ⟨spelled, holds_toInt number⟩]
      simp only [Int64.ofInt_toInt]
  · rename_i other
    simp [other]

theorem asInteger_integer (key : String) (number : Int64) :
    (integer key number).asInteger = .ok number := by
  refine asInteger_eq_ok_iff.mpr ⟨rfl, ?_⟩
  have spelled := Decimal.signedText_signedDigits number.toInt
  rwa [integer, String.toList_ofList]

theorem exists_asInteger_iff :
    (∃ number, rule.asInteger = .ok number) ↔
      rule.type = .integer ∧ ∃ whole, SignedText rule.value.toList whole ∧
        Int64.minValue.toInt ≤ whole ∧ whole ≤ Int64.maxValue.toInt := by
  constructor
  · intro ⟨number, found⟩
    obtain ⟨typed, spelled⟩ := asInteger_eq_ok_iff.mp found
    exact ⟨typed, _, spelled, number.minValue_le_toInt, number.toInt_le⟩
  · intro ⟨typed, whole, spelled, low, high⟩
    have inside : Range.signed64.holds whole = true := Decimal.Range.holds_iff.mpr ⟨low, high⟩
    rw [← toInt_ofInt inside] at spelled
    exact ⟨Int64.ofInt whole, asInteger_eq_ok_iff.mpr ⟨typed, spelled⟩⟩

/-! ## Rules on the wire -/

theorem parse_of_mem_texts (typed : rule.type.IsCanonical) (member : text ∈ record.texts rule) :
    record.decoder.parse (bytesOf text) = .ok rule :=
  RecordType.parse_of_mem_texts .gameRule typed (writesPlain_gameRule 0) (by decide) member

/-- No rule has both a truth value and a whole number, and none without its type has either. A rule
made for a whole number or a truth value has that value and is read back as it was from what is
written for it. A rule has a whole number exactly when it is of that type and its value is an
optional sign and one or more digits that denote a number of sixty-four bits, which it then is. -/
theorem values_by_type :
    (∀ rule : GameRule,
      ¬((∃ truth, rule.asBool = .ok truth) ∧ ∃ number, rule.asInteger = .ok number) ∧
      (¬∃ truth, rule.untyped.asBool = .ok truth) ∧
      ¬∃ number, rule.untyped.asInteger = .ok number) ∧
    (∀ key (number : Int64), (integer key number).asInteger = .ok number ∧
      ∀ text ∈ record.texts (integer key number),
        record.decoder.parse (bytesOf text) = .ok (integer key number)) ∧
    (∀ key truth, (boolean key truth).asBool = .ok truth ∧
      ∀ text ∈ record.texts (boolean key truth),
        record.decoder.parse (bytesOf text) = .ok (boolean key truth)) ∧
    ∀ rule : GameRule,
      ((∃ number, rule.asInteger = .ok number) ↔ rule.type = .integer ∧
        ∃ whole, SignedText rule.value.toList whole ∧
          Int64.minValue.toInt ≤ whole ∧ whole ≤ Int64.maxValue.toInt) ∧
      ∀ number, rule.asInteger = .ok number ↔
        rule.type = .integer ∧ SignedText rule.value.toList number.toInt := by
  refine ⟨fun rule => ⟨?_, ?_, ?_⟩, fun key number => ⟨asInteger_integer key number, ?_⟩,
    fun key truth => ⟨asBool_boolean key truth, ?_⟩,
    fun rule => ⟨exists_asInteger_iff, fun number => asInteger_eq_ok_iff⟩⟩
  · intro ⟨⟨truth, yes⟩, number, found⟩
    have one := (asBool_eq_ok_iff.mp yes).1
    rw [(asInteger_eq_ok_iff.mp found).1] at one
    cases one
  · intro ⟨truth, yes⟩
    cases (asBool_eq_ok_iff.mp yes).1
  · intro ⟨number, found⟩
    cases (asInteger_eq_ok_iff.mp found).1
  · exact fun text => parse_of_mem_texts trivial
  · exact fun text => parse_of_mem_texts trivial

/-- The least whole number, in a text of its rule. -/
theorem values_by_type_of_least :
    let rule := integer "randomTickSpeed" Int64.minValue
    let text :=
      r#"{"type":"integer","value":"-9223372036854775808","key":"randomTickSpeed"}"#
    rule.value = "-9223372036854775808" ∧ text ∈ record.texts rule ∧
      record.decoder.parse (bytesOf text) = .ok rule ∧ rule.asInteger = .ok Int64.minValue := by
  intro rule text
  have written : text ∈ record.texts rule := by decide +kernel
  have made := values_by_type.2.1 "randomTickSpeed" Int64.minValue
  exact ⟨by decide +kernel, written, made.2 text written, made.1⟩

end ServerManagement.GameRule
