import ServerManagement.Proofs.Json.Numerals
import ServerManagement.Proofs.Wire.RecordValues

/-!
Codecs read back what they write.
-/

set_option autoImplicit false

namespace ServerManagement.Wire

open ServerManagement.Json
open ServerManagement.Decimal (Range)

def Codec.ReadsBack {α : Type} (codec : Codec α) : Prop :=
  ∀ value, codec.ofValue (codec.toValue value) = .ok value

theorem readsBack_value : Codec.value.ReadsBack := fun _ => rfl

theorem readsBack_bool : Codec.bool.ReadsBack := fun _ => rfl

theorem readsBack_text : Codec.text.ReadsBack := fun _ => rfl

/-- Whole numbers are read back when all of them are in the range. -/
theorem ofValue_integer {α : Type} {wanted : String} {range : Range} {ofInt : Int → α}
    {toInt : α → Int} (inside : ∀ value, range.least ≤ toInt value ∧ toInt value ≤ range.greatest)
    (inverse : ∀ value, ofInt (toInt value) = value) (value : α) :
    ((Decoder.integer wanted range).map ofInt).ofValue (.ofInt (toInt value)) = .ok value := by
  refine Decoder.ofValue_map_eq_ok.mpr ⟨toInt value, ?_, inverse value⟩
  simp only [Decoder.integer, Decoder.scalar, Value.ofInt, Value.sight, scalarOfSight,
    if_pos (Range.holds_iff.mpr (inside value))]

theorem readsBack_int32 : Codec.int32.ReadsBack :=
  ofValue_integer (fun value => ⟨value.le_toInt, Int.le_of_lt_add_one value.toInt_lt⟩)
    Int32.ofInt_toInt

theorem readsBack_uint64 : Codec.uint64.ReadsBack := by
  have inside (value : UInt64) :
      (0 : Int) ≤ value.toNat ∧ (value.toNat : Int) ≤ 18446744073709551615 := by
    have := value.toNat_lt
    omega
  exact ofValue_integer inside fun value => UInt64.ofNat_toNat

/-- Written items are read as what each of them is read as. -/
theorem ofItems_map {α β : Type} {codec : Codec α} {decoder : Decoder β} {change : α → β}
    (read : ∀ value, decoder.ofValue (codec.toValue value) = .ok (change value)) (values : List α) :
    ofItems decoder (values.map codec.toValue) = .ok (values.map change) := by
  induction values with
  | nil => rfl
  | cons value values ih => simp only [List.map_cons, ofItems, read value, ih]

theorem Codec.ReadsBack.list {α : Type} {codec : Codec α} (readsBack : codec.ReadsBack) :
    (Codec.list codec).ReadsBack :=
  fun values => (ofItems_map readsBack values).trans (congrArg Except.ok (List.map_id' values))

theorem Codec.ReadsBack.listOrNull {α : Type} {codec : Codec α} (readsBack : codec.ReadsBack) :
    (Codec.listOrNull codec).ReadsBack := by
  intro values
  have read : (Codec.list codec).toDecoder.option.ofValue (.array (values.map codec.toValue)) =
      .ok (some values) :=
    (ofValue_option_of_present (by simp)).trans (congrArg (Except.map some) (readsBack.list values))
  exact Decoder.ofValue_map_eq_ok.mpr ⟨_, read, rfl⟩

/-! ## Exact codecs -/

def Codec.IsExact {α : Type} (codec : Codec α) : Prop :=
  ∀ ⦃value : Value⦄ ⦃result : α⦄, codec.ofValue value = .ok result ↔ value = codec.toValue result

theorem isExact_of_readsBack {α : Type} {codec : Codec α} (readsBack : codec.ReadsBack)
    (only : ∀ ⦃value result⦄, codec.ofValue value = .ok result → value = codec.toValue result) :
    codec.IsExact :=
  fun _ _ => ⟨fun known => only known, fun same => same ▸ readsBack _⟩

theorem isExact_value : Codec.value.IsExact :=
  isExact_of_readsBack readsBack_value fun _ _ known => Except.ok.inj known

theorem isExact_text : Codec.text.IsExact := by
  refine isExact_of_readsBack readsBack_text fun value result known => ?_
  cases value with
  | text text => exact congrArg Value.text (Except.ok.inj known)
  | null | bool | number | array | object => cases known

/-- Nothing but a whole number of the range is read as one. -/
theorem eq_ofInt_of_ofValue {α : Type} {wanted : String} {range : Range} {ofInt : Int → α}
    (toInt : α → Int)
    (back : ∀ whole, range.least ≤ whole → whole ≤ range.greatest → toInt (ofInt whole) = whole)
    {value : Value} {result : α}
    (known : ((Decoder.integer wanted range).map ofInt).ofValue value = .ok result) :
    value = .ofInt (toInt result) := by
  obtain ⟨whole, found, rfl⟩ := Decoder.ofValue_map_eq_ok.mp known
  cases value with
  | number number =>
      cases number with
      | integer integer =>
          simp only [Decoder.integer, Decoder.scalar, Value.sight, scalarOfSight] at found
          by_cases inside : range.holds integer = true
          · obtain rfl : integer = whole := by simpa [inside] using found
            obtain ⟨low, high⟩ := Range.holds_iff.mp inside
            rw [back integer low high, Value.ofInt]
          · simp [inside] at found
      | double => cases found
  | null | bool | text | array | object => cases found

theorem isExact_int32 : Codec.int32.IsExact := by
  have back (whole : Int) (low : -2147483648 ≤ whole) (high : whole ≤ 2147483647) :
      (Int32.ofInt whole).toInt = whole :=
    Int32.toInt_ofInt_of_le low (Int.lt_add_one_of_le high)
  exact isExact_of_readsBack readsBack_int32 fun _ _ known => eq_ofInt_of_ofValue Int32.toInt back known

theorem isExact_uint64 : Codec.uint64.IsExact := by
  have back (whole : Int) (low : 0 ≤ whole) (high : whole ≤ 18446744073709551615) :
      ((UInt64.ofNat whole.toNat).toNat : Int) = whole := by
    rw [UInt64.toNat_ofNat_of_lt' (by omega : whole.toNat < 2 ^ 64), Int.toNat_of_nonneg low]
  refine isExact_of_readsBack readsBack_uint64 fun _ result known => ?_
  exact eq_ofInt_of_ofValue (fun value : UInt64 => (value.toNat : Int)) back known

theorem Codec.IsExact.list {α : Type} {codec : Codec α} (isExact : codec.IsExact) :
    (Codec.list codec).IsExact := by
  intro value results
  cases value with
  | array items =>
      change ofItems codec.toDecoder items = .ok results ↔
        Value.array items = .array (results.map codec.toValue)
      rw [Value.array.injEq]
      induction results generalizing items with
      | nil => exact ofItems_eq_nil_iff
      | cons result results ih =>
          rw [ofItems_eq_cons_iff, List.map_cons]
          constructor
          · rintro ⟨value, others, rfl, known, rest⟩
            rw [isExact.mp known, (ih _).mp rest]
          · rintro rfl
            exact ⟨_, _, rfl, isExact.mpr rfl, (ih _).mpr rfl⟩
  | null | bool | number | text | object => exact iff_of_false nofun nofun

theorem Codec.IsExact.option {α : Type} {codec : Codec α} (isExact : codec.IsExact)
    (present : ∀ value, codec.toValue value ≠ .null) : (Codec.option codec).IsExact := by
  intro value result
  by_cases absent : value = .null
  · subst absent
    cases result with
    | none => exact iff_of_true rfl rfl
    | some result => exact iff_of_false nofun (present result).symm
  · change codec.toDecoder.option.ofValue value = _ ↔ _
    rw [ofValue_option_of_present absent, map_eq_ok]
    cases result with
    | none => exact iff_of_false (by simp) absent
    | some result =>
        constructor
        · rintro ⟨inside, known, same⟩
          obtain rfl := Option.some.inj same
          exact isExact.mp known
        · exact fun same => ⟨result, isExact.mpr same, rfl⟩

end ServerManagement.Wire
