import Mathlib.Data.List.DropRight
import ServerManagement.Proofs.Json.ValueReading
import ServerManagement.Proofs.Wire.RecordValues

/-!
Types that hold no records are read from a text through the value that stands there: the typed reader
succeeds exactly when a value can be read and the type can be read from it. Records differ, since
they skip the values of unknown members and refuse repeated ones, but only for objects.
-/

set_option autoImplicit false

namespace ServerManagement.Wire

open ServerManagement.Json

/-! ## Types read through values -/

def Decoder.ReadsThrough {α : Type} (decoder : Decoder α) : Prop :=
  ∀ ⦃budget : Nat⦄ ⦃input rest : Bytes⦄ ⦃result : α⦄,
    (decoder.reader budget).run input = .ok (result, rest) ↔
      ∃ value, (readValue budget).run input = .ok (value, rest) ∧ decoder.ofValue value = .ok result

theorem readsThrough_value : Codec.value.ReadsThrough := by
  intro budget input rest result
  constructor
  · exact fun read => ⟨result, read, rfl⟩
  · rintro ⟨value, read, same⟩
    exact Except.ok.inj same ▸ read

theorem Decoder.ReadsThrough.map {α β : Type} {decoder : Decoder α} (through : decoder.ReadsThrough)
    (change : α → β) : (decoder.map change).ReadsThrough := by
  intro budget input rest result
  constructor
  · intro read
    simp only [Decoder.map, Reader.map] at read
    split at read
    · cases read
    · rename_i found
      obtain ⟨rfl, rfl⟩ := Prod.mk.inj (Except.ok.inj read)
      obtain ⟨value, stands, known⟩ := through.mp found
      exact ⟨value, stands, Decoder.ofValue_map_eq_ok.mpr ⟨_, known, rfl⟩⟩
  · rintro ⟨value, stands, known⟩
    obtain ⟨before, found, rfl⟩ := Decoder.ofValue_map_eq_ok.mp known
    simp only [Decoder.map, Reader.map, through.mpr ⟨value, stands, found⟩]

theorem containerSight?_eq_none {byte : UInt8} : containerSight? byte = none ↔ opened? byte = none := by
  unfold containerSight?
  split <;> simp_all

theorem ofValue_scalar {α : Type} {wanted : String} {accept : Sight → Option (Except Mismatch α)}
    {value : Value} (noList : ¬∃ items, value = .array items)
    (noObject : ¬∃ members, value = .object members) :
    (Decoder.scalar wanted accept).ofValue value = scalarOfSight wanted accept value.sight := by
  cases value with
  | array items => exact absurd ⟨items, rfl⟩ noList
  | object members => exact absurd ⟨members, rfl⟩ noObject
  | null | bool | number | text => rfl

theorem readsThrough_scalar {α : Type} (wanted : String)
    (accept : Sight → Option (Except Mismatch α)) :
    (Decoder.scalar wanted accept).ReadsThrough := by
  intro budget input rest result
  constructor
  · intro read
    change readScalarAs wanted accept input = _ at read
    unfold readScalarAs at read
    split at read
    · cases read
    rename_i byte tail start
    split at read
    · cases read
    rename_i unopened
    split at read
    · cases read
    rename_i value after found
    split at read
    · cases read
    rename_i accepted
    obtain ⟨rfl, rfl⟩ := Prod.mk.inj (Except.ok.inj read)
    obtain ⟨noList, noObject⟩ := not_container_of_readScalar found
    exact ⟨value, ReadFrom.readValue (.scalar (containerSight?_eq_none.mp unopened) found) start,
      (ofValue_scalar noList noObject).trans accepted⟩
  · rintro ⟨value, stands, known⟩
    change readScalarAs wanted accept input = _
    cases start : skipBlanks input with
    | nil => cases (readValue_of_blank start).symm.trans stands
    | cons byte tail =>
        cases readFrom_of_readValue start stands with
        | scalar unopened read =>
            obtain ⟨noList, noObject⟩ := not_container_of_readScalar read
            rw [ofValue_scalar noList noObject] at known
            simp only [readScalarAs, start, containerSight?_eq_none.mpr unopened, read, known]
        | list | object => cases known

theorem readsThrough_text : Codec.text.ReadsThrough := readsThrough_scalar _ _

theorem readsThrough_uint64 : Codec.uint64.ReadsThrough := (readsThrough_scalar _ _).map _

/-! ## Options -/

theorem skipBlanks_of_found {input tail : Bytes} {byte : UInt8}
    (start : skipBlanks input = byte :: tail) : skipBlanks (byte :: tail) = byte :: tail := by
  rw [← start]
  exact List.dropWhile_idempotent isBlankByte input

/-- A value is read from its first byte on. -/
theorem readValue_of_found {budget : Nat} {input tail : Bytes} {byte : UInt8}
    (start : skipBlanks input = byte :: tail) :
    (readValue budget).run (byte :: tail) = (readValue budget).run input := by
  simp only [readValue_run, readValueWith, start, skipBlanks_of_found start]

theorem readScalar_null {tail : Bytes} :
    readScalar (0x6E :: tail) = (readWord [0x75, 0x6C, 0x6C] tail).map (Value.null, ·) := rfl

theorem readFrom_null_iff {budget : Nat} {byte : UInt8} {tail rest : Bytes} :
    ReadFrom budget byte tail .null rest ↔
      byte = 0x6E ∧ readWord [0x75, 0x6C, 0x6C] tail = .ok rest := by
  constructor
  · rintro (⟨unopened, read⟩)
    obtain ⟨used, split, spelling⟩ := scalarSpelling_of_read read
    cases spelling
    obtain ⟨rfl, rfl⟩ := List.cons.inj split
    exact ⟨rfl, readWord_append [0x75, 0x6C, 0x6C] rest⟩
  · rintro ⟨rfl, read⟩
    exact .scalar rfl (by rw [readScalar_null, read]; rfl)

theorem Decoder.ReadsThrough.option {α : Type} {decoder : Decoder α}
    (through : decoder.ReadsThrough) : decoder.option.ReadsThrough := by
  intro budget input rest result
  change readOption (decoder.reader budget) input = _ ↔ _
  unfold readOption
  cases start : skipBlanks input with
  | nil => simp [readValue_of_blank start]
  | cons byte tail =>
      -- The first byte tells a null from all other values.
      by_cases null : byte = 0x6E
      · constructor
        · intro read
          simp only [if_pos null] at read
          split at read
          · cases read
          · rename_i word
            obtain ⟨rfl, rfl⟩ := Prod.mk.inj (Except.ok.inj read)
            exact ⟨.null, (readFrom_null_iff.mpr ⟨null, word⟩).readValue start, rfl⟩
        · rintro ⟨value, stands, known⟩
          cases readFrom_of_readValue start stands with
          | scalar unopened read =>
              subst null
              obtain ⟨after, word, same⟩ := map_eq_ok.mp (readScalar_null ▸ read)
              obtain ⟨rfl, rfl⟩ := Prod.mk.inj same
              obtain rfl := Except.ok.inj known
              simp only [if_true, word]
          | list opened | object opened => cases null.symm.trans opened
      · have present {value : Value} (stands : (readValue budget).run input = .ok (value, rest)) :
            value ≠ .null := by
          rintro rfl
          exact null (readFrom_null_iff.mp (readFrom_of_readValue start stands)).1
        simp only [if_neg null]
        constructor
        · intro read
          split at read
          · cases read
          · rename_i found
            obtain ⟨rfl, rfl⟩ := Prod.mk.inj (Except.ok.inj read)
            obtain ⟨value, stands, known⟩ := through.mp found
            rw [readValue_of_found start] at stands
            refine ⟨value, stands, ?_⟩
            rw [ofValue_option_of_present (present stands), known]
            rfl
        · rintro ⟨value, stands, known⟩
          rw [ofValue_option_of_present (present stands)] at known
          obtain ⟨inside, found, rfl⟩ := map_eq_ok.mp known
          rw [← readValue_of_found start] at stands
          simp only [through.mpr ⟨value, stands, found⟩]

/-! ## Lists -/

/-- The items of a list are read one by one through their values. -/
theorem readItems_eq_ok_iff {α : Type} {decoder : Decoder α} (through : decoder.ReadsThrough)
    {budget : Nat} {first : Bool} {input rest : Bytes} {results : List α} :
    readItems (decoder.reader budget) first input = .ok (results, rest) ↔
      ∃ values, readItems (readValue budget) first input = .ok (values, rest) ∧
        ofItems decoder values = .ok results := by
  induction results generalizing first input with
  | nil => simp [readItems_eq_nil_iff, ofItems_eq_nil_iff]
  | cons result results ih =>
      rw [readItems_eq_cons_iff]
      constructor
      · rintro ⟨start, after, starts, found, more⟩
        obtain ⟨value, stands, known⟩ := through.mp found
        obtain ⟨values, others, knownTail⟩ := ih.mp more
        exact ⟨value :: values, readItems_eq_cons_iff.mpr ⟨start, after, starts, stands, others⟩,
          ofItems_eq_cons_iff.mpr ⟨value, values, rfl, known, knownTail⟩⟩
      · rintro ⟨values, read, known⟩
        obtain ⟨value, others, rfl, known, knownTail⟩ := ofItems_eq_cons_iff.mp known
        obtain ⟨start, after, starts, stands, more⟩ := readItems_eq_cons_iff.mp read
        exact ⟨start, after, starts, through.mpr ⟨value, stands, known⟩,
          ih.mpr ⟨others, more, knownTail⟩⟩

theorem inside?_eq_some {α : Type} {decoder : Decoder α} {budget : Nat} {item : Reader α} :
    decoder.inside? budget = some item ↔
      ∃ left, budget = left + 1 ∧ decoder.reader left = item := by
  cases budget <;> simp [Decoder.inside?]

theorem Decoder.ReadsThrough.list {α : Type} {decoder : Decoder α}
    (through : decoder.ReadsThrough) : decoder.list.ReadsThrough := by
  intro budget input rest results
  change readList (decoder.inside? budget) input = _ ↔ _
  unfold readList
  cases start : skipBlanks input with
  | nil => simp [readValue_of_blank start]
  | cons byte tail =>
      constructor
      · intro read
        dsimp only at read
        split at read
        · rename_i bracket
          split at read
          · cases read
          rename_i item inner
          obtain ⟨left, rfl, rfl⟩ := inside?_eq_some.mp inner
          obtain ⟨items, found, known⟩ := (readItems_eq_ok_iff through).mp read
          exact ⟨.array items, ReadFrom.readValue (.list bracket rfl found) start, known⟩
        · cases read
      · rintro ⟨value, stands, known⟩
        cases readFrom_of_readValue start stands with
        | scalar unopened read =>
            have noList := (not_container_of_readScalar read).1
            cases value with
            | array items => exact absurd ⟨items, rfl⟩ noList
            | null | bool | number | text | object => cases known
        | list opened deeper read =>
            subst opened deeper
            exact (readItems_eq_ok_iff through).mpr ⟨_, read, known⟩
        | object => cases known

/-! ## Records in lists -/

theorem readEnd_eq_ok_iff {input rest : Bytes} :
    Record.readEnd input = .ok rest ↔ skipBlanks input = 0x5D :: rest := by
  constructor
  · intro ends
    unfold Record.readEnd at ends
    split at ends
    · cases ends
    · rename_i byte tail start
      split at ends
      · rename_i closing
        rw [start, closing, Except.ok.inj ends]
      · split at ends <;> cases ends
  · intro start
    simp [Record.readEnd, start]

variable {R : Type}

def FieldsReadThrough (fields : List (Field R)) : Prop :=
  ∀ field ∈ fields, field.decoder.ReadsThrough

theorem FieldsReadThrough.nil : FieldsReadThrough ([] : List (Field R)) :=
  fun _ member => nomatch member

theorem FieldsReadThrough.cons {α : Type} {name : String} {presence : Presence}
    {decoder : Decoder α} {put : α → R → R} {write : R → Option Value} {fields : List (Field R)}
    (head : decoder.ReadsThrough) (tail : FieldsReadThrough fields) :
    FieldsReadThrough (⟨name, presence, decoder.map put, write⟩ :: fields) :=
  List.forall_mem_cons.mpr ⟨head.map put, tail⟩

theorem ofPositions_nil_iff {record : Record R} {total index : Nat} {items : List Value}
    {state after : R} :
    record.ofPositions total index [] items state = .ok after ↔ items = [] ∧ state = after := by
  cases items <;> simp [Record.ofPositions]

theorem ofPositions_end_iff {record : Record R} {total index : Nat} {field : Field R}
    {fields : List (Field R)} {state after : R} :
    record.ofPositions total index (field :: fields) [] state = .ok after ↔
      record.shortBy index (field :: fields) = .ok () ∧ state = after := by
  simp only [Record.ofPositions]
  split <;> simp_all

theorem ofPositions_item_iff {record : Record R} {total index : Nat} {field : Field R}
    {fields : List (Field R)} {item : Value} {items : List Value} {state after : R} :
    record.ofPositions total index (field :: fields) (item :: items) state = .ok after ↔
      ∃ change, field.decoder.ofValue item = .ok change ∧
        record.ofPositions total (index + 1) fields items (change state) = .ok after := by
  simp only [Record.ofPositions]
  split <;> simp_all

/-- A field takes the first item of a list, and the others take the rest. -/
theorem ofPositions_put_iff {α : Type} {record : Record R} {total index : Nat} {name : String}
    {presence : Presence} {decoder : Decoder α} {put : α → R → R} {write : R → Option Value}
    {fields : List (Field R)} {item : Value} {items : List Value} {state after : R} :
    record.ofPositions total index (⟨name, presence, decoder.map put, write⟩ :: fields)
        (item :: items) state = .ok after ↔
      ∃ part, decoder.ofValue item = .ok part ∧
        record.ofPositions total (index + 1) fields items (put part state) = .ok after := by
  rw [ofPositions_item_iff]
  constructor
  · rintro ⟨change, known, rest⟩
    obtain ⟨part, found, rfl⟩ := Decoder.ofValue_map_eq_ok.mp known
    exact ⟨part, found, rest⟩
  · rintro ⟨part, known, rest⟩
    exact ⟨put part, Decoder.ofValue_map_eq_ok.mpr ⟨part, known, rfl⟩, rest⟩

/-- The length of the whole list is only told to those who find it too long. -/
theorem ofPositions_of_total {record : Record R} {total : Nat} (other : Nat) {index : Nat}
    {fields : List (Field R)} {items : List Value} {state after : R}
    (known : record.ofPositions total index fields items state = .ok after) :
    record.ofPositions other index fields items state = .ok after := by
  induction fields generalizing index items state with
  | nil => exact ofPositions_nil_iff.mpr (ofPositions_nil_iff.mp known)
  | cons field fields ih =>
      cases items with
      | nil => exact ofPositions_end_iff.mpr (ofPositions_end_iff.mp known)
      | cons item items =>
          obtain ⟨change, head, rest⟩ := ofPositions_item_iff.mp known
          exact ofPositions_item_iff.mpr ⟨change, head, ih rest⟩

theorem readPositions_eq_ok_iff {record : Record R} {fields : List (Field R)}
    (through : FieldsReadThrough fields) (total : Nat) {budget index : Nat} {state after : R}
    {input rest : Bytes} :
    record.readPositions budget index fields state input = .ok (after, rest) ↔
      ∃ items, readItems (readValue budget) (index == 0) input = .ok (items, rest) ∧
        record.ofPositions total index fields items state = .ok after := by
  induction fields generalizing index state input with
  | nil =>
      simp only [ofPositions_nil_iff]
      constructor
      · intro read
        simp only [Record.readPositions] at read
        split at read
        · cases read
        · rename_i ends
          obtain ⟨rfl, rfl⟩ := Prod.mk.inj (Except.ok.inj read)
          have finished : nextItem (index == 0) input = .ok (.finished _) :=
            nextItem_finished_iff.mpr (readEnd_eq_ok_iff.mp ends)
          exact ⟨[], readItems_eq_nil_iff.mpr finished, rfl, rfl⟩
      · rintro ⟨items, read, rfl, rfl⟩
        have ends := nextItem_finished_iff.mp (readItems_eq_nil_iff.mp read)
        simp only [Record.readPositions, readEnd_eq_ok_iff.mpr ends]
  | cons field fields ih =>
      obtain ⟨throughHead, throughTail⟩ := List.forall_mem_cons.mp through
      constructor
      · intro read
        simp only [Record.readPositions] at read
        split at read
        · cases read
        · rename_i finished
          split at read
          · cases read
          rename_i short
          obtain ⟨rfl, rfl⟩ := Prod.mk.inj (Except.ok.inj read)
          exact ⟨[], readItems_eq_nil_iff.mpr finished, ofPositions_end_iff.mpr ⟨short, rfl⟩⟩
        · rename_i starts
          split at read
          · cases read
          rename_i found
          obtain ⟨value, stands, known⟩ := throughHead.mp found
          obtain ⟨items, more, rest⟩ := (ih throughTail).mp read
          exact ⟨value :: items, readItems_eq_cons_iff.mpr ⟨_, _, starts, stands, more⟩,
            ofPositions_item_iff.mpr ⟨_, known, rest⟩⟩
      · rintro ⟨items, read, known⟩
        cases items with
        | nil =>
            obtain ⟨short, rfl⟩ := ofPositions_end_iff.mp known
            simp only [Record.readPositions, readItems_eq_nil_iff.mp read, short]
        | cons item items =>
            obtain ⟨change, known, others⟩ := ofPositions_item_iff.mp known
            obtain ⟨start, left, starts, stands, more⟩ := readItems_eq_cons_iff.mp read
            simp only [Record.readPositions, starts, throughHead.mpr ⟨item, stands, known⟩]
            exact (ih throughTail).mpr ⟨items, more, others⟩

def OpensObject (text : Bytes) : Prop := (skipBlanks text).head? = some 0x7B

/-- A record is read from a text that is no object exactly when the text is a list of values that
give the fields of the record by position. -/
theorem readRecord_eq_ok_iff {record : Record R} (through : FieldsReadThrough record.fields)
    {budget : Nat} {input rest : Bytes} {state : R} (noObject : ¬OpensObject input) :
    record.readRecord budget input = .ok (state, rest) ↔
      ∃ items, (readValue budget).run input = .ok (.array items, rest) ∧
        record.ofValue (.array items) = .ok state := by
  unfold Record.readRecord
  cases start : skipBlanks input with
  | nil => simp [readValue_of_blank start]
  | cons byte tail =>
      have visible : byte ≠ 0x7B := by
        rintro rfl
        exact noObject (by rw [OpensObject, start, List.head?_cons])
      constructor
      · intro read
        dsimp only at read
        split at read
        · cases read
        · cases read
        · rename_i opened
          obtain ⟨items, found, known⟩ := (readPositions_eq_ok_iff through 0).mp read
          exact ⟨items, ReadFrom.readValue (.list (opened?_eq_list_iff.mp opened) rfl found) start,
            ofPositions_of_total items.length known⟩
        · rename_i opened
          exact absurd (opened?_eq_object_iff.mp opened) visible
      · rintro ⟨items, stands, known⟩
        cases readFrom_of_readValue start stands with
        | scalar unopened read => exact absurd ⟨items, rfl⟩ (not_container_of_readScalar read).1
        | list opened deeper read =>
            subst opened deeper
            exact (readPositions_eq_ok_iff through items.length).mpr ⟨items, read, known⟩

/-! ## Whole texts -/

theorem opensObject_iff {text : Bytes} {value : Value} (read : Value.parse text = .ok value) :
    OpensObject text ↔ ∃ members, value = .object members := by
  obtain ⟨rest, found, _⟩ := Reader.run_of_runAll read
  unfold OpensObject
  cases start : skipBlanks text with
  | nil => cases (readValue_of_blank start).symm.trans found
  | cons byte tail =>
      cases readFrom_of_readValue start found with
      | scalar unopened scalar =>
          refine iff_of_false ?_ (not_container_of_readScalar scalar).2
          intro brace
          obtain rfl := Option.some.inj brace
          cases unopened
      | list opened | object opened =>
          subst opened
          simp

/-- A whole text that is no object is read as a record exactly when it is a list that gives the
fields by position. -/
theorem parse_record_eq_ok_iff {record : Record R} (through : FieldsReadThrough record.fields)
    {text : Bytes} {state : R} (noObject : ¬OpensObject text) :
    record.decoder.parse text = .ok state ↔
      ∃ items, Value.parse text = .ok (.array items) ∧ record.ofValue (.array items) = .ok state := by
  constructor
  · intro read
    obtain ⟨rest, found, blank⟩ := Reader.run_of_runAll read
    obtain ⟨items, stands, known⟩ := (readRecord_eq_ok_iff through noObject).mp found
    exact ⟨items, Reader.runAll_of_run stands blank, known⟩
  · rintro ⟨items, read, known⟩
    obtain ⟨rest, stands, blank⟩ := Reader.run_of_runAll read
    exact Reader.runAll_of_run ((readRecord_eq_ok_iff through noObject).mpr ⟨items, stands, known⟩)
      blank

end ServerManagement.Wire
