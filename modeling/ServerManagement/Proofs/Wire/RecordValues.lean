import Mathlib.Data.List.Pairwise
import ServerManagement.Proofs.Json.WrittenValues
import ServerManagement.Wire.Record

/-!
Records as they are read from values: the order of an object's members does not matter when fields
change different parts of a record, and what a record writes is read back when each field reads what
it writes.
-/

set_option autoImplicit false

namespace ServerManagement.Wire

open ServerManagement.Json

variable {R : Type}

/-! ## Parts of values -/

theorem Decoder.ofValue_map {α β : Type} (decoder : Decoder α) (change : α → β) (value : Value) :
    (decoder.map change).ofValue value = (decoder.ofValue value).map change := by
  simp only [Decoder.map]
  cases decoder.ofValue value <;> rfl

/-- What a mapped decoder gives is the image of what the decoder gives. -/
theorem Decoder.ofValue_map_eq_ok {α β : Type} {decoder : Decoder α} {change : α → β}
    {value : Value} {result : β} :
    (decoder.map change).ofValue value = .ok result ↔
      ∃ before, decoder.ofValue value = .ok before ∧ change before = result := by
  rw [Decoder.ofValue_map]
  exact map_eq_ok

theorem ofValue_option_of_present {α : Type} {decoder : Decoder α} {value : Value}
    (present : value ≠ .null) :
    decoder.option.ofValue value = (decoder.ofValue value).map some := by
  cases value with
  | null => exact absurd rfl present
  | bool value | number value | text value | array items | object members =>
      simp only [Decoder.option]
      split <;> simp_all [Except.map]

theorem ofItems_eq_nil_iff {α : Type} {decoder : Decoder α} {values : List Value} :
    ofItems decoder values = .ok [] ↔ values = [] := by
  cases values with
  | nil => simp [ofItems]
  | cons value values =>
      simp only [ofItems]
      split
      · simp
      · split <;> simp

theorem ofItems_eq_cons_iff {α : Type} {decoder : Decoder α} {values : List Value} {result : α}
    {results : List α} :
    ofItems decoder values = .ok (result :: results) ↔
      ∃ value others, values = value :: others ∧ decoder.ofValue value = .ok result ∧
        ofItems decoder others = .ok results := by
  constructor
  · intro known
    cases values with
    | nil => cases known
    | cons value values =>
        simp only [ofItems] at known
        split at known
        · cases known
        rename_i head
        split at known
        · cases known
        rename_i rest
        obtain ⟨rfl, rfl⟩ := List.cons.inj (Except.ok.inj known)
        exact ⟨value, values, rfl, head, rest⟩
  · rintro ⟨value, others, rfl, head, rest⟩
    simp only [ofItems, head, rest]

/-! ## Fields that change different parts -/

def Field.Commutes (left right : Field R) : Prop :=
  ∀ ⦃one two : Value⦄ ⦃change other : R → R⦄, left.decoder.ofValue one = .ok change →
    right.decoder.ofValue two = .ok other → ∀ state, change (other state) = other (change state)

theorem Field.Commutes.of_puts {α β : Type} {nameOne nameTwo : String}
    {presenceOne presenceTwo : Presence} {one : Decoder α} {two : Decoder β} {put : α → R → R}
    {other : β → R → R} {writeOne writeTwo : R → Option Value}
    (apart : ∀ first second state, put first (other second state) = other second (put first state)) :
    Field.Commutes ⟨nameOne, presenceOne, one.map put, writeOne⟩
      ⟨nameTwo, presenceTwo, two.map other, writeTwo⟩ := by
  intro valueOne valueTwo change changeTwo readOne readTwo state
  obtain ⟨first, _, rfl⟩ := Decoder.ofValue_map_eq_ok.mp readOne
  obtain ⟨second, _, rfl⟩ := Decoder.ofValue_map_eq_ok.mp readTwo
  exact apart first second state

instance : Std.Symm (Field.Commutes (R := R)) where
  symm _ _ commutes _ _ _ _ readOne readTwo state := (commutes readTwo readOne state).symm

namespace Record

variable {record : Record R} {members others : Members} {state after : R}

structure IsIndependent (record : Record R) : Prop where
  names : (record.fields.map Field.name).Nodup
  changes : record.fields.Pairwise Field.Commutes

theorem name_of_field? {key : String} {field : Field R} (known : record.field? key = some field) :
    field.name = key := by
  have same := List.find?_some known
  exact eq_of_beq same

theorem mem_of_field? {key : String} {field : Field R} (known : record.field? key = some field) :
    field ∈ record.fields :=
  List.mem_of_find?_eq_some known

theorem IsIndependent.commutes (independent : record.IsIndependent) {one two : String}
    {left right : Field R} (differ : one ≠ two) (isLeft : record.field? one = some left)
    (isRight : record.field? two = some right) : left.Commutes right := by
  refine independent.changes.forall (mem_of_field? isLeft) (mem_of_field? isRight) ?_
  rintro rfl
  exact differ ((name_of_field? isLeft).symm.trans (name_of_field? isRight))

/-! ## Members in any order -/

/-- A member is unknown and skipped, or known and makes its change. -/
theorem ofMembers_cons_eq_ok_iff {member : String × Value} :
    ofMembers record (member :: members) state = .ok after ↔
      (record.field? member.1 = none ∧ ofMembers record members state = .ok after) ∨
        ∃ field change, record.field? member.1 = some field ∧
          field.decoder.ofValue member.2 = .ok change ∧
          ofMembers record members (change state) = .ok after := by
  obtain ⟨key, value⟩ := member
  cases known : record.field? key with
  | none => simp [ofMembers, known]
  | some field =>
      cases found : field.decoder.ofValue value with
      | error cause => simp [ofMembers, known, found]
      | ok change => simp [ofMembers, known, found]

theorem ofMembers_swap (independent : record.IsIndependent) {left right : String × Value}
    (differ : left.1 ≠ right.1)
    (read : ofMembers record (left :: right :: members) state = .ok after) :
    ofMembers record (right :: left :: members) state = .ok after := by
  rcases ofMembers_cons_eq_ok_iff.mp read with
    ⟨unknownLeft, read⟩ | ⟨field, change, knownLeft, readLeft, read⟩
  · rcases ofMembers_cons_eq_ok_iff.mp read with
      ⟨unknownRight, read⟩ | ⟨other, changeRight, knownRight, readRight, read⟩
    · exact ofMembers_cons_eq_ok_iff.mpr
        (.inl ⟨unknownRight, ofMembers_cons_eq_ok_iff.mpr (.inl ⟨unknownLeft, read⟩)⟩)
    · exact ofMembers_cons_eq_ok_iff.mpr (.inr ⟨other, changeRight, knownRight, readRight,
        ofMembers_cons_eq_ok_iff.mpr (.inl ⟨unknownLeft, read⟩)⟩)
  · rcases ofMembers_cons_eq_ok_iff.mp read with
      ⟨unknownRight, read⟩ | ⟨other, changeRight, knownRight, readRight, read⟩
    · exact ofMembers_cons_eq_ok_iff.mpr (.inl ⟨unknownRight,
        ofMembers_cons_eq_ok_iff.mpr (.inr ⟨field, change, knownLeft, readLeft, read⟩)⟩)
    · have commute := independent.commutes differ knownLeft knownRight readLeft readRight state
      exact ofMembers_cons_eq_ok_iff.mpr (.inr ⟨other, changeRight, knownRight, readRight,
        ofMembers_cons_eq_ok_iff.mpr (.inr ⟨field, change, knownLeft, readLeft,
          commute ▸ read⟩)⟩)

theorem ofMembers_perm (independent : record.IsIndependent) (moved : members.Perm others)
    (distinct : (members.map Prod.fst).Nodup)
    (read : ofMembers record members state = .ok after) :
    ofMembers record others state = .ok after := by
  induction moved generalizing state with
  | nil => exact read
  | cons member _ ih =>
      have distinct := (List.nodup_cons.mp distinct).2
      rcases ofMembers_cons_eq_ok_iff.mp read with ⟨unknown, read⟩ | ⟨field, change, known, found, read⟩
      · exact ofMembers_cons_eq_ok_iff.mpr (.inl ⟨unknown, ih distinct read⟩)
      · exact ofMembers_cons_eq_ok_iff.mpr (.inr ⟨field, change, known, found, ih distinct read⟩)
  | swap right left members =>
      have differ : left.1 ≠ right.1 := by
        intro same
        simp [same] at distinct
      exact ofMembers_swap independent differ read
  | trans first _ firstIH secondIH =>
      exact secondIH ((first.map Prod.fst).nodup_iff.mp distinct) (firstIH distinct read)

/-! ## Complete objects -/

theorem complete_eq_ok_iff {seen : List String} {fields : List (Field R)} :
    complete seen fields = .ok () ↔
      ∀ field ∈ fields, field.presence = .required → field.name ∈ seen := by
  induction fields with
  | nil => simp [complete]
  | cons field fields ih =>
      rw [complete]
      split
      · rename_i missing
        simp [missing]
      · rename_i present
        rw [ih, List.forall_mem_cons]
        have head : field.presence = .required → field.name ∈ seen := fun required =>
          Decidable.not_not.mp fun absent => present ⟨required, absent⟩
        exact ⟨fun tail => ⟨head, tail⟩, And.right⟩

theorem ofValue_object_eq_ok_iff :
    record.ofValue (.object members) = .ok after ↔
      ofMembers record members record.blank = .ok after ∧
        complete (members.map Prod.fst) record.fields = .ok () := by
  simp only [ofValue]
  cases ofMembers record members record.blank with
  | error cause => simp
  | ok state =>
      cases complete (members.map Prod.fst) record.fields with
      | error cause => simp
      | ok done => simp

theorem ofValue_object_perm (independent : record.IsIndependent) (moved : members.Perm others)
    (distinct : (members.map Prod.fst).Nodup)
    (read : record.ofValue (.object members) = .ok after) :
    record.ofValue (.object others) = .ok after := by
  obtain ⟨taken, whole⟩ := ofValue_object_eq_ok_iff.mp read
  refine ofValue_object_eq_ok_iff.mpr ⟨ofMembers_perm independent moved distinct taken, ?_⟩
  rw [complete_eq_ok_iff] at whole ⊢
  exact fun field member required =>
    (moved.map Prod.fst).mem_iff.mp (whole field member required)

/-! ## What stays true while a record is read -/

def FieldsKeep (holds : R → Prop) (fields : List (Field R)) : Prop :=
  ∀ field ∈ fields, ∀ value change, field.decoder.ofValue value = .ok change →
    ∀ state, holds state → holds (change state)

theorem FieldsKeep.nil {holds : R → Prop} : FieldsKeep holds [] := fun _ member => nomatch member

theorem FieldsKeep.cons {α : Type} {holds : R → Prop} {name : String} {presence : Presence}
    {decoder : Decoder α} {put : α → R → R} {write : R → Option Value} {fields : List (Field R)}
    (head : ∀ value part, decoder.ofValue value = .ok part →
      ∀ state, holds state → holds (put part state)) (tail : FieldsKeep holds fields) :
    FieldsKeep holds (⟨name, presence, decoder.map put, write⟩ :: fields) := by
  refine List.forall_mem_cons.mpr ⟨fun value change read => ?_, tail⟩
  obtain ⟨part, found, rfl⟩ := Decoder.ofValue_map_eq_ok.mp read
  exact head value part found

/-- What the changes of all members keep is true after them if it was true before. -/
theorem ofMembers_keeps {holds : R → Prop}
    (kept : ∀ member ∈ members, ∀ field, record.field? member.1 = some field →
      ∀ value change, field.decoder.ofValue value = .ok change →
        ∀ state, holds state → holds (change state))
    (before : holds state) (read : ofMembers record members state = .ok after) : holds after := by
  induction members generalizing state with
  | nil => exact Except.ok.inj read ▸ before
  | cons member members ih =>
      obtain ⟨head, tail⟩ := List.forall_mem_cons.mp kept
      rcases ofMembers_cons_eq_ok_iff.mp read with ⟨_, read⟩ | ⟨field, change, known, found, read⟩
      · exact ih tail before read
      · exact ih tail (head field known _ _ found _ before) read

/-- What is true of the blank record and is kept by all changes is true of whatever is read. -/
theorem ofValue_invariant {holds : R → Prop} (start : holds record.blank)
    (kept : FieldsKeep holds record.fields) {value : Value}
    (read : record.ofValue value = .ok after) : holds after := by
  have fromPositions {total index : Nat} {fields : List (Field R)} {items : List Value} {state : R}
      (known : ∀ field ∈ fields, field ∈ record.fields) (before : holds state)
      (read : ofPositions record total index fields items state = .ok after) : holds after := by
    induction fields generalizing index items state with
    | nil =>
        cases items with
        | nil => exact Except.ok.inj read ▸ before
        | cons item items => cases read
    | cons field fields ih =>
        cases items with
        | nil =>
            simp only [ofPositions] at read
            split at read
            · cases read
            · exact Except.ok.inj read ▸ before
        | cons item items =>
            simp only [ofPositions] at read
            split at read
            · cases read
            · rename_i change found
              obtain ⟨head, tail⟩ := List.forall_mem_cons.mp known
              exact ih tail (kept field head _ _ found _ before) read
  cases value with
  | array items => exact fromPositions (fun _ member => member) start read
  | object members =>
      refine ofMembers_keeps (fun member _ field known => ?_) start
        (ofValue_object_eq_ok_iff.mp read).1
      exact kept field (mem_of_field? known)
  | null | bool | number | text => cases read

/-! ## What is written is read back -/

inductive Restores (goal : R) : List (Field R) → R → Prop
  | done : Restores goal [] goal
  | written {field : Field R} {fields : List (Field R)} {state : R} {value : Value} {change : R → R}
      (wrote : field.write goal = some value) (read : field.decoder.ofValue value = .ok change)
      (rest : Restores goal fields (change state)) : Restores goal (field :: fields) state
  | omitted {field : Field R} {fields : List (Field R)} {state : R}
      (wrote : field.write goal = none) (dispensable : field.presence ≠ .required)
      (rest : Restores goal fields state) : Restores goal (field :: fields) state

namespace Restores

variable {α : Type} {goal state : R} {fields : List (Field R)} {name : String} {codec : Codec α}

theorem required {get : R → α} {put : α → R → R}
    (law : codec.ofValue (codec.toValue (get goal)) = .ok (get goal))
    (rest : Restores goal fields (put (get goal) state)) :
    Restores goal (.required name codec get put :: fields) state :=
  .written rfl (Decoder.ofValue_map_eq_ok.mpr ⟨_, law, rfl⟩) rest

theorem defaulted {get : R → α} {put : α → R → R}
    (law : codec.ofValue (codec.toValue (get goal)) = .ok (get goal))
    (rest : Restores goal fields (put (get goal) state)) :
    Restores goal (.defaulted name codec get put :: fields) state :=
  .written rfl (Decoder.ofValue_map_eq_ok.mpr ⟨_, law, rfl⟩) rest

theorem optional {get : R → Option α} {put : Option α → R → R} {presence : Presence}
    (law : ∀ value, get goal = some value →
      codec.toValue value ≠ .null ∧ codec.ofValue (codec.toValue value) = .ok value)
    (dispensable : presence ≠ .required) (blank : put none state = state)
    (rest : Restores goal fields (put (get goal) state)) :
    Restores goal (.optional name codec get put presence :: fields) state := by
  cases found : get goal with
  | none =>
      refine .omitted ?_ dispensable ?_
      · simp only [Field.optional, found, Option.map_none]
      · rwa [found, blank] at rest
  | some value =>
      obtain ⟨present, read⟩ := law value found
      have inside := (ofValue_option_of_present present).trans (congrArg (Except.map some) read)
      refine .written ?_ (Decoder.ofValue_map_eq_ok.mpr ⟨_, inside, rfl⟩) ?_
      · simp only [Field.optional, found, Option.map_some]
      · rwa [found] at rest

end Restores

theorem field?_of_mem (names : (record.fields.map Field.name).Nodup) {field : Field R}
    (member : field ∈ record.fields) : record.field? field.name = some field := by
  unfold field?
  generalize record.fields = fields at names member ⊢
  induction fields with
  | nil => cases member
  | cons other fields ih =>
      obtain ⟨fresh, names⟩ := List.nodup_cons.mp names
      rw [List.find?_cons]
      rcases List.mem_cons.mp member with rfl | member
      · simp
      · have differs : (other.name == field.name) = false := by
          rw [beq_eq_false_iff_ne]
          exact fun same => fresh (same ▸ List.mem_map_of_mem member)
        rw [differs]
        exact ih names member

def written (fields : List (Field R)) (goal : R) : Members :=
  fields.filterMap fun field => (field.write goal).map (field.name, ·)

theorem written_cons_some {field : Field R} {fields : List (Field R)} {goal : R} {value : Value}
    (wrote : field.write goal = some value) :
    written (field :: fields) goal = (field.name, value) :: written fields goal := by
  simp [written, wrote]

theorem written_cons_none {field : Field R} {fields : List (Field R)} {goal : R}
    (wrote : field.write goal = none) : written (field :: fields) goal = written fields goal := by
  simp [written, wrote]

theorem keys_written_sublist (fields : List (Field R)) (goal : R) :
    ((written fields goal).map Prod.fst).Sublist (fields.map Field.name) := by
  induction fields with
  | nil => exact .slnil
  | cons field fields ih =>
      cases wrote : field.write goal with
      | none =>
          rw [written_cons_none wrote]
          exact ih.cons _
      | some value =>
          rw [written_cons_some wrote]
          exact ih.cons_cons _

theorem nodup_keys_members (names : (record.fields.map Field.name).Nodup) (goal : R) :
    ((record.members goal).map Prod.fst).Nodup :=
  names.sublist (keys_written_sublist record.fields goal)

theorem ofMembers_written {fields : List (Field R)} {goal : R}
    (known : ∀ field ∈ fields, record.field? field.name = some field)
    (restores : Restores goal fields state) :
    ofMembers record (written fields goal) state = .ok goal := by
  induction restores with
  | done => rfl
  | written wrote read _ ih =>
      obtain ⟨head, tail⟩ := List.forall_mem_cons.mp known
      rw [written_cons_some wrote]
      exact ofMembers_cons_eq_ok_iff.mpr (.inr ⟨_, _, head, read, ih tail⟩)
  | omitted wrote _ _ ih =>
      rw [written_cons_none wrote]
      exact ih (List.forall_mem_cons.mp known).2

theorem complete_written {fields : List (Field R)} {goal : R}
    (restores : Restores goal fields state) :
    complete ((written fields goal).map Prod.fst) fields = .ok () := by
  rw [complete_eq_ok_iff]
  induction restores with
  | done => exact fun _ member => nomatch member
  | written wrote _ _ ih =>
      rw [written_cons_some wrote]
      refine List.forall_mem_cons.mpr ⟨fun _ => List.mem_cons_self .., ?_⟩
      exact fun field member required => List.mem_cons_of_mem _ (ih field member required)
  | omitted wrote dispensable _ ih =>
      rw [written_cons_none wrote]
      exact List.forall_mem_cons.mpr ⟨fun required => absurd required dispensable, ih⟩

theorem ofValue_members (names : (record.fields.map Field.name).Nodup) {goal : R}
    (restores : Restores goal record.fields record.blank) :
    record.ofValue (.object (record.members goal)) = .ok goal :=
  ofValue_object_eq_ok_iff.mpr ⟨ofMembers_written (fun _ member => field?_of_mem names member)
    restores, complete_written restores⟩

theorem ofValue_toValue (independent : record.IsIndependent) {goal : R}
    (restores : Restores goal record.fields record.blank) :
    record.ofValue (record.codec.toValue goal) = .ok goal := by
  have distinct := nodup_keys_members independent.names goal
  have moved := (Members.insertAll_nil_perm distinct).symm
  exact ofValue_object_perm independent moved distinct (ofValue_members independent.names restores)

end Record

end ServerManagement.Wire
