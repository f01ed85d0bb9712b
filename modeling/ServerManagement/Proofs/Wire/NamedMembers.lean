import ServerManagement.Proofs.Wire.RecordValues

/-!
Objects as records read them: every field looks its own member up, in the order of the fields.
-/

set_option autoImplicit false

namespace ServerManagement.Json.Members

/-! ## Members by key -/

variable {members others : Members} {key : String} {value : Value}

theorem get?_eq_none_iff : get? key members = none ↔ key ∉ members.map Prod.fst := by
  induction members with
  | nil => simp [get?]
  | cons member members ih =>
      obtain ⟨other, present⟩ := member
      by_cases same : key = other
      · simp [get?, same]
      · rw [get?, if_neg same, ih]
        simp [same]

/-- A member that is found can be put first. -/
theorem perm_of_get? (found : get? key members = some value) :
    ∃ others, members.Perm ((key, value) :: others) := by
  induction members with
  | nil => cases found
  | cons member members ih =>
      obtain ⟨other, present⟩ := member
      by_cases same : key = other
      · simp only [get?, if_pos same, Option.some.injEq] at found
        exact ⟨members, same ▸ found ▸ .refl _⟩
      · simp only [get?, if_neg same] at found
        obtain ⟨others, moved⟩ := ih found
        exact ⟨(other, present) :: others, (moved.cons _).trans (.swap _ _ _)⟩

end ServerManagement.Json.Members

namespace ServerManagement.Wire.Record

open ServerManagement.Json

variable {R : Type} {record : Record R} {field : Field R} {fields : List (Field R)}
  {members others : Members} {state after : R}

/-- The fields take the members of their names one after the other, and so make one record out of
another. A field without a member is passed over unless it is required. -/
inductive Gathers (members : Members) : List (Field R) → R → R → Prop
  | done {state : R} : Gathers members [] state state
  | found {field : Field R} {fields : List (Field R)} {value : Value} {change : R → R}
      {state after : R} (member : members.get? field.name = some value)
      (read : field.decoder.ofValue value = .ok change)
      (rest : Gathers members fields (change state) after) :
      Gathers members (field :: fields) state after
  | missing {field : Field R} {fields : List (Field R)} {state after : R}
      (absent : members.get? field.name = none) (dispensable : field.presence ≠ .required)
      (rest : Gathers members fields state after) : Gathers members (field :: fields) state after

theorem gathers_nil_iff : Gathers members [] state after ↔ state = after := by
  constructor
  · intro gathers
    cases gathers
    rfl
  · rintro rfl
    exact .done

/-- A required field takes its member, and the others go on. -/
theorem gathers_required_iff {α : Type} {name : String} {codec : Codec α} {get : R → α}
    {put : α → R → R} :
    Gathers members (.required name codec get put :: fields) state after ↔
      ∃ value part, members.get? name = some value ∧ codec.ofValue value = .ok part ∧
        Gathers members fields (put part state) after := by
  constructor
  · intro gathers
    cases gathers with
    | found member known rest =>
        obtain ⟨part, read, rfl⟩ := Decoder.ofValue_map_eq_ok.mp known
        exact ⟨_, part, member, read, rest⟩
    | missing _ dispensable _ => exact absurd rfl dispensable
  · rintro ⟨value, part, member, read, rest⟩
    exact .found member (Decoder.ofValue_map_eq_ok.mpr ⟨part, read, rfl⟩) rest

/-- A field that may be absent takes its member, or null when it has none. -/
theorem gathers_optional_iff {α : Type} {name : String} {codec : Codec α} {get : R → Option α}
    {put : Option α → R → R} {presence : Presence} (dispensable : presence ≠ .required)
    (blank : put none state = state) :
    Gathers members (.optional name codec get put presence :: fields) state after ↔
      ∃ part, (Codec.option codec).ofValue ((members.get? name).getD .null) = .ok part ∧
        Gathers members fields (put part state) after := by
  constructor
  · intro gathers
    cases gathers with
    | found member known rest =>
        obtain ⟨part, read, rfl⟩ := Decoder.ofValue_map_eq_ok.mp known
        refine ⟨part, ?_, rest⟩
        rw [show members.get? name = _ from member]
        exact read
    | missing absent _ rest =>
        rw [show members.get? name = _ from absent]
        exact ⟨none, rfl, blank.symm ▸ rest⟩
  · rintro ⟨part, read, rest⟩
    cases found : members.get? name with
    | none =>
        rw [found] at read
        obtain rfl : none = part := Except.ok.inj read
        exact .missing found dispensable (blank ▸ rest)
    | some value =>
        rw [found] at read
        exact .found found (Decoder.ofValue_map_eq_ok.mpr ⟨part, read, rfl⟩) rest

theorem ofMembers_congr {left right : Record R}
    (same : ∀ member ∈ members, left.field? member.1 = right.field? member.1) :
    ofMembers left members state = ofMembers right members state := by
  induction members generalizing state with
  | nil => rfl
  | cons member members ih =>
      obtain ⟨head, tail⟩ := List.forall_mem_cons.mp same
      simp only [ofMembers, head, ih tail]

theorem ofMembers_perm_iff (independent : record.IsIndependent) (moved : members.Perm others)
    (distinct : (members.map Prod.fst).Nodup) :
    ofMembers record members state = .ok after ↔ ofMembers record others state = .ok after := by
  constructor
  · exact ofMembers_perm independent moved distinct
  · exact ofMembers_perm independent moved.symm ((moved.map Prod.fst).nodup_iff.mp distinct)

theorem IsIndependent.tail (independent : IsIndependent { record with fields := field :: fields }) :
    IsIndependent { record with fields } :=
  ⟨(List.nodup_cons.mp independent.names).2, (List.pairwise_cons.mp independent.changes).2⟩

/-- The first field takes its member, and the members that follow are taken without it. -/
theorem ofMembers_field_iff (independent : IsIndependent { record with fields := field :: fields })
    (distinct : (members.map Prod.fst).Nodup) :
    ofMembers { record with fields := field :: fields } members state = .ok after ↔
      (members.get? field.name = none ∧
        ofMembers { record with fields } members state = .ok after) ∨
      ∃ value change, members.get? field.name = some value ∧
        field.decoder.ofValue value = .ok change ∧
        ofMembers { record with fields } members (change state) = .ok after := by
  have passes {members : Members} {state : R} (absent : field.name ∉ members.map Prod.fst) :
      ofMembers { record with fields := field :: fields } members state =
        ofMembers { record with fields } members state := by
    refine ofMembers_congr fun member present => List.find?_cons_of_neg fun same => absent ?_
    exact eq_of_beq same ▸ List.mem_map_of_mem present
  cases found : members.get? field.name with
  | none => simp [passes (Members.get?_eq_none_iff.mp found)]
  | some value =>
      obtain ⟨others, moved⟩ := Members.perm_of_get? found
      have apart : field.name ∉ others.map Prod.fst :=
        (List.nodup_cons.mp ((moved.map Prod.fst).nodup_iff.mp distinct)).1
      have known :
          Record.field? { record with fields := field :: fields } field.name = some field :=
        List.find?_cons_of_pos (beq_self_eq_true _)
      have unknown : Record.field? { record with fields } field.name = none := by
        refine List.find?_eq_none.mpr fun other member same => ?_
        exact (List.nodup_cons.mp independent.names).1 (eq_of_beq same ▸ List.mem_map_of_mem member)
      rw [ofMembers_perm_iff independent moved distinct, ofMembers_cons_eq_ok_iff]
      simp only [ofMembers_perm_iff independent.tail moved distinct, ofMembers_cons_eq_ok_iff,
        known, unknown, passes apart, reduceCtorEq, false_and, false_or, Option.some.injEq]
      simp

theorem gathers_iff (independent : IsIndependent { record with fields })
    (distinct : (members.map Prod.fst).Nodup) :
    Gathers members fields state after ↔
      ofMembers { record with fields } members state = .ok after ∧
        ∀ field ∈ fields, field.presence = .required → field.name ∈ members.map Prod.fst := by
  induction fields generalizing state with
  | nil =>
      have skipped : ofMembers { record with fields := [] } members state = .ok state := by
        induction members with
        | nil => rfl
        | cons member members ih => exact ih (List.nodup_cons.mp distinct).2
      constructor
      · intro gathers
        cases gathers
        exact ⟨skipped, by simp⟩
      · intro ⟨read, _⟩
        rw [skipped] at read
        exact Except.ok.inj read ▸ .done
  | cons field fields ih =>
      rw [ofMembers_field_iff independent distinct, List.forall_mem_cons]
      constructor
      · intro gathers
        cases gathers with
        | found member read rest =>
            obtain ⟨taken, whole⟩ := (ih independent.tail).mp rest
            refine ⟨.inr ⟨_, _, member, read, taken⟩, fun _ => ?_, whole⟩
            by_contra absent
            cases (Members.get?_eq_none_iff.mpr absent).symm.trans member
        | missing absent dispensable rest =>
            obtain ⟨taken, whole⟩ := (ih independent.tail).mp rest
            exact ⟨.inl ⟨absent, taken⟩, fun required => absurd required dispensable, whole⟩
      · rintro ⟨⟨absent, taken⟩ | ⟨value, change, member, read, taken⟩, present, whole⟩
        · refine .missing absent (fun required => ?_) ((ih independent.tail).mpr ⟨taken, whole⟩)
          exact Members.get?_eq_none_iff.mp absent (present required)
        · exact .found member read ((ih independent.tail).mpr ⟨taken, whole⟩)

/-- An object with distinct keys is read by looking the member of each field up. -/
theorem ofValue_object_iff_gathers (independent : record.IsIndependent)
    (distinct : (members.map Prod.fst).Nodup) :
    record.ofValue (.object members) = .ok after ↔
      Gathers members record.fields record.blank after := by
  rw [ofValue_object_eq_ok_iff, complete_eq_ok_iff]
  exact (gathers_iff independent distinct).symm

end ServerManagement.Wire.Record
