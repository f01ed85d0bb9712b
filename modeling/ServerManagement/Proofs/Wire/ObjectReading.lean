import ServerManagement.Proofs.Json.OutlineReading
import ServerManagement.Proofs.Json.ValueSkipping
import ServerManagement.Proofs.Wire.ReadingThrough
import ServerManagement.Proofs.Wire.RecordAgreement

/-!
Records as they are read from the texts of objects. What counts of such a text are the values of the
members that the record knows: the others need only be laid out properly.
-/

set_option autoImplicit false

namespace ServerManagement.Wire

open ServerManagement.Json

variable {R : Type}

namespace Record

inductive Takes (record : Record R) (budget : Nat) : List (Bytes × Outline) → Members → Prop
  | nothing : Takes record budget [] []
  | skipped {name : Bytes} {outline : Outline} {members : List (Bytes × Outline)} {key : String}
      {values : Members} (named : TextSpelling name key) (unknown : record.field? key = none)
      (rest : Takes record budget members values) :
      Takes record budget ((name, outline) :: members) values
  | taken {name : Bytes} {outline : Outline} {members : List (Bytes × Outline)} {key : String}
      {field : Field R} {value : Value} {values : Members} (named : TextSpelling name key)
      (known : record.field? key = some field) (valued : outline.value? budget = some value)
      (rest : Takes record budget members values) :
      Takes record budget ((name, outline) :: members) ((key, value) :: values)

variable {record : Record R} {budget : Nat} {members others : List (Bytes × Outline)}
  {values : Members}

/-- The order of the members carries over to what is taken. -/
theorem Takes.perm (takes : record.Takes budget members values) (moved : members.Perm others) :
    ∃ result, record.Takes budget others result ∧ values.Perm result := by
  induction moved generalizing values with
  | nil => exact ⟨values, takes, .refl _⟩
  | cons member _ ih =>
      cases takes with
      | skipped named unknown rest =>
          obtain ⟨result, takes, moved⟩ := ih rest
          exact ⟨result, .skipped named unknown takes, moved⟩
      | taken named known valued rest =>
          obtain ⟨result, takes, moved⟩ := ih rest
          exact ⟨_, .taken named known valued takes, moved.cons _⟩
  | swap =>
      cases takes with
      | skipped named unknown rest =>
          cases rest with
          | skipped otherNamed otherUnknown rest =>
              exact ⟨_, .skipped otherNamed otherUnknown (.skipped named unknown rest), .refl _⟩
          | taken otherNamed otherKnown valued rest =>
              exact ⟨_, .taken otherNamed otherKnown valued (.skipped named unknown rest), .refl _⟩
      | taken named known valued rest =>
          cases rest with
          | skipped otherNamed otherUnknown rest =>
              exact ⟨_, .skipped otherNamed otherUnknown (.taken named known valued rest), .refl _⟩
          | taken otherNamed otherKnown otherValued rest =>
              exact ⟨_, .taken otherNamed otherKnown otherValued (.taken named known valued rest),
                .swap _ _ _⟩
  | trans _ _ firstIH secondIH =>
      obtain ⟨middle, takes, first⟩ := firstIH takes
      obtain ⟨result, takes, second⟩ := secondIH takes
      exact ⟨result, takes, first.trans second⟩

theorem Takes.mem_iff (takes : record.Takes budget members values) {key : String} {field : Field R}
    (known : record.field? key = some field) {value : Value} :
    (key, value) ∈ values ↔
      ∃ member ∈ members, TextSpelling member.1 key ∧ member.2.value? budget = some value := by
  induction takes with
  | nothing => simp
  | @skipped name outline members other values named unknown _ ih =>
      have foreign (spelling : TextSpelling name key) : False := by
        obtain rfl := spelling.unique named
        cases known.symm.trans unknown
      rw [ih]
      grind
  | @taken name outline members other _ found values named _ valued _ ih =>
      rw [List.mem_cons, ih]
      constructor
      · rintro (same | ⟨member, inside, facts⟩)
        · obtain ⟨rfl, rfl⟩ := Prod.mk.inj same
          exact ⟨(name, outline), List.mem_cons_self .., named, valued⟩
        · exact ⟨member, List.mem_cons_of_mem _ inside, facts⟩
      · rintro ⟨member, inside, spelling, reads⟩
        rcases List.mem_cons.mp inside with rfl | inRest
        · obtain rfl := spelling.unique named
          obtain rfl := Option.some.inj (valued.symm.trans reads)
          exact .inl rfl
        · exact .inr ⟨member, inRest, spelling, reads⟩

/-- The members that a record knows have values. -/
theorem Takes.valued (takes : record.Takes budget members values) {member : Bytes × Outline}
    (inside : member ∈ members) {key : String} {field : Field R} (spelling : TextSpelling member.1 key)
    (known : record.field? key = some field) : ∃ value, member.2.value? budget = some value := by
  induction takes with
  | nothing => cases inside
  | skipped named unknown _ ih =>
      rcases List.mem_cons.mp inside with rfl | inRest
      · obtain rfl := spelling.unique named
        cases known.symm.trans unknown
      · exact ih inRest
  | taken _ _ valued _ ih =>
      rcases List.mem_cons.mp inside with rfl | inRest
      · exact ⟨_, valued⟩
      · exact ih inRest

/-- What the reader of a record does with a member that is laid out. -/
theorem takeMember_iff (through : FieldsReadThrough record.fields) {outline : Outline}
    {seen : List String} {state : R} {key : String} {before between used rest after : Bytes}
    {result : List String × R} (blank : Blank before) (blankBetween : Blank between)
    (lays : Lays used (.value outline)) (ends : EndsNumeral rest) :
    record.takeMember budget (seen, state) key (before ++ 0x3A :: (between ++ (used ++ rest))) =
        .ok (result, after) ↔
      ((record.field? key = none ∧ result = (seen, state)) ∨
        ∃ field value change, record.field? key = some field ∧ key ∉ seen ∧
          outline.value? budget = some value ∧ field.decoder.ofValue value = .ok change ∧
          result = (key :: seen, change state)) ∧ after = rest := by
  unfold takeMember
  cases known : record.field? key with
  | none =>
      simp only [readColon_append blank, skipValue_of_lays blankBetween lays ends]
      grind
  | some field =>
      have reads := through field (mem_of_field? known)
      by_cases again : key ∈ seen
      · simp [again]
      · simp only [if_neg again, readColon_append blank]
        constructor
        · intro read
          split at read
          · cases read
          · rename_i found
            obtain ⟨rfl, rfl⟩ := Prod.mk.inj (Except.ok.inj read)
            obtain ⟨value, stands, change⟩ := reads.mp found
            obtain ⟨valued, rfl⟩ := (isRead_of_lays lays _ _ _ _ _ blankBetween ends).mp stands
            exact ⟨.inr ⟨field, value, _, rfl, again, valued, change, rfl⟩, rfl⟩
        · rintro ⟨⟨absent, _⟩ | ⟨field, value, change, same, _, valued, found, rfl⟩, rfl⟩
          · cases absent
          · obtain rfl := Option.some.inj same
            have stands := (isRead_of_lays lays budget _ _ _ _ blankBetween ends).mpr ⟨valued, rfl⟩
            simp only [reads.mpr ⟨value, stands, found⟩]

/-- A record takes members one after the other, each known one once. -/
theorem readMembers_iff (through : FieldsReadThrough record.fields) {first : Bool} {body : Bytes}
    (lays : Lays body (.members first members)) {seen : List String} {state : R}
    {result : List String × R} {rest after : Bytes} :
    readMembers (record.memberReader budget) first (seen, state) (body ++ rest) =
        .ok (result, after) ↔
      ∃ values, record.Takes budget members values ∧ (values.map Prod.fst).Nodup ∧
        (∀ key ∈ values.map Prod.fst, key ∉ seen) ∧
        record.ofMembers values state = .ok result.2 ∧
        result.1 = (values.map Prod.fst).reverse ++ seen ∧ after = rest := by
  induction members generalizing first body seen state with
  | nil =>
      cases lays with
      | endOfMembers blank =>
          rw [List.append_assoc, List.singleton_append,
            readMembers_of_finished (nextKey_of_end blank _ rest)]
          constructor
          · intro same
            obtain ⟨rfl, rfl⟩ := Prod.mk.inj (Except.ok.inj same)
            exact ⟨[], .nothing, .nil, nofun, rfl, rfl, rfl⟩
          · rintro ⟨_, ⟨⟩, _, _, rebuilt, same, rfl⟩
            obtain rfl := Except.ok.inj rebuilt
            rw [← Prod.eta result, same]
            rfl
  | cons member members ih =>
      cases lays with
      | @member _ gap name before between used tail outline _ apart named blankBefore blankBetween
          head more =>
          have ends := more.endsNumeral_of_members rest
          simp only [List.append_assoc, List.cons_append]
          rw [readMembers_item_iff (apart.nextKey _)]
          simp only [readString_iff named]
          constructor
          · rintro ⟨key, _, next, _, ⟨spelling, rfl⟩, taken, found⟩
            obtain ⟨step, rfl⟩ :=
              (takeMember_iff through blankBefore blankBetween head ends).mp taken
            rcases step with
              ⟨unknown, rfl⟩ | ⟨field, value, change, known, fresh, valued, changes, rfl⟩
            · obtain ⟨values, takes, facts⟩ := (ih more).mp found
              exact ⟨values, .skipped spelling unknown takes, facts⟩
            · obtain ⟨values, takes, distinct, unseen, rebuilt, order, same⟩ := (ih more).mp found
              refine ⟨(key, value) :: values, .taken spelling known valued takes, ?_, ?_, ?_, ?_, same⟩
              · refine List.nodup_cons.mpr ⟨fun again => ?_, distinct⟩
                exact unseen key again (List.mem_cons_self ..)
              · refine List.forall_mem_cons.mpr ⟨fresh, fun other inside seen => ?_⟩
                exact unseen other inside (List.mem_cons_of_mem _ seen)
              · exact ofMembers_cons_eq_ok_iff.mpr (.inr ⟨field, change, known, changes, rebuilt⟩)
              · simpa using order
          · rintro ⟨values, takes, distinct, unseen, rebuilt, order, rfl⟩
            have step (key : String) (result : List String × R) :
                record.takeMember budget (seen, state) key _ = .ok (result, tail ++ after) ↔ _ :=
              takeMember_iff through blankBefore blankBetween head ends
            cases takes with
            | @skipped _ _ _ key _ spelling unknown takes =>
                refine ⟨key, _, (seen, state), _, ⟨spelling, rfl⟩,
                  (step _ _).mpr ⟨.inl ⟨unknown, rfl⟩, rfl⟩, ?_⟩
                exact (ih more).mpr ⟨values, takes, distinct, unseen, rebuilt, order, rfl⟩
            | @taken _ _ _ key field value others spelling known valued takes =>
                obtain ⟨alone, distinct⟩ := List.nodup_cons.mp distinct
                obtain ⟨fresh, unseen⟩ := List.forall_mem_cons.mp unseen
                rcases ofMembers_cons_eq_ok_iff.mp rebuilt with
                  ⟨unknown, _⟩ | ⟨_, change, same, changes, rebuilt⟩
                · cases known.symm.trans unknown
                obtain rfl := Option.some.inj (known.symm.trans same)
                refine ⟨key, _, (key :: seen, change state), _, ⟨spelling, rfl⟩,
                  (step _ _).mpr
                    ⟨.inr ⟨field, value, change, known, fresh, valued, changes, rfl⟩, rfl⟩, ?_⟩
                refine (ih more).mpr ⟨others, takes, distinct, fun other inside seen => ?_, rebuilt,
                  by simpa using order, rfl⟩
                rcases List.mem_cons.mp seen with rfl | before
                · exact alone inside
                · exact unseen other inside before

theorem readObject_iff (through : FieldsReadThrough record.fields) {body : Bytes}
    (lays : Lays body (.members true members)) {result : R} {rest after : Bytes} :
    record.readObject budget (body ++ rest) = .ok (result, after) ↔
      ∃ values, record.Takes budget members values ∧ (values.map Prod.fst).Nodup ∧
        record.ofValue (.object values) = .ok result ∧ after = rest := by
  -- The fields that have been seen are the keys of the members that were taken.
  have whole (values : Members) :
      complete ((values.map Prod.fst).reverse ++ []) record.fields =
        complete (values.map Prod.fst) record.fields :=
    complete_congr fun field _ => by simp
  simp only [ofValue_object_eq_ok_iff]
  unfold readObject
  constructor
  · intro read
    split at read
    · cases read
    · rename_i seen state left found
      obtain ⟨values, takes, distinct, _, rebuilt, order, rfl⟩ :=
        (readMembers_iff through lays).mp found
      split at read
      · cases read
      · rename_i complete
        obtain ⟨rfl, rfl⟩ := Prod.mk.inj (Except.ok.inj read)
        obtain rfl : seen = _ := order
        exact ⟨values, takes, distinct, ⟨rebuilt, whole values ▸ complete⟩, rfl⟩
  · rintro ⟨values, takes, distinct, ⟨rebuilt, complete⟩, rfl⟩
    have found : readMembers (record.memberReader budget) true ([], record.blank) (body ++ after) =
        .ok (((values.map Prod.fst).reverse ++ [], result), after) :=
      (readMembers_iff through lays).mpr
        ⟨values, takes, distinct, fun _ _ => List.not_mem_nil, rebuilt, rfl, rfl⟩
    simp only [found, whole values, complete]

/-- A text that is an object is read as a record exactly when the record can be put together from the
members that it takes, with no field repeated. -/
theorem parse_object_iff (through : FieldsReadThrough record.fields) {text : Bytes}
    (laid : LaidOut text (.object members)) {result : R} :
    record.decoder.parse text = .ok result ↔
      ∃ values, record.Takes (frameBudget - 1) members values ∧ (values.map Prod.fst).Nodup ∧
        record.ofValue (.object values) = .ok result := by
  obtain ⟨before, used, after, rfl, blankBefore, lays, blankAfter⟩ := laid
  cases lays with
  | @object body _ inside =>
      have start : skipBlanks (before ++ (0x7B :: body ++ after)) = 0x7B :: (body ++ after) := by
        rw [skipBlanks_append blankBefore]
        exact skipBlanks_cons rfl _
      have run : (record.decoder.reader frameBudget).run (before ++ (0x7B :: body ++ after)) =
          record.readObject (frameBudget - 1) (body ++ after) := by
        change record.readRecord frameBudget _ = _
        simp only [readRecord, start]
        rfl
      constructor
      · intro read
        obtain ⟨rest, found, _⟩ := Reader.run_of_runAll read
        rw [run] at found
        obtain ⟨values, takes, distinct, rebuilt, _⟩ := (readObject_iff through inside).mp found
        exact ⟨values, takes, distinct, rebuilt⟩
      · rintro ⟨values, takes, distinct, rebuilt⟩
        refine Reader.runAll_of_run (run.trans ?_) blankAfter
        exact (readObject_iff through inside).mpr ⟨values, takes, distinct, rebuilt, rfl⟩

end Record

end ServerManagement.Wire
