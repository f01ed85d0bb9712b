import ServerManagement.Proofs.Wire.DecoderAgreement

/-!
Records are read alike from texts and from values: from lists by position, and from objects in
whatever order their members stand, with unknown members skipped.
-/

set_option autoImplicit false

namespace ServerManagement.Wire

open ServerManagement.Json

variable {R : Type}

def FieldsAgree (fields : List (Field R)) : Prop := ∀ field ∈ fields, field.decoder.Agrees

theorem FieldsAgree.nil : FieldsAgree ([] : List (Field R)) := fun _ member => nomatch member

theorem FieldsAgree.cons {α : Type} {name : String} {presence : Presence} {decoder : Decoder α}
    {put : α → R → R} {write : R → Option Value} {fields : List (Field R)}
    (head : decoder.Agrees) (tail : FieldsAgree fields) :
    FieldsAgree (⟨name, presence, decoder.map put, write⟩ :: fields) :=
  List.forall_mem_cons.mpr ⟨head.map put, tail⟩

/-! ## Records by position -/

theorem agree_positions {record : Record R} {fields : List (Field R)}
    (agrees : FieldsAgree fields) {budget index total : Nat}
    {trees : List Value} (fit : ItemsFit trees budget) {body : Bytes}
    (spells : Spells body (.items (index == 0) trees)) (state : R) (rest : Bytes) :
    Agree rest (record.ofPositions total index fields (Value.sortedItems trees) state)
      (record.readPositions budget index fields state (body ++ rest)) := by
  induction fields generalizing index trees body state with
  | nil =>
      cases trees with
      | nil =>
          have ended := readEnd_of_end spells rest
          exact .inl ⟨state, rfl, by simp only [Record.readPositions, ended]⟩
      | cons tree trees =>
          obtain ⟨cause, unread⟩ := readEnd_of_item spells rest
          exact .inr ⟨_, .malformed cause, rfl, by simp only [Record.readPositions, unread]⟩
  | cons field fields ih =>
      obtain ⟨agreesHead, agreesTail⟩ := List.forall_mem_cons.mp agrees
      cases trees with
      | nil =>
          cases spells with
          | endOfItems blank =>
              rw [List.append_assoc]
              simp only [Value.sortedItems, Record.ofPositions, Record.readPositions,
                List.singleton_append, nextItem_of_end blank]
              cases record.shortBy index (field :: fields) with
              | ok done => exact .inl ⟨state, rfl, rfl⟩
              | error cause => exact .inr ⟨cause, _, rfl, rfl⟩
      | cons tree trees =>
          obtain ⟨start, tail, starts, more, inside⟩ := agree_item agreesHead fit spells rest
          simp only [Value.sortedItems, Record.ofPositions, Record.readPositions, starts]
          rcases inside with ⟨change, known, read⟩ | ⟨cause, fault, known, read⟩
          · simp only [known, read]
            exact ih agreesTail (List.forall_mem_cons.mp fit).2 more (change state)
          · exact .inr ⟨cause, fault, by simp only [known], by simp only [read]⟩

/-! ## Records by name -/

def MembersFit (trees : Members) (budget : Nat) : Prop :=
  ∀ tree ∈ trees, tree.2.hasDistinctKeys = true ∧ tree.2.depth ≤ budget

theorem membersFit_of_spelled {used : Bytes} {trees : Members} {budget : Nat}
    (spelled : Spelled used (.object trees) (budget + 1)) :
    MembersFit trees budget ∧ (trees.map Prod.fst).Nodup := by
  have distinct := spelled.distinct
  rw [Value.hasDistinctKeys, Value.every, Bool.and_eq_true, Value.everyMember_iff] at distinct
  have shallow := Value.membersDepth_le_iff.mp (Nat.le_of_succ_le_succ spelled.shallow)
  exact ⟨fun tree member => ⟨distinct.2 tree member, shallow tree member⟩,
    of_decide_eq_true distinct.1⟩

def MembersAgree (record : Record R) (seen keys : List String) (rest : Bytes)
    (result : Except Mismatch R) (reading : Except Fault ((List String × R) × Bytes)) : Prop :=
  (∃ state after, result = .ok state ∧ reading = .ok ((after, state), rest) ∧
    ∀ field ∈ record.fields, field.name ∈ after ↔ field.name ∈ seen ∨ field.name ∈ keys) ∨
    ∃ cause fault, result = .error cause ∧ reading = .error fault

theorem agree_members {record : Record R} (agrees : FieldsAgree record.fields)
    {budget : Nat} {trees : Members} (fit : MembersFit trees budget) {seen : List String}
    (fresh : (trees.map Prod.fst).Nodup) (unseen : ∀ key ∈ trees.map Prod.fst, key ∉ seen)
    {first : Bool} {body : Bytes} (spells : Spells body (.members first trees)) (state : R)
    (rest : Bytes) :
    MembersAgree record seen (trees.map Prod.fst) rest
      (record.ofMembers (Value.sortedMembers trees) state)
      (readMembers (record.memberReader budget) first (seen, state) (body ++ rest)) := by
  induction trees generalizing first body seen state with
  | nil =>
      cases spells with
      | endOfMembers blank =>
          rw [List.append_assoc]
          refine .inl ⟨state, seen, rfl,
            readMembers_of_finished (nextKey_of_end blank first rest), fun field _ => ?_⟩
          simp
  | cons member trees ih =>
      obtain ⟨⟨distinct, shallow⟩, fitTail⟩ := List.forall_mem_cons.mp fit
      obtain ⟨other, freshTail⟩ := List.nodup_cons.mp fresh
      obtain ⟨unseenHead, unseenTail⟩ := List.forall_mem_cons.mp unseen
      cases spells with
      | @member _ gap name before after used tail key value _ apart named blankBefore blankAfter
          head more =>
          have next := more.endsNumeral_of_members rest
          have colon := readColon_append blankBefore (after ++ (used ++ (tail ++ rest)))
          simp only [List.append_assoc, List.cons_append]
          cases known : record.field? key with
          | none =>
              have taken : (record.memberReader budget).run (seen, state) key
                  (before ++ 0x3A :: (after ++ (used ++ (tail ++ rest)))) =
                    .ok ((seen, state), tail ++ rest) := by
                simp only [Record.memberReader, Record.takeMember, known, colon,
                  skipValue_of_spells blankAfter head next]
              rw [readMembers_of_member (apart.nextKey _) (named.read _) taken]
              simp only [Value.sortedMembers, Record.ofMembers, known]
              have notField : ∀ field ∈ record.fields, field.name ≠ key := by
                intro field member same
                have missing := List.find?_eq_none.mp known field member
                exact missing (beq_iff_eq.mpr same)
              rcases ih fitTail freshTail unseenTail more state with
                ⟨result, afterwards, isResult, read, names⟩ | failed
              · refine .inl ⟨result, afterwards, isResult, read, fun field member => ?_⟩
                rw [names field member, List.map_cons, List.mem_cons]
                simp [notField field member]
              · exact .inr failed
          | some field =>
              have inside := agrees field (Record.mem_of_field? known) ⟨head, distinct, shallow⟩
                blankAfter next
              have unseenKey : key ∉ seen := unseenHead
              rcases inside with ⟨change, isChange, read⟩ | ⟨cause, fault, isCause, read⟩
              · have taken : (record.memberReader budget).run (seen, state) key
                    (before ++ 0x3A :: (after ++ (used ++ (tail ++ rest)))) =
                      .ok ((key :: seen, change state), tail ++ rest) := by
                  simp only [Record.memberReader, Record.takeMember, known, if_neg unseenKey, colon,
                    read]
                rw [readMembers_of_member (apart.nextKey _) (named.read _) taken]
                simp only [Value.sortedMembers, Record.ofMembers, known, isChange]
                have unseen : ∀ name ∈ trees.map Prod.fst, name ∉ key :: seen := by
                  intro name member seenNow
                  rcases List.mem_cons.mp seenNow with rfl | seenBefore
                  · exact other member
                  · exact unseenTail name member seenBefore
                rcases ih fitTail freshTail unseen more (change state) with
                  ⟨result, afterwards, isResult, read, names⟩ | failed
                · refine .inl ⟨result, afterwards, isResult, read, fun field member => ?_⟩
                  rw [names field member, List.map_cons, List.mem_cons, List.mem_cons]
                  grind
                · exact .inr failed
              · refine .inr ⟨cause, fault, ?_, ?_⟩
                · simp only [Value.sortedMembers, Record.ofMembers, known, isCause]
                · refine readMembers_of_fault (apart.nextKey _) (named.read _) ?_
                  simp only [Record.memberReader, Record.takeMember, known, if_neg unseenKey, colon,
                    read]

theorem complete_congr {seen other : List String} {fields : List (Field R)}
    (same : ∀ field ∈ fields, field.name ∈ seen ↔ field.name ∈ other) :
    Record.complete seen fields = Record.complete other fields := by
  induction fields with
  | nil => rfl
  | cons field fields ih =>
      obtain ⟨head, tail⟩ := List.forall_mem_cons.mp same
      simp only [Record.complete, head, ih tail]

/-- An object is read as the sorted one is, although its members stand in another order. -/
theorem agree_object {record : Record R} (independent : record.IsIndependent)
    (agrees : FieldsAgree record.fields) {budget : Nat} {trees : Members}
    (fit : MembersFit trees budget) (distinct : (trees.map Prod.fst).Nodup) {body : Bytes}
    (spells : Spells body (.members true trees)) (rest : Bytes) :
    Agree rest (record.ofValue (Value.object trees).sorted)
      (record.readObject budget (body ++ rest)) := by
  have keys := Value.keys_sortedMembers trees
  have sortedDistinct : ((Value.sortedMembers trees).map Prod.fst).Nodup := keys ▸ distinct
  have moved := Members.insertAll_nil_perm sortedDistinct
  have movedDistinct := (moved.map Prod.fst).nodup_iff.mpr sortedDistinct
  -- It is enough to agree with the members in the order of the text.
  have enough : Agree rest (record.ofValue (.object (Value.sortedMembers trees)))
      (record.readObject budget (body ++ rest)) →
      Agree rest (record.ofValue (Value.object trees).sorted)
        (record.readObject budget (body ++ rest)) := by
    rintro (⟨value, known, read⟩ | ⟨cause, fault, known, read⟩)
    · exact .inl ⟨value, Record.ofValue_object_perm independent moved.symm sortedDistinct known, read⟩
    · cases sorted : record.ofValue (Value.object trees).sorted with
      | ok value =>
          have same := Record.ofValue_object_perm independent moved movedDistinct sorted
          cases known.symm.trans same
      | error cause => exact .inr ⟨cause, fault, rfl, read⟩
  refine enough ?_
  have unseen : ∀ key ∈ trees.map Prod.fst, key ∉ ([] : List String) := by simp
  have inside := agree_members agrees fit distinct unseen spells record.blank rest
  rcases inside with ⟨state, after, known, read, names⟩ | ⟨cause, fault, known, read⟩
  · have same : Record.complete after record.fields =
        Record.complete ((Value.sortedMembers trees).map Prod.fst) record.fields := by
      refine complete_congr fun field member => ?_
      rw [names field member, keys]
      simp
    simp only [Record.ofValue, Record.readObject, known, read, same]
    cases Record.complete ((Value.sortedMembers trees).map Prod.fst) record.fields with
    | ok done => exact .inl ⟨state, rfl, rfl⟩
    | error cause => exact .inr ⟨cause, _, rfl, rfl⟩
  · exact .inr ⟨cause, fault, by simp only [Record.ofValue, known], by
      simp only [Record.readObject, read]⟩

theorem agrees_record {record : Record R} (independent : record.IsIndependent)
    (agrees : FieldsAgree record.fields) : record.decoder.Agrees := by
  intro used tree budget spelled before rest blank ends
  change Agree rest (record.ofValue _) (record.readRecord budget _)
  cases spelled.spells with
  | scalar spelling =>
      obtain ⟨byte, tail, rfl, head⟩ := spelling.head
      have kind : record.ofValue tree.sorted = .error (.wrongKind tree.sight record.wanted) := by
        cases spelling <;> rfl
      refine .inr ⟨_, wrongKindAt record.wanted (byte :: (tail ++ rest)), kind, ?_⟩
      simp only [Record.readRecord, List.cons_append, skipBlanks_append blank,
        skipBlanks_cons head.visible, head.unopened]
  | @list body items inside =>
      have visible : isBlankByte 0x5B = false := rfl
      have opened : opened? 0x5B = some .list := rfl
      cases budget with
      | zero => exact absurd spelled.shallow (Nat.not_succ_le_zero _)
      | succ budget =>
          have size : (Value.sortedItems items).length = items.length := by
            rw [Value.sortedItems_eq_map, List.length_map]
          simp only [Value.sorted, Record.ofValue, size, Record.readRecord, List.cons_append,
            skipBlanks_append blank, skipBlanks_cons visible, opened]
          exact agree_positions agrees (itemsFit_of_spelled spelled) inside record.blank rest
  | @object body members inside =>
      have visible : isBlankByte 0x7B = false := rfl
      have opened : opened? 0x7B = some .object := rfl
      cases budget with
      | zero => exact absurd spelled.shallow (Nat.not_succ_le_zero _)
      | succ budget =>
          obtain ⟨fit, distinct⟩ := membersFit_of_spelled spelled
          have members := agree_object independent agrees fit distinct inside rest
          simpa only [Record.readRecord, List.cons_append, skipBlanks_append blank,
            skipBlanks_cons visible, opened] using members

end ServerManagement.Wire
