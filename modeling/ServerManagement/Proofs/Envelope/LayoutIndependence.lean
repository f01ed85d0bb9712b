import ServerManagement.Proofs.Envelope.FrameShapes
import ServerManagement.Proofs.Server.RecordTypes
import ServerManagement.Proofs.Wire.ObjectReading

/-!
Frames that are objects are read alike however they are laid out: the order of the members, blanks
between the tokens, the spelling of the keys and the members that no envelope has make no difference.
-/

set_option autoImplicit false

namespace ServerManagement

open ServerManagement.Json
open ServerManagement.Wire

/-! ## Other ways to give the same members -/

/-- The same members for an envelope: in another order, with keys spelled in another way, and with
further members whose names mean nothing to it. -/
inductive Rearranges : List (Bytes × Outline) → List (Bytes × Outline) → Prop
  | moved {members others : List (Bytes × Outline)} (moved : members.Perm others) :
      Rearranges members others
  | respelled {name other : Bytes} {key : String} (outline : Outline)
      (members : List (Bytes × Outline)) (named : TextSpelling name key)
      (otherNamed : TextSpelling other key) :
      Rearranges ((name, outline) :: members) ((other, outline) :: members)
  | added {name : Bytes} {key : String} (outline : Outline) (members : List (Bytes × Outline))
      (named : TextSpelling name key) (foreign : key ∉ ["id", "method", "params", "result", "error"]) :
      Rearranges members ((name, outline) :: members)
  | symm {members others : List (Bytes × Outline)} (back : Rearranges others members) :
      Rearranges members others
  | trans {members middle others : List (Bytes × Outline)} (first : Rearranges members middle)
      (second : Rearranges middle others) : Rearranges members others

theorem Response.field?_eq_none_iff {key : String} :
    Response.record.field? key = none ↔ key ∉ ["id", "method", "params", "result", "error"] := by
  simp only [Record.field?, List.find?_eq_none, beq_iff_eq]
  constructor
  · intro unknown known
    obtain ⟨field, member, same⟩ : ∃ field ∈ Response.record.fields, field.name = key :=
      List.mem_map.mp known
    exact unknown field member same
  · rintro unknown field member rfl
    exact unknown (List.mem_map_of_mem member)

/-- An envelope takes the same members from both, perhaps in another order. -/
theorem Rearranges.takes {members others : List (Bytes × Outline)}
    (rearranges : Rearranges members others) {budget : Nat} :
    (∀ values, Response.record.Takes budget members values →
      ∃ result, Response.record.Takes budget others result ∧ values.Perm result) ∧
    ∀ values, Response.record.Takes budget others values →
      ∃ result, Response.record.Takes budget members result ∧ values.Perm result := by
  induction rearranges with
  | moved moved => exact ⟨fun _ takes => takes.perm moved, fun _ takes => takes.perm moved.symm⟩
  | @respelled name other key outline members named otherNamed =>
      have both {name other : Bytes} (named : TextSpelling name key)
          (otherNamed : TextSpelling other key) (values : Members)
          (takes : Response.record.Takes budget ((name, outline) :: members) values) :
          ∃ result, Response.record.Takes budget ((other, outline) :: members) result ∧
            values.Perm result := by
        cases takes with
        | skipped spelling unknown rest =>
            obtain rfl := spelling.unique named
            exact ⟨_, .skipped otherNamed unknown rest, .refl _⟩
        | taken spelling known valued rest =>
            obtain rfl := spelling.unique named
            exact ⟨_, .taken otherNamed known valued rest, .refl _⟩
      exact ⟨both named otherNamed, both otherNamed named⟩
  | added outline members named foreign =>
      have unknown := Response.field?_eq_none_iff.mpr foreign
      refine ⟨fun values takes => ⟨values, .skipped named unknown takes, .refl _⟩,
        fun values takes => ?_⟩
      cases takes with
      | skipped _ _ rest => exact ⟨values, rest, .refl _⟩
      | taken spelling known _ _ =>
          obtain rfl := spelling.unique named
          cases known.symm.trans unknown
  | symm _ ih => exact ih.symm
  | trans _ _ firstIH secondIH =>
      refine ⟨fun values takes => ?_, fun values takes => ?_⟩
      · obtain ⟨middle, takes, first⟩ := firstIH.1 values takes
        obtain ⟨result, takes, second⟩ := secondIH.1 middle takes
        exact ⟨result, takes, first.trans second⟩
      · obtain ⟨middle, takes, second⟩ := secondIH.2 values takes
        obtain ⟨result, takes, first⟩ := firstIH.2 middle takes
        exact ⟨result, takes, second.trans first⟩

theorem parse_of_takes {text other : Bytes} {members others : List (Bytes × Outline)}
    (laid : LaidOut text (.object members)) (laidOther : LaidOut other (.object others))
    (takes : ∀ values, Response.record.Takes (frameBudget - 1) members values →
      ∃ result, Response.record.Takes (frameBudget - 1) others result ∧ values.Perm result)
    {response : Response} (read : Response.record.decoder.parse text = .ok response) :
    Response.record.decoder.parse other = .ok response := by
  obtain ⟨values, taken, distinct, rebuilt⟩ :=
    (Record.parse_object_iff fieldsReadThrough_response laid).mp read
  obtain ⟨result, taken, moved⟩ := takes values taken
  refine (Record.parse_object_iff fieldsReadThrough_response laidOther).mpr ⟨result, taken, ?_, ?_⟩
  · exact (moved.map Prod.fst).nodup_iff.mp distinct
  · exact Record.ofValue_object_perm (RecordType.isIndependent .response) moved distinct rebuilt

/-! ## Responses and notifications -/

theorem Response.field?_id :
    Response.record.field? "id" =
      some (.optional "id" .uint64 (·.id) fun id response => { response with id }) := rfl

/-- All fields but the first leave the identifier alone. -/
theorem Response.fieldsKeep_id (id : Option UInt64) :
    Record.FieldsKeep (fun response : Response => response.id = id) Response.record.fields.tail :=
  .cons (fun _ _ _ _ same => same) (.cons (fun _ _ _ _ same => same)
    (.cons (fun _ _ _ _ same => same)
      (.cons (fun _ _ _ _ same => same) .nil)))

/-- Only the member for the identifier changes the identifier. -/
theorem Response.id_of_ofMembers {members : Members} {state after : Response}
    (absent : "id" ∉ members.map Prod.fst)
    (read : Response.record.ofMembers members state = .ok after) : after.id = state.id := by
  let holds (response : Response) : Prop := response.id = state.id
  refine (Record.ofMembers_keeps (fun member inside field known => ?_) rfl read : holds after)
  have named := Record.name_of_field? known
  rcases List.mem_cons.mp (Record.mem_of_field? known) with rfl | other
  · exact absurd (List.mem_map.mpr ⟨member, inside, named.symm⟩) absent
  · exact Response.fieldsKeep_id state.id field other

/-- The identifier of a response that was put together from members. -/
theorem Response.id_of_mem {members : Members} {response : Response}
    (distinct : (members.map Prod.fst).Nodup)
    (read : Response.record.ofValue (.object members) = .ok response) {value : Value}
    (inside : ("id", value) ∈ members) : value = (Codec.option .uint64).toValue response.id := by
  obtain ⟨before, after, rfl⟩ := List.append_of_mem inside
  have moved : (before ++ ("id", value) :: after).Perm (("id", value) :: (before ++ after)) :=
    List.perm_middle
  have alone := (List.nodup_cons.mp ((moved.map Prod.fst).nodup_iff.mp distinct)).1
  have read := Record.ofMembers_perm (RecordType.isIndependent .response) moved distinct
    (Record.ofValue_object_eq_ok_iff.mp read).1
  rcases Record.ofMembers_cons_eq_ok_iff.mp read with ⟨unknown, _⟩ | ⟨field, change, known, found, read⟩
  · cases unknown
  · obtain rfl := Option.some.inj (Response.field?_id.symm.trans known)
    obtain ⟨id, exact, rfl⟩ := Decoder.ofValue_map_eq_ok.mp found
    rw [Response.id_of_ofMembers alone read]
    exact isExact_id.mp exact

/-- An identifier that is there and not zero is given by a member that is neither null nor nought. -/
theorem Response.id_given_iff {members : Members} {response : Response}
    (distinct : (members.map Prod.fst).Nodup)
    (read : Response.record.ofValue (.object members) = .ok response) :
    (∃ id, response.id = some id ∧ id ≠ 0) ↔
      ∃ value, ("id", value) ∈ members ∧ value ≠ .null ∧ value ≠ .ofNat 0 := by
  constructor
  · rintro ⟨id, given, positive⟩
    have named : "id" ∈ members.map Prod.fst := by
      by_contra absent
      have same := Response.id_of_ofMembers absent (Record.ofValue_object_eq_ok_iff.mp read).1
      cases given.symm.trans same
    obtain ⟨⟨key, value⟩, inside, rfl⟩ := List.mem_map.mp named
    obtain rfl : value = .ofNat id.toNat :=
      (Response.id_of_mem distinct read inside).trans (congrArg _ given)
    refine ⟨_, inside, nofun, fun nought => positive ?_⟩
    have number := Number.integer.inj (Value.number.inj nought)
    exact UInt64.toNat_inj.mp (Int.ofNat_inj.mp number)
  · rintro ⟨value, inside, present, positive⟩
    have exact := Response.id_of_mem distinct read inside
    cases given : response.id with
    | none => exact absurd (exact.trans (congrArg _ given)) present
    | some id =>
        refine ⟨id, rfl, ?_⟩
        rintro rfl
        exact positive (exact.trans (congrArg _ given))

/-! ## Frames -/

theorem decodeFrame_response_iff {frame : Bytes} :
    (∃ response, decodeFrame frame = .ok (.response response)) ↔
      ∃ response, Response.record.decoder.parse frame = .ok response ∧
        ∃ id, response.id = some id ∧ id ≠ 0 := by
  simp only [decodeFrame_eq_ok_iff]
  constructor
  · rintro ⟨_, response, read, classified⟩
    refine ⟨response, read, ?_⟩
    unfold Inbound.ofResponse at classified
    split at classified
    · rename_i id given
      split at classified
      · cases classified
      · rename_i positive
        exact ⟨id, given, positive⟩
    · cases classified
  · rintro ⟨response, read, id, given, positive⟩
    exact ⟨response, response, read, by simp [Inbound.ofResponse, given, positive]⟩

/-- The identifier of a response that was read from an object. -/
theorem parse_gives_id_iff {text : Bytes} {members : List (Bytes × Outline)}
    (laid : LaidOut text (.object members)) {response : Response}
    (read : Response.record.decoder.parse text = .ok response) :
    (∃ id, response.id = some id ∧ id ≠ 0) ↔
      ∃ member ∈ members, TextSpelling member.1 "id" ∧
        member.2 ≠ .scalar [0x6E, 0x75, 0x6C, 0x6C] ∧ member.2 ≠ .scalar [0x30] := by
  obtain ⟨values, takes, distinct, rebuilt⟩ :=
    (Record.parse_object_iff fieldsReadThrough_response laid).mp read
  rw [Response.id_given_iff distinct rebuilt]
  constructor
  · rintro ⟨value, inside, present, positive⟩
    obtain ⟨member, inside, named, valued⟩ := (takes.mem_iff Response.field?_id).mp inside
    obtain ⟨used, lays⟩ := laid.of_member inside
    refine ⟨member, inside, named, fun null => present ?_, fun nought => positive ?_⟩
    · exact Option.some.inj (valued.symm.trans (lays.value?_null_iff.mpr null))
    · exact Option.some.inj (valued.symm.trans (lays.value?_nought_iff.mpr nought))
  · rintro ⟨member, inside, named, present, positive⟩
    obtain ⟨used, lays⟩ := laid.of_member inside
    obtain ⟨value, valued⟩ := takes.valued inside named Response.field?_id
    refine ⟨value, (takes.mem_iff Response.field?_id).mpr ⟨member, inside, named, valued⟩, ?_, ?_⟩
    · rintro rfl
      exact present (lays.value?_null_iff.mp valued)
    · rintro rfl
      exact positive (lays.value?_nought_iff.mp valued)

/-- What is read from a frame that is an object does not depend on its layout, on the order of its
members, on how their keys are spelled and on members that no envelope has: the same message is read,
or none. It is a response exactly when it can be read and gives an identifier that is neither null nor
nought. -/
theorem decodeFrame_rearranged {text other : Bytes} {members others : List (Bytes × Outline)}
    (laid : LaidOut text (.object members)) (laidOther : LaidOut other (.object others))
    (rearranges : Rearranges members others) :
    (decodeFrame text).toOption = (decodeFrame other).toOption ∧
      ((∃ response, decodeFrame text = .ok (.response response)) ↔
        (∃ inbound, decodeFrame text = .ok inbound) ∧
          ∃ member ∈ members, TextSpelling member.1 "id" ∧
            member.2 ≠ .scalar [0x6E, 0x75, 0x6C, 0x6C] ∧ member.2 ≠ .scalar [0x30]) := by
  have same (inbound : Inbound) :
      decodeFrame text = .ok inbound ↔ decodeFrame other = .ok inbound := by
    simp only [decodeFrame_eq_ok_iff]
    constructor
    · rintro ⟨response, read, rfl⟩
      exact ⟨response, parse_of_takes laid laidOther rearranges.takes.1 read, rfl⟩
    · rintro ⟨response, read, rfl⟩
      exact ⟨response, parse_of_takes laidOther laid rearranges.takes.2 read, rfl⟩
  constructor
  · cases read : decodeFrame text with
    | ok inbound => rw [(same inbound).mp read]
    | error failure =>
        cases found : decodeFrame other with
        | error => rfl
        | ok inbound => cases read.symm.trans ((same inbound).mpr found)
  · rw [decodeFrame_response_iff]
    constructor
    · rintro ⟨response, read, given⟩
      exact ⟨⟨_, decodeFrame_eq_ok_iff.mpr ⟨response, read, rfl⟩⟩, (parse_gives_id_iff laid read).mp given⟩
    · rintro ⟨⟨_, decoded⟩, given⟩
      obtain ⟨response, read, _⟩ := decodeFrame_eq_ok_iff.mp decoded
      exact ⟨response, read, (parse_gives_id_iff laid read).mpr given⟩

/-- A response with blanks, an escaped key and a member that no envelope has. -/
theorem decodeFrame_rearranged_of_padded :
    let text := bytesOf r#"{"id":1}"#
    let other := bytesOf r#" {"a":[ ] ,"i\u0064": 1}"#
    let members := [([0x69, 0x64, 0x22], Outline.scalar [0x31])]
    let others := [([0x61, 0x22], .list []),
      ([0x69, 0x5C, 0x75, 0x30, 0x30, 0x36, 0x34, 0x22], Outline.scalar [0x31])]
    LaidOut text (.object members) ∧ LaidOut other (.object others) ∧ Rearranges members others ∧
      (decodeFrame text).toOption = (decodeFrame other).toOption ∧
      ∃ response, decodeFrame text = .ok (.response response) := by
  intro text other members others
  have space : Blank [0x20] := by simp [Blank, isBlankByte]
  have plainId : TextSpelling [0x69, 0x64, 0x22] "id" := spelling_printedTail "id"
  have plainA : TextSpelling [0x61, 0x22] "a" := spelling_printedTail "a"
  have escapedId : TextSpelling [0x69, 0x5C, 0x75, 0x30, 0x30, 0x36, 0x34, 0x22] "id" := by
    refine ⟨bytesOf "id", ?_, fromUTF8?_bytesOf "id"⟩
    have escape : hexQuad? 0x30 0x30 0x36 0x34 = some 0x64 := rfl
    rw [bytesOf_eq]
    exact .plain (by decide) (by decide) (by decide)
      (.unit escape (by decide) (by decide) .close)
  have one : Lays [0x31] (.value (.scalar [0x31])) := by
    have spelling : NumeralSpelling [0x31] ⟨false, [0x31], none, none⟩ :=
      ⟨.single rfl, [], [], .absent, .absent, rfl⟩
    exact .scalar (.number spelling)
  have laid : LaidOut text (.object members) := by
    refine ⟨[], _, [], ?_, blank_nil, .object (.member (.first blank_nil) plainId.shape blank_nil
      blank_nil one (.endOfMembers blank_nil)), blank_nil⟩
    exact bytesOf_eq _
  have laidOther : LaidOut other (.object others) := by
    refine ⟨[0x20], _, [], ?_, space, .object (.member (.first blank_nil) plainA.shape blank_nil
      blank_nil (.list (.endOfItems space)) (.member (.comma space blank_nil) escapedId.shape
        blank_nil space one (.endOfMembers blank_nil))), blank_nil⟩
    exact bytesOf_eq _
  have rearranges : Rearranges members others :=
    .trans (.respelled _ _ plainId escapedId) (.added _ _ plainA (by decide))
  obtain ⟨same, response⟩ := decodeFrame_rearranged laid laidOther rearranges
  refine ⟨laid, laidOther, rearranges, same, response.mpr ⟨?_, _, List.mem_singleton_self _, plainId,
    by simp, by simp⟩⟩
  exact ⟨.response ⟨some 1, "", none, none, none⟩, by decide +kernel⟩

end ServerManagement
