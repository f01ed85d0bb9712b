import ServerManagement.Proofs.Envelope.RoundTrip

/-!
What is written for typed arguments is plain and nests only a few containers, so that a request which
carries it is read back from its text.
-/

set_option autoImplicit false

namespace ServerManagement

open ServerManagement.Json
open ServerManagement.Wire

variable {α R : Type} {depth : Nat}

namespace Wire

def Codec.WritesPlain (codec : Codec α) (depth : Nat) : Prop :=
  ∀ value, (codec.toValue value).IsPlain ∧ (codec.toValue value).depth ≤ depth

def Field.WritesPlain (field : Field R) (depth : Nat) : Prop :=
  ∀ state value, field.write state = some value → value.IsPlain ∧ value.depth ≤ depth

def FieldsPlain (fields : List (Field R)) (depth : Nat) : Prop :=
  ∀ field ∈ fields, field.WritesPlain depth

theorem FieldsPlain.nil : FieldsPlain ([] : List (Field R)) depth := fun _ member => nomatch member

theorem FieldsPlain.cons {field : Field R} {fields : List (Field R)}
    (head : field.WritesPlain depth) (tail : FieldsPlain fields depth) :
    FieldsPlain (field :: fields) depth :=
  List.forall_mem_cons.mpr ⟨head, tail⟩

theorem writesPlain_text (depth : Nat) : Codec.text.WritesPlain depth :=
  fun _ => ⟨⟨rfl, rfl⟩, Nat.zero_le _⟩

theorem writesPlain_bool (depth : Nat) : Codec.bool.WritesPlain depth :=
  fun _ => ⟨⟨rfl, rfl⟩, Nat.zero_le _⟩

theorem writesPlain_int32 (depth : Nat) : Codec.int32.WritesPlain depth := by
  intro value
  have low := value.le_toInt
  have high := value.toInt_lt
  have word : isWord value.toInt = true := isWord_iff.mpr (by omega)
  exact ⟨⟨word, rfl⟩, Nat.zero_le _⟩

theorem Codec.WritesPlain.list {codec : Codec α} (plain : codec.WritesPlain depth) :
    (Codec.list codec).WritesPlain (depth + 1) := by
  intro values
  constructor
  · refine isPlain_array fun item member => ?_
    obtain ⟨value, _, rfl⟩ := List.mem_map.mp member
    exact (plain value).1
  · refine Nat.succ_le_succ (Value.itemsDepth_le_iff.mpr fun item member => ?_)
    obtain ⟨value, _, rfl⟩ := List.mem_map.mp member
    exact (plain value).2

theorem Codec.WritesPlain.listOrNull {codec : Codec α} (plain : codec.WritesPlain depth) :
    (Codec.listOrNull codec).WritesPlain (depth + 1) := plain.list

theorem Codec.WritesPlain.required {name : String} {codec : Codec α} {get : R → α}
    {put : α → R → R} (plain : codec.WritesPlain depth) :
    (Field.required name codec get put).WritesPlain depth := by
  intro state value wrote
  obtain rfl := Option.some.inj wrote
  exact plain _

theorem Codec.WritesPlain.defaulted {name : String} {codec : Codec α} {get : R → α}
    {put : α → R → R} (plain : codec.WritesPlain depth) :
    (Field.defaulted name codec get put).WritesPlain depth := by
  intro state value wrote
  obtain rfl := Option.some.inj wrote
  exact plain _

theorem Codec.WritesPlain.optional {name : String} {codec : Codec α} {get : R → Option α}
    {put : Option α → R → R} {presence : Presence} (plain : codec.WritesPlain depth) :
    (Field.optional name codec get put presence).WritesPlain depth := by
  intro state value wrote
  obtain ⟨part, _, rfl⟩ := Option.map_eq_some_iff.mp wrote
  exact plain part

/-- The members of a written record are those that its fields write, by ascending name. -/
theorem Record.members_toValue (record : Record R) (names : (record.fields.map Field.name).Nodup)
    (state : R) :
    ∃ members, record.codec.toValue state = .object members ∧
      members.Perm (record.members state) ∧ (members.map Prod.fst).Pairwise (· < ·) := by
  have distinct := Record.nodup_keys_members names state
  exact ⟨_, Members.ofMembers_eq _, Members.insertAll_nil_perm distinct,
    Members.ascending_insertAll .nil _⟩

theorem Record.writesPlain {record : Record R} (independent : record.IsIndependent)
    (plain : FieldsPlain record.fields depth) :
    record.codec.WritesPlain (depth + 1) := by
  intro state
  obtain ⟨members, same, moved, ascending⟩ := record.members_toValue independent.names state
  have each : ∀ member ∈ members, member.2.IsPlain ∧ member.2.depth ≤ depth := by
    intro member inside
    obtain ⟨field, known, wrote⟩ := List.mem_filterMap.mp (moved.subset inside)
    obtain ⟨value, found, rfl⟩ := Option.map_eq_some_iff.mp wrote
    exact plain field known state value found
  rw [same]
  refine ⟨⟨?_, ?_⟩, Nat.succ_le_succ (Value.membersDepth_le_iff.mpr fun member inside =>
    (each member inside).2)⟩
  · rw [Value.hasWords, Value.every, Bool.true_and, Value.everyMember_iff]
    exact fun member inside => (each member inside).1.words
  · rw [Value.isSorted, Value.every, Bool.and_eq_true, Value.everyMember_iff]
    exact ⟨decide_eq_true ascending, fun member inside => (each member inside).1.sorted⟩

end Wire

/-! ## Record types -/

theorem writesPlain_uuid (depth : Nat) : Uuid.codec.WritesPlain depth :=
  fun _ => ⟨⟨rfl, rfl⟩, Nat.zero_le _⟩

theorem writesPlain_player (depth : Nat) : Player.record.codec.WritesPlain (depth + 1) :=
  Record.writesPlain (RecordType.isIndependent .player)
    (.cons (writesPlain_text _).required (.cons (writesPlain_uuid _).optional .nil))

theorem writesPlain_message (depth : Nat) : Message.record.codec.WritesPlain (depth + 2) :=
  Record.writesPlain (RecordType.isIndependent .message)
    (.cons (writesPlain_text _).defaulted (.cons (writesPlain_text depth).list.defaulted
      (.cons (writesPlain_text _).defaulted .nil)))

theorem writesPlain_kick (depth : Nat) : Kick.record.codec.WritesPlain (depth + 3) :=
  Record.writesPlain (RecordType.isIndependent .kick)
    (.cons (writesPlain_player _).required (.cons (writesPlain_message depth).required .nil))

theorem writesPlain_systemMessage (depth : Nat) :
    SystemMessage.record.codec.WritesPlain (depth + 3) :=
  Record.writesPlain (RecordType.isIndependent .systemMessage)
    (.cons (writesPlain_player depth).listOrNull.defaulted (.cons (writesPlain_bool _).required
      (.cons (writesPlain_message depth).required .nil)))

theorem writesPlain_playerBan (depth : Nat) : PlayerBan.record.codec.WritesPlain (depth + 2) :=
  Record.writesPlain (RecordType.isIndependent .playerBan)
    (.cons (writesPlain_text _).defaulted (.cons (writesPlain_text _).defaulted
      (.cons (writesPlain_text _).defaulted (.cons (writesPlain_player depth).required .nil))))

theorem writesPlain_addressBan (depth : Nat) : AddressBan.record.codec.WritesPlain (depth + 1) :=
  Record.writesPlain (RecordType.isIndependent .addressBan)
    (.cons (writesPlain_text _).defaulted (.cons (writesPlain_text _).defaulted
      (.cons (writesPlain_text _).required (.cons (writesPlain_text _).defaulted .nil))))

theorem writesPlain_newAddressBan (depth : Nat) :
    NewAddressBan.record.codec.WritesPlain (depth + 2) :=
  Record.writesPlain (RecordType.isIndependent .newAddressBan)
    (.cons (writesPlain_text _).defaulted (.cons (writesPlain_text _).defaulted
      (.cons (writesPlain_text _).required (.cons (writesPlain_text _).defaulted
        (.cons (writesPlain_player depth).defaulted .nil)))))

theorem writesPlain_operator (depth : Nat) : Operator.record.codec.WritesPlain (depth + 2) :=
  Record.writesPlain (RecordType.isIndependent .operator)
    (.cons (writesPlain_int32 _).required (.cons (writesPlain_bool _).required
      (.cons (writesPlain_player depth).required .nil)))

theorem writesPlain_gameRule (depth : Nat) : GameRule.record.codec.WritesPlain (depth + 1) := by
  refine Record.writesPlain (RecordType.isIndependent .gameRule)
    (.cons (fun rule value wrote => ?_)
      (.cons (writesPlain_text _).required (.cons (writesPlain_text _).required .nil)))
  dsimp only at wrote
  split at wrote
  · cases wrote
  · obtain rfl := Option.some.inj wrote
    exact ⟨⟨rfl, rfl⟩, Nat.zero_le _⟩

/-! ## Texts of records -/

/-- The texts in which a record is written: its members in the order of its fields, and by ascending
name. -/
def Wire.Record.texts (record : Record R) (state : R) : List String :=
  [record.render state, (record.codec.toValue state).render]

/-- The members of a plain record, in whichever order, are plain and nest no deeper. -/
theorem Wire.Codec.WritesPlain.members {record : Record R} (plain : record.codec.WritesPlain depth)
    (names : (record.fields.map Field.name).Nodup) (state : R) :
    (∀ member ∈ record.members state, member.2.IsPlain) ∧
      (Value.object (record.members state)).depth ≤ depth := by
  obtain ⟨members, same, moved, _⟩ := record.members_toValue names state
  obtain ⟨⟨words, sorted⟩, deep⟩ := plain state
  rw [same, Value.hasWords, Value.every, Bool.and_eq_true, Value.everyMember_iff] at words
  rw [same, Value.isSorted, Value.every, Bool.and_eq_true, Value.everyMember_iff] at sorted
  have shallow : Value.membersDepth (record.members state) ≤ Value.membersDepth members :=
    Value.membersDepth_le_iff.mpr fun member inside =>
      Value.membersDepth_le_iff.mp (Nat.le_refl _) member (moved.symm.subset inside)
  rw [same, Value.depth] at deep
  exact ⟨fun member inside =>
    have moved := moved.symm.subset inside
    ⟨words.2 member moved, sorted.2 member moved⟩, by rw [Value.depth]; omega⟩

/-- Both texts of a plain record are read back as the record. -/
theorem RecordType.parse_of_mem_texts (type : RecordType) {state : type.Carrier}
    (canonical : type.IsCanonical state) (plain : type.record.codec.WritesPlain depth)
    (shallow : depth ≤ frameBudget) {text : String} (member : text ∈ type.record.texts state) :
    type.record.decoder.parse (bytesOf text) = .ok state := by
  have restores := type.restores state canonical
  rcases List.mem_cons.mp member with rfl | member
  · obtain ⟨each, deep⟩ := plain.members type.isIndependent.names state
    exact Record.parse_render type.isIndependent type.agrees restores each
      (Nat.le_trans deep shallow)
  · obtain rfl := List.mem_singleton.mp member
    obtain ⟨whole, deep⟩ := plain state
    refine type.agrees.parse_eq_ok (Value.denotes_render whole.words)
      (Value.hasDistinctKeys_of_isSorted whole.sorted) (Nat.le_trans deep shallow) ?_
    rw [Value.sorted_of_isSorted whole.sorted]
    exact Record.ofValue_toValue type.isIndependent restores

/-! ## Frames with one payload -/

/-- A request made of one plain parameter is read back from its text. -/
theorem Request.parse_render_one {id : UInt64} {method : String} {element : Value}
    {request : Request} (created : Request.create id method (.ok (.array [element])) = .ok request)
    (plain : element.IsPlain) (shallow : element.depth ≤ 8) :
    Request.record.decoder.parse (bytesOf request.render) = .ok request ∧
      request.method = method ∧ request.params = some [element] := by
  obtain rfl := Except.ok.inj created
  refine ⟨Request.parse_render (fun item member => List.mem_singleton.mp member ▸ plain) ?_,
    rfl, rfl⟩
  have members : Request.record.members ⟨id, method, some [element]⟩ =
      [("id", .ofNat id.toNat), ("method", .text method), ("params", .array [element])] := rfl
  rw [members]
  simp only [Value.depth, Value.membersDepth, Value.itemsDepth, Value.ofNat, Value.ofInt,
    frameBudget]
  omega

/-- A response without error whose result is plain is read back from its frame. -/
theorem Response.decodeFrame_success {id : UInt64} {result : Value} (nonzero : id ≠ 0)
    (plain : result.IsPlain) (shallow : result.depth ≤ 8) :
    decodeFrame (bytesOf (Response.record.render (.success id result))) =
      .ok (.response (.success id result)) := by
  have members : Response.record.members (.success id result) =
      [("id", .ofNat id.toNat), ("method", .text ""), ("result", result)] := rfl
  have payloads : (Response.success id result).payloads = [result] := rfl
  rw [decodeFrame_response (.success id result) nofun, Inbound.ofResponse_of_nonzero rfl nonzero]
  · rw [payloads]
    exact fun value member => List.mem_singleton.mp member ▸ plain
  · rw [members]
    simp only [Value.depth, Value.membersDepth, Value.ofNat, Value.ofInt]
    omega

end ServerManagement
