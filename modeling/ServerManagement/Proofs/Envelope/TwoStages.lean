import ServerManagement.Proofs.Envelope.FrameShapes
import ServerManagement.Proofs.Json.Printing
import ServerManagement.Proofs.Server.RecordTypes

/-!
A payload may be read straight from its text, or out of an envelope that was read before. Nothing is
lost on the way: both give the same value, or both fail.
-/

set_option autoImplicit false

namespace ServerManagement

open ServerManagement.Json
open ServerManagement.Wire

/-! ## Types of payloads -/

inductive WireType where
  | unit
  | bool
  | int32
  | int64
  | uint32
  | uint64
  | text
  | value
  | uuid
  | ruleType
  | record (type : RecordType)
  | option (inner : WireType)
  | list (item : WireType)
  | pair (first second : WireType)
deriving DecidableEq, Repr

namespace WireType

abbrev Carrier : WireType → Type
  | .unit => Unit
  | .bool => Bool
  | .int32 => Int32
  | .int64 => Int64
  | .uint32 => UInt32
  | .uint64 => UInt64
  | .text => String
  | .value => Value
  | .uuid => Uuid
  | .ruleType => GameRuleType
  | .record type => type.Carrier
  | .option inner => Option inner.Carrier
  | .list item => List item.Carrier
  | .pair first second => first.Carrier × second.Carrier

def codec : (type : WireType) → Codec type.Carrier
  | .unit => Codec.unit
  | .bool => Codec.bool
  | .int32 => Codec.int32
  | .int64 => Codec.int64
  | .uint32 => Codec.uint32
  | .uint64 => Codec.uint64
  | .text => Codec.text
  | .value => Codec.value
  | .uuid => Uuid.codec
  | .ruleType => GameRuleType.codec
  | .record type => type.record.codec
  | .option inner => Codec.option inner.codec
  | .list item => Codec.list item.codec
  | .pair first second => Codec.pair first.codec second.codec

theorem agrees : (type : WireType) → type.codec.Agrees
  | .unit => agrees_unit
  | .bool => agrees_bool
  | .int32 => agrees_int32
  | .int64 => agrees_int64
  | .uint32 => agrees_uint32
  | .uint64 => agrees_uint64
  | .text => agrees_text
  | .value => agrees_value
  | .uuid => agrees_uuid
  | .ruleType => agrees_ruleType
  | .record type => type.agrees
  | .option inner => inner.agrees.option
  | .list item => item.agrees.list
  | .pair first second => agrees_pair first.agrees second.agrees

end WireType

/-! ## Frames around a payload -/

def resultFrame (payload : Bytes) : Bytes :=
  bytesOf r#"{"id":1,"result":"# ++ (payload ++ bytesOf r"}")

def noticeFrame (method : String) (payload : Bytes) : Bytes :=
  bytesOf r#"{"method":"# ++ (bytesOf (Value.text method).render ++
    (bytesOf r#","params":["# ++ (payload ++ bytesOf r"]}")))

theorem denotes_resultFrame {payload : Bytes} {tree : Value} (denotes : Denotes payload tree) :
    Denotes (resultFrame payload) (.object [("id", .ofNat 1), ("result", tree)]) := by
  obtain ⟨before, used, after, rfl, blankBefore, spells, blankAfter⟩ := denotes
  have start : bytesOf r#"{"id":1,"result":"# =
      0x7B :: 0x22 :: (printedTail "id" ++ 0x3A :: 0x31 :: 0x2C :: 0x22 ::
        (printedTail "result" ++ [0x3A])) := by
    rw [bytesOf_eq]
    rfl
  have finish : bytesOf r"}" = [0x7D] := by
    rw [bytesOf_eq]
    rfl
  have digit : bytesOfChars (Value.ofNat 1).chars = [0x31] := by
    change bytesOfChars (Decimal.digits 1) = [0x31]
    rw [Decimal.digits]
    rfl
  have one : Spells [0x31] (.value (.ofNat 1)) := digit ▸ spells_chars (by decide)
  have members := Spells.member (.first blank_nil) (spelling_printedTail "id") blank_nil blank_nil one
    (.member (.comma blank_nil blank_nil) (spelling_printedTail "result") blank_nil blankBefore spells
      (.endOfMembers blankAfter))
  refine ⟨[], _, [], ?_, blank_nil, .object members, blank_nil⟩
  simp only [resultFrame, start, finish, List.append_assoc, List.cons_append, List.nil_append,
    List.append_nil]

theorem denotes_noticeFrame (method : String) {payload : Bytes} {tree : Value}
    (denotes : Denotes payload tree) :
    Denotes (noticeFrame method payload)
      (.object [("method", .text method), ("params", .array [tree])]) := by
  obtain ⟨before, used, after, rfl, blankBefore, spells, blankAfter⟩ := denotes
  have start : bytesOf r#"{"method":"# = 0x7B :: 0x22 :: (printedTail "method" ++ [0x3A]) := by
    rw [bytesOf_eq]
    rfl
  have named : bytesOf (Value.text method).render = 0x22 :: printedTail method := by
    rw [Value.render, bytesOf_ofList, Value.chars, bytesOfChars_stringChars]
  have between : bytesOf r#","params":["# =
      0x2C :: 0x22 :: (printedTail "params" ++ [0x3A, 0x5B]) := by
    rw [bytesOf_eq]
    rfl
  have finish : bytesOf r"]}" = [0x5D, 0x7D] := by
    rw [bytesOf_eq]
    rfl
  have text : Spells (0x22 :: printedTail method) (.value (.text method)) :=
    .scalar (.text (spelling_printedTail method))
  have items := Spells.list (.item (.first blankBefore) spells (.endOfItems blankAfter))
  have members := Spells.member (.first blank_nil) (spelling_printedTail "method") blank_nil blank_nil
    text (.member (.comma blank_nil blank_nil) (spelling_printedTail "params") blank_nil blank_nil
      items (.endOfMembers blank_nil))
  refine ⟨[], _, [], ?_, blank_nil, .object members, blank_nil⟩
  simp only [noticeFrame, start, named, between, finish, List.append_assoc, List.cons_append,
    List.nil_append, List.append_nil]

/-! ## Both ways -/

/-- The members of an object that stand by ascending key are read in that order. -/
theorem ofValue_sorted_object {R : Type} (record : Record R) (members : Members)
    (ascending : (members.map Prod.fst).Pairwise (· < ·)) :
    record.ofValue (Value.object members).sorted =
      record.ofValue (.object (Value.sortedMembers members)) := by
  have keys := Value.keys_sortedMembers members
  have same : Members.insertAll (Value.sortedMembers members) [] = Value.sortedMembers members :=
    Members.insertAll_of_ascending (by rwa [List.nil_append, keys])
  rw [Value.sorted, Members.ofMembers_eq, same]

theorem decodeFrame_resultFrame {payload : Bytes} {tree : Value} (denotes : Denotes payload tree)
    (distinct : tree.hasDistinctKeys = true) (shallow : tree.depth + 1 ≤ frameBudget) :
    decodeFrame (resultFrame payload) = .ok (.response ⟨some 1, "", none, some tree.sorted, none⟩) := by
  have ascending : ["id", "result"].Pairwise (· < ·) := by decide
  have read : Response.record.decoder.parse (resultFrame payload) =
      .ok ⟨some 1, "", none, some tree.sorted, none⟩ := by
    refine (RecordType.agrees .response).parse_eq_ok (denotes_resultFrame denotes) ?_ ?_ ?_
    · simpa [Value.hasDistinctKeys, Value.every, Value.everyMember, Value.ofNat, Value.ofInt]
        using distinct
    · have deep : (Value.object [("id", .ofNat 1), ("result", tree)]).depth = tree.depth + 1 := by
        simp [Value.depth, Value.membersDepth, Value.ofNat, Value.ofInt]
      exact deep ▸ shallow
    · exact ofValue_sorted_object Response.record [("id", .ofNat 1), ("result", tree)] ascending
  exact decodeFrame_eq_ok_iff.mpr ⟨_, read, rfl⟩

theorem decodeFrame_noticeFrame (method : String) {payload : Bytes} {tree : Value}
    (denotes : Denotes payload tree) (distinct : tree.hasDistinctKeys = true)
    (shallow : tree.depth + 2 ≤ frameBudget) :
    decodeFrame (noticeFrame method payload) =
      .ok (.notification ⟨method, some [tree.sorted], none⟩) := by
  have ascending : ["method", "params"].Pairwise (· < ·) := by decide
  have read : Response.record.decoder.parse (noticeFrame method payload) =
      .ok ⟨none, method, some [tree.sorted], none, none⟩ := by
    refine (RecordType.agrees .response).parse_eq_ok (denotes_noticeFrame method denotes) ?_ ?_ ?_
    · simpa [Value.hasDistinctKeys, Value.every, Value.everyMember, Value.everyItem] using distinct
    · have deep : (Value.object [("method", .text method), ("params", .array [tree])]).depth =
          tree.depth + 2 := by simp [Value.depth, Value.membersDepth, Value.itemsDepth]
      exact deep ▸ shallow
    · exact ofValue_sorted_object Response.record [("method", .text method), ("params", .array [tree])]
        ascending
  exact decodeFrame_eq_ok_iff.mpr ⟨_, read, rfl⟩

theorem toOption_decodePart {α : Type} (decoder : Decoder α) (part : String) (payload : Value) :
    (decodePart decoder part payload).toOption = (decoder.ofValue payload).toOption := by
  unfold decodePart
  cases decoder.ofValue payload <;> rfl

/-- A payload that is read straight from its text, out of a response and out of a notification gives
the same value each time, or fails each time. The texts that denote a value are those that are read as
one, by `Value.parse_eq_ok_iff`. -/
theorem WireType.two_stages_agree (type : WireType) (method : String) {payload : Bytes}
    {tree : Value} (denotes : Denotes payload tree) (distinct : tree.hasDistinctKeys = true)
    (shallow : tree.depth < 126) :
    ∃ response notification,
      decodeFrame (resultFrame payload) = .ok (.response response) ∧
      decodeFrame (noticeFrame method payload) = .ok (.notification notification) ∧
      (response.decodeResult type.codec.toDecoder).toOption =
        (type.codec.parse payload).toOption ∧
      (notification.decodeParam type.codec.toDecoder).toOption =
        (type.codec.parse payload).toOption := by
  have budget : frameBudget = 127 := rfl
  refine ⟨⟨some 1, "", none, some tree.sorted, none⟩, ⟨method, some [tree.sorted], none⟩,
    decodeFrame_resultFrame denotes distinct (by omega),
    decodeFrame_noticeFrame method denotes distinct (by omega), ?_⟩
  have direct := type.agrees.parse denotes distinct (by omega)
  rw [direct]
  exact ⟨toOption_decodePart _ _ _, toOption_decodePart _ _ _⟩

theorem WireType.two_stages_agree_player :
    Player.record.decoder.parse (bytesOf (Value.object [("name", .text "Alex")]).render) =
        .ok ⟨"Alex", none⟩ ∧
      ∃ response notification,
        decodeFrame (resultFrame (bytesOf (Value.object [("name", .text "Alex")]).render)) =
          .ok (.response response) ∧
        decodeFrame (noticeFrame "joined" (bytesOf (Value.object [("name", .text "Alex")]).render)) =
          .ok (.notification notification) ∧
        (response.decodeResult Player.record.decoder).toOption =
          (Player.record.decoder.parse
            (bytesOf (Value.object [("name", .text "Alex")]).render)).toOption ∧
        (notification.decodeParam Player.record.decoder).toOption =
          (Player.record.decoder.parse
            (bytesOf (Value.object [("name", .text "Alex")]).render)).toOption :=
  ⟨agrees_player.parse_eq_ok (Value.denotes_render rfl) rfl (by decide) rfl,
    two_stages_agree (.record .player) "joined" (Value.denotes_render rfl) rfl (by decide)⟩

end ServerManagement
