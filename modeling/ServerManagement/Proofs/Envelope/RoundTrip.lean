import ServerManagement.Proofs.Envelope.FrameShapes
import ServerManagement.Proofs.Json.Printing
import ServerManagement.Proofs.Server.RecordTypes

/-!
Frames that are written are read back: requests as responses without an outcome, responses and
notifications as they were.
-/

set_option autoImplicit false

namespace ServerManagement

open ServerManagement.Json
open ServerManagement.Wire

/-! ## Records -/

theorem denotes_renderInOrder {members : Members}
    (words : ∀ member ∈ members, member.2.hasWords = true) :
    Denotes (bytesOf (renderInOrder members)) (.object members) := by
  have every : (Value.object members).hasWords = true := by
    rw [Value.hasWords, Value.every, Bool.true_and, Value.everyMember_iff]
    exact words
  exact Value.denotes_render every

/-- A record all of whose values are plain is read back from its text, as long as a frame may nest
that deep. -/
theorem Record.parse_render {R : Type} {record : Record R} (independent : record.IsIndependent)
    (agrees : record.decoder.Agrees) {goal : R}
    (restores : Record.Restores goal record.fields record.blank)
    (plain : ∀ member ∈ record.members goal, member.2.IsPlain)
    (shallow : (Value.object (record.members goal)).depth ≤ frameBudget) :
    record.decoder.parse (bytesOf (record.render goal)) = .ok goal := by
  have denotes := denotes_renderInOrder fun member inside => (plain member inside).words
  have distinct : (Value.object (record.members goal)).hasDistinctKeys = true := by
    rw [Value.hasDistinctKeys, Value.every, Bool.and_eq_true, Value.everyMember_iff]
    exact ⟨decide_eq_true (Record.nodup_keys_members independent.names goal),
      fun member inside => Value.hasDistinctKeys_of_isSorted (plain member inside).sorted⟩
  have sorted : (Value.object (record.members goal)).sorted = record.codec.toValue goal := by
    have same : Value.sortedMembers (record.members goal) = record.members goal := by
      rw [Value.sortedMembers_eq_map]
      refine (List.map_congr_left fun member inside => ?_).trans (List.map_id _)
      exact Prod.ext rfl (Value.sorted_of_isSorted (plain member inside).sorted)
    rw [Value.sorted, same]
    rfl
  exact agrees.parse_eq_ok denotes distinct shallow
    (sorted ▸ Record.ofValue_toValue independent restores)

/-! ## Envelopes -/

/-- The values of a response that come from outside. -/
def Response.payloads (response : Response) : List Value :=
  response.params.getD [] ++ (response.result.toList ++ response.error.toList)

def Notification.payloads (notification : Notification) : List Value :=
  notification.params.getD [] ++ notification.error.toList

theorem isPlain_id (id : UInt64) : (Codec.uint64.toValue id).IsPlain := by
  have high := id.toNat_lt
  have word : isWord id.toNat = true := isWord_iff.mpr (by omega)
  exact ⟨word, rfl⟩

theorem isPlain_array {items : List Value} (plain : ∀ item ∈ items, item.IsPlain) :
    (Value.array items).IsPlain := by
  constructor
  · rw [Value.hasWords, Value.every, Value.everyItem_iff]
    exact fun item member => (plain item member).words
  · rw [Value.isSorted, Value.every, Value.everyItem_iff]
    exact fun item member => (plain item member).sorted

theorem isPlain_members {R : Type} {record : Record R} {goal : R}
    (plain : ∀ field ∈ record.fields, ∀ value, field.write goal = some value → value.IsPlain) :
    ∀ member ∈ record.members goal, member.2.IsPlain := by
  intro member inside
  obtain ⟨field, known, wrote⟩ := List.mem_filterMap.mp inside
  obtain ⟨value, found, rfl⟩ := Option.map_eq_some_iff.mp wrote
  exact plain field known value found

theorem Response.isPlain_members {response : Response}
    (plain : ∀ value ∈ response.payloads, value.IsPlain) :
    ∀ member ∈ Response.record.members response, member.2.IsPlain := by
  obtain ⟨id, method, params, result, error⟩ := response
  simp only [payloads, List.forall_mem_append] at plain
  obtain ⟨plainParams, plainResult, plainError⟩ := plain
  refine ServerManagement.isPlain_members ?_
  refine List.forall_mem_cons.mpr ⟨fun value wrote => ?_, List.forall_mem_cons.mpr
    ⟨fun value wrote => ?_, List.forall_mem_cons.mpr ⟨fun value wrote => ?_,
      List.forall_mem_cons.mpr ⟨fun value wrote => ?_, List.forall_mem_cons.mpr
        ⟨fun value wrote => ?_, nofun⟩⟩⟩⟩⟩
  · obtain ⟨id, _, rfl⟩ := Option.map_eq_some_iff.mp wrote
    exact isPlain_id id
  · obtain rfl := Option.some.inj wrote
    exact ⟨rfl, rfl⟩
  · obtain ⟨params, rfl, rfl⟩ := Option.map_eq_some_iff.mp wrote
    refine isPlain_array fun item member => ?_
    obtain ⟨item, inside, rfl⟩ := List.mem_map.mp member
    exact plainParams item inside
  · exact plainResult value (Option.mem_toList.mpr wrote)
  · obtain ⟨error, rfl, rfl⟩ := Option.map_eq_some_iff.mp wrote
    exact plainError error (List.mem_singleton_self error)

theorem Response.parse_render {response : Response} (canonical : response.error ≠ some .null)
    (plain : ∀ value ∈ response.payloads, value.IsPlain)
    (shallow : (Value.object (Response.record.members response)).depth ≤ frameBudget) :
    Response.record.decoder.parse (bytesOf (Response.record.render response)) = .ok response :=
  Record.parse_render (RecordType.isIndependent .response) (RecordType.agrees .response)
    (Response.restores canonical) (Response.isPlain_members plain) shallow

def Request.asResponse (request : Request) : Response :=
  ⟨some request.id, request.method, request.params, none, none⟩

def Notification.asResponse (notification : Notification) : Response :=
  ⟨none, notification.method, notification.params, none, notification.error⟩

theorem Request.members_eq (request : Request) :
    Request.record.members request = Response.record.members request.asResponse := by
  obtain ⟨id, method, params⟩ := request
  cases params <;> rfl

theorem Notification.members_eq (notification : Notification) :
    Notification.record.members notification =
      Response.record.members notification.asResponse := by
  obtain ⟨method, params, error⟩ := notification
  cases params <;> cases error <;> rfl

theorem Inbound.ofResponse_of_nonzero {response : Response} {id : UInt64}
    (named : response.id = some id) (nonzero : id ≠ 0) :
    Inbound.ofResponse response = .response response := by
  simp only [Inbound.ofResponse, named, if_neg nonzero]

theorem decodeFrame_response (response : Response) (canonical : response.error ≠ some .null)
    (plain : ∀ value ∈ response.payloads, value.IsPlain)
    (shallow : (Value.object (Response.record.members response)).depth < 128) :
    decodeFrame (bytesOf (Response.record.render response)) = .ok (.ofResponse response) :=
  decodeFrame_eq_ok_iff.mpr
    ⟨response, Response.parse_render canonical plain (Nat.le_of_lt_succ shallow), rfl⟩

theorem Request.payloads_asResponse (request : Request) :
    request.asResponse.payloads = request.params.getD [] := List.append_nil _

theorem Request.parse_render {request : Request}
    (plain : ∀ item ∈ request.params.getD [], item.IsPlain)
    (shallow : (Value.object (Request.record.members request)).depth ≤ frameBudget) :
    Request.record.decoder.parse (bytesOf request.render) = .ok request := by
  rw [← request.payloads_asResponse] at plain
  have members : ∀ member ∈ Request.record.members request, member.2.IsPlain :=
    request.members_eq ▸ Response.isPlain_members plain
  exact Record.parse_render (RecordType.isIndependent .request) (RecordType.agrees .request)
    (RecordType.restores .request request trivial) members shallow

theorem decodeFrame_request {request : Request} (nonzero : request.id ≠ 0)
    (plain : ∀ item ∈ request.params.getD [], item.IsPlain)
    (shallow : (Value.object (Request.record.members request)).depth < 128) :
    decodeFrame (bytesOf request.render) = .ok (.response request.asResponse) := by
  have same : request.render = Response.record.render request.asResponse :=
    congrArg renderInOrder request.members_eq
  have canonical : request.asResponse.error ≠ some .null := nofun
  rw [← request.payloads_asResponse] at plain
  rw [Request.members_eq] at shallow
  rw [same, decodeFrame_response _ canonical plain shallow,
    Inbound.ofResponse_of_nonzero rfl nonzero]

theorem decodeFrame_notification {notification : Notification}
    (canonical : notification.error ≠ some .null)
    (plain : ∀ value ∈ notification.payloads, value.IsPlain)
    (shallow : (Value.object (Notification.record.members notification)).depth < 128) :
    decodeFrame (bytesOf (Notification.record.render notification)) =
      .ok (.notification notification) := by
  have same : Notification.record.render notification =
      Response.record.render notification.asResponse :=
    congrArg renderInOrder notification.members_eq
  rw [Notification.members_eq] at shallow
  rw [same, decodeFrame_response notification.asResponse canonical plain shallow]
  rfl

/-- What is sent is what is read: requests come back as responses without an outcome, responses and
notifications as they were, a null result among them. -/
theorem frames_round_trip :
    (∀ (id : UInt64) (method : String) (items : List Value), id ≠ 0 → items ≠ [] →
      (∀ item ∈ items, item.IsPlain) → (Value.array items).depth + 1 < 128 →
      ∃ request, Request.create id method (.ok (.array items)) = .ok request ∧
        decodeFrame (bytesOf request.render) =
          .ok (.response ⟨some id, method, some items, none, none⟩)) ∧
    (∀ (id : UInt64) (method : String) (params : Value), id ≠ 0 →
      params = .null ∨ params = .array [] →
      ∃ request, Request.create id method (.ok params) = .ok request ∧
        decodeFrame (bytesOf request.render) = .ok (.response ⟨some id, method, none, none, none⟩)) ∧
    (∀ (response : Response) (id : UInt64), response.id = some id → id ≠ 0 →
      response.error ≠ some .null → (∀ value ∈ response.payloads, value.IsPlain) →
      (Value.object (Response.record.members response)).depth < 128 →
      decodeFrame (bytesOf (Response.record.render response)) = .ok (.response response)) ∧
    ∀ notification : Notification, notification.error ≠ some .null →
      (∀ value ∈ notification.payloads, value.IsPlain) →
      (Value.object (Notification.record.members notification)).depth < 128 →
      decodeFrame (bytesOf (Notification.record.render notification)) =
        .ok (.notification notification) := by
  refine ⟨?_, ?_, ?_, fun notification => decodeFrame_notification⟩
  · intro id method items nonzero filled plain shallow
    have created : Request.create id method (.ok (.array items)) = .ok ⟨id, method, some items⟩ := by
      cases items with
      | nil => exact absurd rfl filled
      | cons item items => rfl
    refine ⟨_, created, decodeFrame_request nonzero plain ?_⟩
    have written : (Codec.list Codec.value).toValue items = .array items :=
      congrArg Value.array (List.map_id items)
    have members : Request.record.members ⟨id, method, some items⟩ =
        [("id", .ofNat id.toNat), ("method", .text method), ("params", .array items)] := by
      rw [← written]
      rfl
    rw [members]
    simpa [Value.depth, Value.membersDepth, Value.ofNat, Value.ofInt] using shallow
  · intro id method params nonzero empty
    have created : Request.create id method (.ok params) = .ok ⟨id, method, none⟩ := by
      rcases empty with rfl | rfl <;> rfl
    have flat : (Value.object (Request.record.members ⟨id, method, none⟩)).depth = 1 := rfl
    exact ⟨_, created, decodeFrame_request nonzero (fun _ member => absurd member List.not_mem_nil)
      (flat ▸ by decide)⟩
  · intro response id named nonzero canonical plain shallow
    rw [decodeFrame_response response canonical plain shallow,
      Inbound.ofResponse_of_nonzero named nonzero]

theorem frames_round_trip_null :
    decodeFrame (bytesOf (Response.record.render ⟨some 7, "", none, some .null, none⟩)) =
        .ok (.response ⟨some 7, "", none, some .null, none⟩) ∧
      decodeFrame (bytesOf (Notification.record.render ⟨"saved", some [.bool true], none⟩)) =
        .ok (.notification ⟨"saved", some [.bool true], none⟩) := by
  refine ⟨frames_round_trip.2.2.1 ⟨some 7, "", none, some .null, none⟩ 7 rfl (by decide) nofun ?_
      (by decide),
    frames_round_trip.2.2.2 ⟨"saved", some [.bool true], none⟩ nofun ?_ (by decide)⟩
  · exact fun value member => List.mem_singleton.mp member ▸ ⟨rfl, rfl⟩
  · exact fun value member => List.mem_singleton.mp member ▸ ⟨rfl, rfl⟩

end ServerManagement
