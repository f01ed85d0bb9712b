import ServerManagement.Envelope.Payload
import ServerManagement.Proofs.Wire.ReadingBack
import ServerManagement.Proofs.Wire.ReadingThrough

/-!
Which frames are read. Besides objects only lists can be envelopes, those that give the fields of a
response by position; everything else is refused.
-/

set_option autoImplicit false

namespace ServerManagement

open ServerManagement.Json
open ServerManagement.Wire

/-- The lists that are read as a response: its identifier, method, parameters, result and error in
this order, ending after any of them. -/
inductive Response.Listed : List Value → Response → Prop
  | nothing : Listed [] ⟨none, "", none, none, none⟩
  | id (id : Option UInt64) :
      Listed [(Codec.option .uint64).toValue id] ⟨id, "", none, none, none⟩
  | method (id : Option UInt64) (method : String) :
      Listed [(Codec.option .uint64).toValue id, .text method] ⟨id, method, none, none, none⟩
  | params (id : Option UInt64) (method : String) (params : Option (List Value)) :
      Listed [(Codec.option .uint64).toValue id, .text method,
        (Codec.option (.list .value)).toValue params] ⟨id, method, params, none, none⟩
  | result (id : Option UInt64) (method : String) (params : Option (List Value)) (result : Value) :
      Listed [(Codec.option .uint64).toValue id, .text method,
        (Codec.option (.list .value)).toValue params, result] ⟨id, method, params, some result, none⟩
  | error (id : Option UInt64) (method : String) (params : Option (List Value)) (result : Value)
      (error : Option Value) (present : error ≠ some .null) :
      Listed [(Codec.option .uint64).toValue id, .text method,
        (Codec.option (.list .value)).toValue params, result, error.getD .null]
        ⟨id, method, params, some result, error⟩

/-- The message that a frame gives as a list. -/
def Inbound.ListedIn (frame : Bytes) (inbound : Inbound) : Prop :=
  ∃ items response, Value.parse frame = .ok (.array items) ∧ Response.Listed items response ∧
    inbound = .ofResponse response

/-! ## Fields by position -/

theorem isExact_id : (Codec.option .uint64).IsExact := isExact_uint64.option nofun

theorem isExact_params : (Codec.option (.list .value)).IsExact :=
  isExact_value.list.option nofun

theorem ofValue_option_value_iff {value : Value} {error : Option Value} :
    (Codec.option .value).ofValue value = .ok error ↔
      error ≠ some .null ∧ value = error.getD .null := by
  by_cases absent : value = .null
  · subst absent
    cases error with
    | none => exact iff_of_true rfl ⟨nofun, rfl⟩
    | some error =>
        refine iff_of_false nofun fun ⟨present, same⟩ => ?_
        exact present (congrArg some same.symm)
  · change Codec.value.toDecoder.option.ofValue value = _ ↔ _
    rw [ofValue_option_of_present absent]
    cases error with
    | none => exact iff_of_false nofun fun same => absent same.2
    | some error =>
        constructor
        · intro same
          obtain rfl := Option.some.inj (Except.ok.inj same)
          exact ⟨fun null => absent (Option.some.inj null), rfl⟩
        · rintro ⟨_, rfl⟩
          rfl

theorem Response.listed_of_ofValue {items : List Value} {response : Response}
    (read : Response.record.ofValue (.array items) = .ok response) : Response.Listed items response := by
  change Response.record.ofPositions items.length 0 _ items _ = _ at read
  generalize items.length = total at read
  cases items with
  | nil =>
      obtain ⟨_, rfl⟩ := ofPositions_end_iff.mp read
      exact .nothing
  | cons item items =>
  obtain ⟨id, idRead, afterId⟩ := ofPositions_put_iff.mp read
  obtain rfl := isExact_id.mp idRead
  cases items with
  | nil =>
      obtain ⟨_, rfl⟩ := ofPositions_end_iff.mp afterId
      exact .id id
  | cons item items =>
  obtain ⟨method, methodRead, afterMethod⟩ := ofPositions_put_iff.mp afterId
  obtain rfl := isExact_text.mp methodRead
  cases items with
  | nil =>
      obtain ⟨_, rfl⟩ := ofPositions_end_iff.mp afterMethod
      exact .method id method
  | cons item items =>
  obtain ⟨params, paramsRead, afterParams⟩ := ofPositions_put_iff.mp afterMethod
  obtain rfl := isExact_params.mp paramsRead
  cases items with
  | nil =>
      obtain ⟨_, rfl⟩ := ofPositions_end_iff.mp afterParams
      exact .params id method params
  | cons result items =>
  obtain ⟨_, resultRead, afterResult⟩ := ofPositions_put_iff.mp afterParams
  obtain rfl := Except.ok.inj resultRead
  cases items with
  | nil =>
      obtain ⟨_, rfl⟩ := ofPositions_end_iff.mp afterResult
      exact .result id method params result
  | cons item items =>
  obtain ⟨error, errorRead, afterError⟩ := ofPositions_put_iff.mp afterResult
  obtain ⟨present, rfl⟩ := ofValue_option_value_iff.mp errorRead
  obtain ⟨rfl, rfl⟩ := ofPositions_nil_iff.mp afterError
  exact .error id method params result error present

theorem Response.Listed.ofValue {items : List Value} {response : Response}
    (listed : Response.Listed items response) :
    Response.record.ofValue (.array items) = .ok response := by
  change Response.record.ofPositions items.length 0 Response.record.fields items _ = _
  generalize items.length = total
  cases listed with
  | nothing => rfl
  | id id => exact ofPositions_put_iff.mpr ⟨id, isExact_id.mpr rfl, rfl⟩
  | method id method =>
      exact ofPositions_put_iff.mpr ⟨id, isExact_id.mpr rfl, rfl⟩
  | params id method params =>
      refine ofPositions_put_iff.mpr ⟨id, isExact_id.mpr rfl, ?_⟩
      refine ofPositions_put_iff.mpr ⟨method, rfl, ?_⟩
      exact ofPositions_put_iff.mpr ⟨params, isExact_params.mpr rfl, rfl⟩
  | result id method params result =>
      refine ofPositions_put_iff.mpr ⟨id, isExact_id.mpr rfl, ?_⟩
      refine ofPositions_put_iff.mpr ⟨method, rfl, ?_⟩
      exact ofPositions_put_iff.mpr ⟨params, isExact_params.mpr rfl, rfl⟩
  | error id method params result error present =>
      refine ofPositions_put_iff.mpr ⟨id, isExact_id.mpr rfl, ?_⟩
      refine ofPositions_put_iff.mpr ⟨method, rfl, ?_⟩
      refine ofPositions_put_iff.mpr ⟨params, isExact_params.mpr rfl, ?_⟩
      refine ofPositions_put_iff.mpr ⟨some result, rfl, ?_⟩
      exact ofPositions_put_iff.mpr ⟨error, ofValue_option_value_iff.mpr ⟨present, rfl⟩, rfl⟩

/-! ## Frames -/

theorem fieldsReadThrough_response : FieldsReadThrough Response.record.fields :=
  .cons readsThrough_uint64.option (.cons readsThrough_text
    (.cons readsThrough_value.list.option (.cons (readsThrough_value.map some)
      (.cons readsThrough_value.option .nil))))

theorem decodeFrame_eq_ok_iff {frame : Bytes} {inbound : Inbound} :
    decodeFrame frame = .ok inbound ↔
      ∃ response, Response.record.decoder.parse frame = .ok response ∧
        inbound = .ofResponse response := by
  unfold decodeFrame Inbound.parse
  cases Response.record.decoder.parse frame <;> simp [eq_comm]

theorem Inbound.ListedIn.foreign {frame : Bytes} {inbound : Inbound}
    (listed : inbound.ListedIn frame) : ¬OpensObject frame := by
  obtain ⟨items, _, list, _⟩ := listed
  intro opens
  obtain ⟨members, same⟩ := (opensObject_iff list).mp opens
  cases same

/-- A frame that opens no object is a message exactly when it gives one as a list. -/
theorem decodeFrame_iff_listedIn {frame : Bytes} (foreign : ¬OpensObject frame)
    {inbound : Inbound} : decodeFrame frame = .ok inbound ↔ inbound.ListedIn frame := by
  rw [decodeFrame_eq_ok_iff]
  constructor
  · rintro ⟨response, read, rfl⟩
    obtain ⟨items, list, known⟩ :=
      (parse_record_eq_ok_iff fieldsReadThrough_response foreign).mp read
    exact ⟨items, response, list, Response.listed_of_ofValue known, rfl⟩
  · rintro ⟨items, response, list, listed, rfl⟩
    have read := (parse_record_eq_ok_iff fieldsReadThrough_response foreign).mpr
      ⟨items, list, listed.ofValue⟩
    exact ⟨response, read, rfl⟩

end ServerManagement
