import ServerManagement.Proofs.Envelope.FrameShapes
import ServerManagement.Proofs.Server.RecordTypes
import ServerManagement.Proofs.Wire.NamedMembers

/-!
Which payloads of error answers are error objects. Besides objects there are lists of three items,
which give the code, the message and the data by position.
-/

set_option autoImplicit false

namespace ServerManagement

open ServerManagement.Json
open ServerManagement.Wire

/-- The payloads that describe an error. Null is no data, and an object may have other members; a
list says null when there is no data. -/
inductive RemoteError.Describes : Value → RemoteError → Prop
  | object {members : Members} {error : RemoteError}
      (code : members.get? "code" = some (.ofInt error.code.toInt))
      (message : members.get? "message" = some (.text error.message))
      (data : (members.get? "data").getD .null = error.data.getD .null)
      (present : error.data ≠ some .null) : Describes (.object members) error
  | list (error : RemoteError) (present : error.data ≠ some .null) :
      Describes (.array [.ofInt error.code.toInt, .text error.message, error.data.getD .null]) error

theorem RemoteError.gathers_iff {members : Members} {error : RemoteError} :
    Record.Gathers members record.fields record.blank error ↔
      Describes (.object members) error := by
  constructor
  · intro gathers
    obtain ⟨_, code, hasCode, isCode, gathers⟩ := Record.gathers_required_iff.mp gathers
    obtain ⟨_, message, hasMessage, isMessage, gathers⟩ := Record.gathers_required_iff.mp gathers
    obtain ⟨data, isData, gathers⟩ := (Record.gathers_optional_iff (by decide) rfl).mp gathers
    obtain rfl := isExact_int32.mp isCode
    obtain rfl := isExact_text.mp isMessage
    obtain ⟨present, isData⟩ := ofValue_option_value_iff.mp isData
    obtain rfl := Record.gathers_nil_iff.mp gathers
    exact .object hasCode hasMessage isData present
  · intro describes
    cases describes with
    | object code message data present =>
        refine Record.gathers_required_iff.mpr ⟨_, _, code, isExact_int32.mpr rfl, ?_⟩
        refine Record.gathers_required_iff.mpr ⟨_, _, message, isExact_text.mpr rfl, ?_⟩
        refine (Record.gathers_optional_iff (by decide) rfl).mpr ⟨error.data, ?_, .done⟩
        exact ofValue_option_value_iff.mpr ⟨present, data⟩

/-- Only a list of all three fields is an error object. -/
theorem RemoteError.ofValue_list_iff {items : List Value} {error : RemoteError} :
    record.ofValue (.array items) = .ok error ↔ Describes (.array items) error := by
  constructor
  · intro read
    change record.ofPositions items.length 0 record.fields items record.blank = _ at read
    generalize items.length = total at read
    obtain - | ⟨item, items⟩ := items
    · cases (ofPositions_end_iff.mp read).1
    obtain ⟨code, isCode, read⟩ := ofPositions_put_iff.mp read
    obtain - | ⟨item, items⟩ := items
    · cases (ofPositions_end_iff.mp read).1
    obtain ⟨message, isMessage, read⟩ := ofPositions_put_iff.mp read
    obtain - | ⟨item, items⟩ := items
    · cases (ofPositions_end_iff.mp read).1
    obtain ⟨data, isData, read⟩ := ofPositions_put_iff.mp read
    obtain ⟨rfl, rfl⟩ := ofPositions_nil_iff.mp read
    obtain rfl := isExact_int32.mp isCode
    obtain rfl := isExact_text.mp isMessage
    obtain ⟨present, rfl⟩ := ofValue_option_value_iff.mp isData
    exact .list ⟨code, message, data⟩ present
  · intro describes
    cases describes with
    | list error present =>
        refine ofPositions_put_iff.mpr ⟨error.code, isExact_int32.mpr rfl, ?_⟩
        refine ofPositions_put_iff.mpr ⟨error.message, isExact_text.mpr rfl, ?_⟩
        exact ofPositions_put_iff.mpr ⟨_, ofValue_option_value_iff.mpr ⟨present, rfl⟩, rfl⟩

theorem RemoteError.ofValue_iff {payload : Value} (distinct : payload.hasDistinctKeys = true)
    {error : RemoteError} : record.ofValue payload = .ok error ↔ Describes payload error := by
  cases payload with
  | object members =>
      have keys : (members.map Prod.fst).Nodup := by
        rw [Value.hasDistinctKeys, Value.every, Bool.and_eq_true] at distinct
        exact of_decide_eq_true distinct.1
      exact (Record.ofValue_object_iff_gathers (RecordType.isIndependent .remoteError) keys).trans
        gathers_iff
  | array items => exact ofValue_list_iff
  | null | bool | number | text =>
      constructor
      · intro read
        cases read
      · intro describes
        cases describes

/-- The error object of a payload is the one that the payload describes, and there is none for
other payloads; what is written for an error object whose data is not null is one that describes
it. -/
theorem remote_error_found_iff_described {payload : Value}
    (distinct : payload.hasDistinctKeys = true) (error : RemoteError) :
    ((Failure.remote payload).remoteError? = some error ↔ RemoteError.Describes payload error) ∧
      (error.data ≠ some .null →
        (Failure.remote (RemoteError.record.codec.toValue error)).remoteError? = some error) := by
  refine ⟨toOption_eq_some_iff.trans (RemoteError.ofValue_iff distinct), fun present => ?_⟩
  exact toOption_eq_some_iff.mpr ((RecordType.reads_back .remoteError).1 error present).1

/-- Null is no data, and a member of another name is skipped. -/
theorem remote_error_found_iff_described_of_null_data :
    let payload : Value := .object [("code", .ofInt (-1)), ("data", .null), ("extra", .bool true),
      ("message", .text "m")]
    payload.hasDistinctKeys = true ∧ (Failure.remote payload).remoteError? = some ⟨-1, "m", none⟩ ∧
      (Failure.remote (RemoteError.record.codec.toValue ⟨-1, "m", none⟩)).remoteError? =
        some ⟨-1, "m", none⟩ := by
  have distinct : Value.hasDistinctKeys (.object [("code", .ofInt (-1)), ("data", .null),
      ("extra", .bool true), ("message", .text "m")]) = true := by decide
  obtain ⟨found, back⟩ := remote_error_found_iff_described distinct ⟨-1, "m", none⟩
  exact ⟨distinct, found.mpr (.object rfl rfl rfl nofun), back nofun⟩

/-- A list gives an error object. -/
theorem remote_error_found_in_list :
    let payload : Value := .array [.ofInt (-32601), .text "Method not found", .null]
    (∀ members, payload ≠ .object members) ∧
      (Failure.remote payload).remoteError? = some ⟨-32601, "Method not found", none⟩ :=
  ⟨nofun, by decide⟩

end ServerManagement
