import ServerManagement.Notice.Event

/-!
Which notifications are events. A notification that reports an error is none; a signal needs nothing
else, and every other event is the single parameter of its notification.
-/

set_option autoImplicit false

namespace ServerManagement

namespace EventKind

def reading? : EventKind → Option (Json.Value → Option ServerEvent)
  | .playerJoined | .playerLeft =>
    some fun param => (Player.record.decoder.ofValue param).toOption.map .player
  | .serverStatus =>
    some fun param => (ServerState.record.decoder.ofValue param).toOption.map .state
  | .gameRuleUpdated =>
    some fun param => (GameRule.record.decoder.ofValue param).toOption.map .rule
  | .serverStarted | .serverStopping | .serverSaving | .serverSaved => none

/-- The notification reports no error and gives the event. -/
def Gives (kind : EventKind) (notification : Notification) (event : ServerEvent) : Prop :=
  notification.error = none ∧
    match kind.reading? with
    | none => event = .signal
    | some read => ∃ param, notification.params = some [param] ∧ read param = some event

variable {notification : Notification} {event : ServerEvent}

theorem decodeParam_eq_ok_iff {α : Type} {decoder : Wire.Decoder α} {value : α} :
    notification.decodeParam decoder = .ok value ↔
      notification.error = none ∧ ∃ param, notification.params = some [param] ∧
        decoder.ofValue param = .ok value := by
  unfold Notification.decodeParam
  cases error : notification.error with
  | some payload => simp [checkError]
  | none =>
      simp only [checkError, true_and]
      split
      · rename_i param single
        have params : notification.params = some [param] := by
          cases given : notification.params with
          | none => simp [given] at single
          | some params => simpa [given] using single
        simp only [params, decodePart]
        cases read : decoder.ofValue param <;> simp [read]
      · rename_i other
        refine iff_of_false (fun same => by cases same) ?_
        rintro ⟨param, params, _⟩
        exact other param (by rw [params]; rfl)

theorem map_decodeParam_eq_ok_iff {α : Type} {decoder : Wire.Decoder α}
    {wrap : α → ServerEvent} :
    (notification.decodeParam decoder).map wrap = .ok event ↔
      notification.error = none ∧ ∃ param, notification.params = some [param] ∧
        (decoder.ofValue param).toOption.map wrap = some event := by
  have wrapped {ε : Type} (result : Except ε α) :
      result.map wrap = .ok event ↔ ∃ value, result = .ok value ∧ wrap value = event := by
    cases result <;> simp [Except.map]
  have chosen (param : Json.Value) : (decoder.ofValue param).toOption.map wrap = some event ↔
      ∃ value, decoder.ofValue param = .ok value ∧ wrap value = event := by
    cases decoder.ofValue param <;> simp [Except.toOption]
  simp only [wrapped, chosen, decodeParam_eq_ok_iff]
  constructor
  · rintro ⟨value, ⟨error, param, params, read⟩, same⟩
    exact ⟨error, param, params, value, read, same⟩
  · rintro ⟨error, param, params, value, read, same⟩
    exact ⟨value, ⟨error, param, params, read⟩, same⟩

/-- A notification is read as the event that it gives. -/
theorem decode_eq_ok_iff (kind : EventKind) (notification : Notification) (event : ServerEvent) :
    kind.decode notification = .ok event ↔ kind.Gives notification event := by
  cases kind with
  | playerJoined | playerLeft | serverStatus | gameRuleUpdated => exact map_decodeParam_eq_ok_iff
  | serverStarted | serverStopping | serverSaving | serverSaved =>
      simp only [decode, Gives, reading?]
      cases notification.error with
      | none => simp [checkError, Except.map, eq_comm]
      | some payload => simp [checkError, Except.map]

end EventKind

end ServerManagement
