import Mathlib.Data.List.Forall2
import ServerManagement.Envelope.Payload
import ServerManagement.Proofs.Wire.RecordValues

/-!
Typed results and parameters. A message is judged in one order: a remote error first, then what is
missing, then the types. A list of parameters is read as each of them would be read alone.
-/

set_option autoImplicit false

namespace ServerManagement

open ServerManagement.Json
open ServerManagement.Wire

variable {α : Type} {decoder : Decoder α}

/-! ## The order of judgement -/

/-- What becomes of a payload that is there: all of it is read, or its first misfit is reported. -/
inductive PayloadGives (decoder : Decoder α) (part : String) (payload : Value) :
    Except Failure α → Prop
  | misfit {cause : Mismatch} (refused : decoder.ofValue payload = .error cause) :
      PayloadGives decoder part payload (.error (.decodeOf part cause.message))
  | value {value : α} (fits : decoder.ofValue payload = .ok value) :
      PayloadGives decoder part payload (.ok value)

/-- What the result of a response gives. Null is a result like any other. -/
inductive Response.Gives (decoder : Decoder α) (response : Response) : Except Failure α → Prop
  | remote {payload : Value} (failed : response.error = some payload) :
      Gives decoder response (.error (.remote payload))
  | missing (sound : response.error = none) (absent : response.result = none) :
      Gives decoder response (.error .noResult)
  | result {payload : Value} {outcome : Except Failure α} (sound : response.error = none)
      (present : response.result = some payload)
      (gives : PayloadGives decoder "result" payload outcome) : Gives decoder response outcome

inductive Notification.GivesOne (decoder : Decoder α) (notification : Notification) :
    Except Failure α → Prop
  | remote {payload : Value} (failed : notification.error = some payload) :
      GivesOne decoder notification (.error (.remote payload))
  | count (sound : notification.error = none)
      (several : (notification.params.getD []).length ≠ 1) :
      GivesOne decoder notification (.error (.paramsCount 1 (notification.params.getD []).length))
  | param {payload : Value} {outcome : Except Failure α} (sound : notification.error = none)
      (present : notification.params = some [payload])
      (gives : PayloadGives decoder "params" payload outcome) :
      GivesOne decoder notification outcome

/-- What all parameters of a notification give together. -/
inductive Notification.GivesAll (decoder : Decoder α) (notification : Notification) :
    Except Failure α → Prop
  | remote {payload : Value} (failed : notification.error = some payload) :
      GivesAll decoder notification (.error (.remote payload))
  | empty (sound : notification.error = none) (none : notification.params.getD [] = []) :
      GivesAll decoder notification (.error .noParams)
  | params {first : Value} {others : List Value} {outcome : Except Failure α}
      (sound : notification.error = none) (present : notification.params = some (first :: others))
      (gives : PayloadGives decoder "params" (.array (first :: others)) outcome) :
      GivesAll decoder notification outcome

theorem decodePart_iff {part : String} {payload : Value} {outcome : Except Failure α} :
    decodePart decoder part payload = outcome ↔ PayloadGives decoder part payload outcome := by
  unfold decodePart
  constructor
  · intro same
    split at same
    · rename_i refused
      exact same ▸ .misfit refused
    · rename_i fits
      exact same ▸ .value fits
  · intro gives
    cases gives with
    | misfit refused => rw [refused]
    | value fits => rw [fits]

theorem decodeResult_iff {response : Response} {outcome : Except Failure α} :
    response.decodeResult decoder = outcome ↔ response.Gives decoder outcome := by
  unfold Response.decodeResult
  constructor
  · intro same
    cases failed : response.error with
    | some payload =>
        rw [failed] at same
        exact same ▸ .remote failed
    | none =>
        rw [failed] at same
        cases present : response.result with
        | none =>
            rw [present] at same
            exact same ▸ .missing failed present
        | some payload =>
            rw [present] at same
            exact .result failed present (decodePart_iff.mp same)
  · intro gives
    cases gives with
    | remote failed => rw [failed, checkError]
    | missing sound absent => rw [sound, absent, checkError]
    | result sound present gives =>
        rw [sound, present, checkError]
        exact decodePart_iff.mpr gives

theorem decodeParam_of_several {notification : Notification} (sound : notification.error = none)
    (several : (notification.params.getD []).length ≠ 1) :
    notification.decodeParam decoder =
      .error (.paramsCount 1 (notification.params.getD []).length) := by
  simp only [Notification.decodeParam, sound, checkError]
  split
  · rename_i single
    exact absurd (by rw [single]; rfl) several
  · rfl

theorem decodeParam_of_single {notification : Notification} {payload : Value}
    (sound : notification.error = none) (present : notification.params = some [payload]) :
    notification.decodeParam decoder = decodePart decoder "params" payload := by
  simp only [Notification.decodeParam, sound, checkError, present, Option.getD_some]

theorem decodeParam_iff {notification : Notification} {outcome : Except Failure α} :
    notification.decodeParam decoder = outcome ↔ notification.GivesOne decoder outcome := by
  constructor
  · rintro rfl
    cases failed : notification.error with
    | some payload =>
        rw [Notification.decodeParam, failed]
        exact .remote failed
    | none =>
        by_cases single : (notification.params.getD []).length = 1
        · obtain ⟨payload, same⟩ := List.length_eq_one_iff.mp single
          have present : notification.params = some [payload] := by
            cases known : notification.params with
            | none => simp [known] at same
            | some params => simpa [known] using same
          exact .param failed present (decodePart_iff.mp (decodeParam_of_single failed present).symm)
        · rw [decodeParam_of_several failed single]
          exact .count failed single
  · intro gives
    cases gives with
    | remote failed => rw [Notification.decodeParam, failed, checkError]
    | count sound several => exact decodeParam_of_several sound several
    | param sound present gives =>
        rw [decodeParam_of_single sound present]
        exact decodePart_iff.mpr gives

theorem decodeParams_iff {notification : Notification} {outcome : Except Failure α} :
    notification.decodeParams decoder = outcome ↔ notification.GivesAll decoder outcome := by
  unfold Notification.decodeParams
  constructor
  · intro same
    cases failed : notification.error with
    | some payload =>
        rw [failed] at same
        exact same ▸ .remote failed
    | none =>
        rw [failed] at same
        cases present : notification.params with
        | none =>
            rw [present] at same
            exact same ▸ .empty failed (by simp [present])
        | some params =>
            rw [present] at same
            cases params with
            | nil => exact same ▸ .empty failed (by simp [present])
            | cons first others => exact .params failed present (decodePart_iff.mp same)
  · intro gives
    cases gives with
    | remote failed => rw [failed, checkError]
    | empty sound none => rw [sound, none, checkError]
    | params sound present gives =>
        rw [sound, present, checkError]
        exact decodePart_iff.mpr gives

/-! ## Parameters one by one -/

def Notification.only (notification : Notification) (param : Value) : Notification :=
  { notification with params := some [param] }

theorem decodeParam_only (notification : Notification) (param : Value) :
    (notification.only param).decodeParam decoder =
      match notification.error with
      | some payload => .error (.remote payload)
      | none => decodePart decoder "params" param := by
  cases failed : notification.error with
  | none => simp [Notification.decodeParam, Notification.only, failed, checkError]
  | some payload => simp [Notification.decodeParam, Notification.only, failed, checkError]

theorem decodePart_list (part : String) (items : List Value) :
    decodePart decoder.list part (.array items) = items.mapM (decodePart decoder part) := by
  induction items with
  | nil => rfl
  | cons item items ih =>
      rw [List.mapM_cons, ← ih]
      simp only [decodePart, Decoder.list, ofItems]
      cases decoder.ofValue item with
      | error cause => rfl
      | ok value => cases ofItems decoder items <;> rfl

theorem mapM_eq_ok_iff {β γ ε : Type} {read : β → Except ε γ} {items : List β} {values : List γ} :
    items.mapM read = .ok values ↔
      List.Forall₂ (fun item value => read item = .ok value) items values := by
  induction items generalizing values with
  | nil =>
      rw [List.forall₂_nil_left_iff]
      exact ⟨fun same => (Except.ok.inj same).symm, fun none => none ▸ rfl⟩
  | cons item items ih =>
      rw [List.mapM_cons, List.forall₂_cons_left_iff]
      constructor
      · intro accepted
        cases head : read item with
        | error cause => rw [head] at accepted; cases accepted
        | ok value =>
            rw [head] at accepted
            cases rest : items.mapM read with
            | error cause => rw [rest] at accepted; cases accepted
            | ok others =>
                rw [rest] at accepted
                exact ⟨value, others, rfl, ih.mp rest, (Except.ok.inj accepted).symm⟩
      · rintro ⟨value, others, head, rest, rfl⟩
        rw [head, ih.mpr rest]
        rfl

/-- All parameters together give what they give one by one, with the first failure if there is
one. -/
theorem decodeParams_list {notification : Notification} {params : List Value}
    (present : notification.params = some params) (filled : params ≠ []) :
    notification.decodeParams decoder.list =
      params.mapM fun param => (notification.only param).decodeParam decoder := by
  obtain ⟨first, others, rfl⟩ := List.exists_cons_of_ne_nil filled
  simp only [decodeParam_only]
  cases failed : notification.error with
  | none =>
      rw [← decodePart_list]
      simp [Notification.decodeParams, failed, present, checkError]
  | some payload => simp [Notification.decodeParams, failed, checkError]; rfl

theorem decodeParams_list_eq_ok_iff {notification : Notification} {values : List α} :
    notification.decodeParams decoder.list = .ok values ↔
      ∃ params, notification.params = some params ∧ params ≠ [] ∧
        List.Forall₂ (fun param value => (notification.only param).decodeParam decoder = .ok value)
          params values := by
  constructor
  · intro read
    have gives := decodeParams_iff.mp read
    cases gives with
    | params sound present gives =>
        refine ⟨_, present, by simp, mapM_eq_ok_iff.mp ?_⟩
        rw [← decodeParams_list present (by simp), read]
  · rintro ⟨params, present, filled, fits⟩
    rw [decodeParams_list present filled]
    exact mapM_eq_ok_iff.mpr fits

/-- Every message is judged in one order, whatever type is asked for; and all parameters of a
notification are read as a list just when there are some and each of them is read alone. -/
theorem payloads_judged_in_order (decoder : Decoder α) :
    (∀ (response : Response) (outcome : Except Failure α),
      response.decodeResult decoder = outcome ↔ response.Gives decoder outcome) ∧
    (∀ (notification : Notification) (outcome : Except Failure α),
      notification.decodeParam decoder = outcome ↔ notification.GivesOne decoder outcome) ∧
    (∀ (notification : Notification) (outcome : Except Failure α),
      notification.decodeParams decoder = outcome ↔ notification.GivesAll decoder outcome) ∧
    (∀ (notification : Notification) (values : List α),
      notification.decodeParams decoder.list = .ok values ↔
        ∃ params, notification.params = some params ∧ params ≠ [] ∧
          List.Forall₂
            (fun param value => (notification.only param).decodeParam decoder = .ok value)
            params values) ∧
    ∀ (notification : Notification) (params : List Value),
      notification.params = some params → params ≠ [] →
        notification.decodeParams decoder.list =
          params.mapM fun param => (notification.only param).decodeParam decoder :=
  ⟨fun _ _ => decodeResult_iff, fun _ _ => decodeParam_iff, fun _ _ => decodeParams_iff,
    fun _ _ => decodeParams_list_eq_ok_iff, fun _ _ => decodeParams_list⟩

/-- Of three parameters the second and the third are no booleans, and the second is reported. -/
theorem payloads_judged_in_order_of_misfit :
    let notification : Notification := ⟨"m", some [.bool true, .null, .text ""], none⟩
    notification.params = some [.bool true, .null, .text ""] ∧
      ∃ failure, notification.decodeParams Codec.bool.toDecoder.list = .error failure ∧
        (notification.only .null).decodeParam Codec.bool.toDecoder = .error failure := by
  refine ⟨rfl, _, ?_, rfl⟩
  rw [(payloads_judged_in_order Codec.bool.toDecoder).2.2.2.2 _ _ rfl (by simp)]
  rfl

end ServerManagement
