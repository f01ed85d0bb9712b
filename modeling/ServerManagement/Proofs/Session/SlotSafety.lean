import ServerManagement.Proofs.Session.History
import ServerManagement.Proofs.Session.Replies

/-!
Two failures that the correlator guards against and that no session comes to: a call whose slot is
given up while its caller waits, and a call that draws an identifier that is still in use.
-/

set_option autoImplicit false

namespace ServerManagement

namespace Session

inductive Expected : Except Failure Response → Prop
  | answered (response : Response) : Expected (.ok response)
  | unencodable (reason : String) : Expected (.error (.encode reason))
  | refused : Expected (.error .queueClosed)
  | cancelled (method : String) : Expected (.error (.cancelled method))
  | late (method : String) (limit : Nat) : Expected (.error (.timeout method limit))

variable {session start : Session} {next : Step} {steps : List Step} {number : Nat}
  {method : String} {params : Params} {terms : CallTerms} {failure : Failure}
  {result : Except Failure Response} {issue : Issue}

/-! ## Results -/

theorem FailsAtOnce.expected (fails : session.FailsAtOnce method params terms failure) :
    Expected (.error failure) := by
  cases fails with
  | closed => exact .refused
  | unencodable opened failure created =>
      obtain ⟨reason, rfl⟩ := Request.failure_of_create created
      exact .unencodable reason
  | stillborn => exact .cancelled method

theorem Ending.expected {call : Call} (ending : Ending call false none session steps)
    (ended : result ∈ (session.run steps).outcomes call.number) : Expected result := by
  cases ending with
  | stays kept stands =>
      rw [stands.outcomes] at ended
      cases ended
  | cancelled cancels gone =>
      rw [gone.outcomes] at ended
      exact List.mem_singleton.mp ended ▸ .cancelled _
  | abandoned abandons gone =>
      rw [gone.outcomes] at ended
      cases ended
  | answered response queued replied gone =>
      rw [gone.outcomes] at ended
      exact List.mem_singleton.mp ended ▸ .answered response
  | late late gone =>
      rw [gone.outcomes] at ended
      exact List.mem_singleton.mp ended ▸ .late _ _
  | turned waits never gone =>
      rw [gone.outcomes] at ended
      exact List.mem_singleton.mp ended ▸ .refused

theorem expected_of_mem (sound : start.Sound) (idle : start.callCount = 0)
    (few : (start.run steps).callCount < 2 ^ 64)
    (ended : result ∈ (start.run steps).outcomes number) : Expected result := by
  have made : number < (start.run steps).callCount := by
    refine Nat.lt_of_not_le fun unmade => ?_
    rw [(sound.run few).fresh number unmade] at ended
    cases ended
  obtain ⟨before, method, params, terms, after, rfl, own, ⟨failure, fails, gone⟩ |
    ⟨issue, _, rfl, ending⟩⟩ := made_cases sound idle few made
  · rw [gone.outcomes] at ended
    exact List.mem_singleton.mp ended ▸ fails.expected
  · rw [run_append] at ended
    exact ending.expected ended

/-! ## Registrations -/

theorem Sound.register_fresh (sound : session.Sound)
    (few : (session.step next).2.callCount < 2 ^ 64) (issued : session.issue? next = some issue) :
    (session.correlator.nextId.2.register issue.id).1 =
      .fresh session.correlator.slots.length := by
  have counted : (session.step next).2.callCount = session.callCount + 1 := by
    cases next with
    | call => exact callCount_step_eq _ _
    | _ => cases issued
  rw [(number_of_issue? issued).2,
    Correlator.register_of_unlisted (sound.accounts.find?_nextId (counted ▸ few))]
  rfl

theorem adds_step (sound : session.Sound) (few : (session.step next).2.callCount < 2 ^ 64) :
    Adds (fun occurrence => ∀ number id, occurrence ≠ .drewTwice number id) session
      (session.step next).2 := by
  have ordinary : Occurrence.Ordinary fun occurrence =>
      ∀ number id, occurrence ≠ .drewTwice number id :=
    ⟨fun _ _ _ => nofun, fun _ _ _ => nofun, fun _ _ _ _ => nofun, fun _ _ _ _ => nofun,
      fun _ _ _ => nofun⟩
  refine (adds_act ordinary session next ?_).trans (adds_settle ordinary _)
  rintro method params terms issue rfl issued
  have counted : (session.step (.call method params terms)).2.callCount = session.callCount + 1 :=
    callCount_step_eq _ _
  have entered : session.withDrawn.enroll session.callCount issue.letter.request terms =
      session.withIssued issue := enroll_eq sound (counted ▸ few) issued
  exact ⟨[], by rw [entered]; exact (List.append_nil _).symm, nofun⟩

theorem adds_run (sound : start.Sound) (few : (start.run steps).callCount < 2 ^ 64) :
    Adds (fun occurrence => ∀ number id, occurrence ≠ .drewTwice number id) start
      (start.run steps) := by
  induction steps generalizing start with
  | nil => exact .refl start
  | cons next steps ih =>
      have early := Nat.lt_of_le_of_lt (callCount_run_le _ steps) few
      exact (adds_step sound early).trans (ih (sound.step early) few)

/-- No call ends because its slot was given up: as long as its caller waits, the table leads to the
slot, or the response is in it. No call draws an identifier in use: each is entered under one that
has no entry. -/
theorem slots_kept (settings : Settings) (lineCapacity : Nat) (loggerPanics : Bool)
    (steps : List Step)
    (few : ((create settings lineCapacity loggerPanics).run steps).callCount < 2 ^ 64) :
    let start := create settings lineCapacity loggerPanics
    let session := start.run steps
    (∀ number, .error .replyLost ∉ session.outcomes number) ∧
      (∀ call ∈ session.calls,
        session.correlator.slot call.ticket = .awaiting ∧
            session.correlator.entries.find? call.id = some call.ticket ∨
          ∃ response, response.id = some call.id ∧
            session.correlator.slot call.ticket = .answered response) ∧
      (∀ number id, .drewTwice number id ∉ session.history) ∧
      ∀ before next after issue, steps = before ++ next :: after →
        (start.run before).issue? next = some issue →
        ((start.run before).correlator.nextId.2.register issue.id).1 =
          .fresh (start.run before).correlator.slots.length := by
  intro start session
  have sound : start.Sound := .create settings lineCapacity loggerPanics
  refine ⟨fun number lost => ?_, fun call member => ?_, fun number id doubled => ?_, ?_⟩
  · cases expected_of_mem sound rfl few lost
  · have accounts := (sound.run few).accounts
    rcases accounts.filled call member with awaiting | answered
    · exact .inl ⟨awaiting, (accounts.find?_eq_some_iff member).mpr awaiting⟩
    · exact .inr answered
  · obtain ⟨news, same, fine⟩ := adds_run sound few
    rw [same] at doubled
    exact fine _ doubled number id rfl
  · rintro before next after issue rfl issued
    have counted := few
    rw [run_append, run_cons] at counted
    have early := Nat.lt_of_le_of_lt (callCount_run_le _ after) counted
    have soundThen := sound.run (Nat.lt_of_le_of_lt (callCount_run_le _ [next]) early)
    exact soundThen.register_fresh early issued

/-- Responses that come twice or too late, a call that is cancelled and one that is left, and a
reader that crashes while the connection is closed: the last call still has its slot. -/
theorem slots_kept_of_crash :
    let frame (text : String) : Step := .receive (.data (Json.bytesOf text))
    let steps : List Step := [.pause, .call "a" .none .standard, .call "b" .none ⟨none, some "t"⟩,
      frame r#"{"id":1,"result":true}"#, frame r#"{"id":1,"result":true}"#,
      .cancel "t", frame r#"{"id":2,"result":true}"#, .call "c" .none .standard,
      .abandonCall 2, .call "d" .none .standard, frame "junk", .close]
    let session := (create ⟨5000, 50, 4, 8⟩ 0 true).run steps
    let call : Call := ⟨3, 4, "d", 3, 5000, 5000, none⟩
    session.callCount < 2 ^ 64 ∧ session.reader = .crashed ∧ session.calls = [call] ∧
      session.correlator.slot call.ticket = .awaiting ∧
      session.correlator.entries.find? call.id = some call.ticket := by
  intro frame steps session call
  have few : session.callCount < 2 ^ 64 := by decide +kernel
  have only : session.calls = [call] := by decide +kernel
  have member : call ∈ session.calls := only ▸ List.mem_singleton_self call
  obtain ⟨_, kept, _⟩ := slots_kept ⟨5000, 50, 4, 8⟩ 0 true steps few
  refine ⟨few, by decide +kernel, only, ?_⟩
  rcases kept call member with listed | ⟨response, own, answered⟩
  · exact listed
  · have awaiting : session.correlator.slot call.ticket = .awaiting := by decide +kernel
    rw [awaiting] at answered
    cases answered

end Session

end ServerManagement
