import ServerManagement.Proofs.Session.CallCourse
import ServerManagement.Proofs.Session.Stillness

/-!
Calls that fail when they are made: the connection is closed, the parameters cannot be encoded, or
the token has been cancelled. Nothing but an identifier is used up for them.
-/

set_option autoImplicit false

namespace ServerManagement

theorem Request.failure_of_create {id : UInt64} {method : String} {params : Params}
    {failure : Failure} (created : Request.create id method params = .error failure) :
    ∃ reason, failure = .encode reason := by
  unfold Request.create at created
  split at created
  case h_1 | h_5 =>
    cases created
    exact ⟨_, rfl⟩
  all_goals cases created

namespace Session

/-- A call that is made now fails at once. -/
inductive FailsAtOnce (session : Session) (method : String) (params : Params) (terms : CallTerms) :
    Failure → Prop
  | closed (closed : session.isClosed = true) : FailsAtOnce session method params terms .queueClosed
  | unencodable (opened : session.isClosed = false) (failure : Failure)
      (created : Request.create session.correlator.nextId.1 method params = .error failure) :
      FailsAtOnce session method params terms failure
  | stillborn (opened : session.isClosed = false) (request : Request) (token : Token)
      (created : Request.create session.correlator.nextId.1 method params = .ok request)
      (wanted : terms.token = some token) (cancelled : session.isCancelled token = true) :
      FailsAtOnce session method params terms (.cancelled method)

variable {session : Session} {method : String} {params : Params} {terms : CallTerms}
  {failure : Failure}

def withFailed (session : Session) (failure : Failure) : Session :=
  { session with
    callCount := session.callCount + 1
    correlator :=
      { session.correlator with
        lastId :=
          if session.isClosed then session.correlator.lastId else session.correlator.nextId.1 }
    history := session.history ++ [.ended session.callCount (.error failure)] }

theorem withFailed_of_open (opened : session.isClosed = false) (failure : Failure) :
    session.withFailed failure =
      session.withDrawn.record (.ended session.callCount (.error failure)) := by
  rw [withFailed, if_neg (Bool.eq_false_iff.mp opened)]
  rfl

theorem FailsAtOnce.startCall_eq (fails : session.FailsAtOnce method params terms failure) :
    session.startCall method params terms = session.withFailed failure := by
  cases fails with
  | closed closed =>
      rw [startCall_of_closed closed, withFailed, if_pos closed]
      rfl
  | unencodable opened failure created =>
      rw [startCall_of_open opened, withFailed_of_open opened]
      simp only [created]
  | stillborn opened request token created wanted cancelled =>
      have uncalled : terms.token.any session.isCancelled = true := by rw [wanted]; exact cancelled
      rw [startCall_of_open opened, withFailed_of_open opened]
      simp only [created, uncalled, if_true]

theorem failsAtOnce_of_unissued (unissued : session.issue? (.call method params terms) = none) :
    ∃ failure, session.FailsAtOnce method params terms failure := by
  simp only [issue?] at unissued
  split at unissued
  · rename_i closed
    exact ⟨_, .closed closed⟩
  · rename_i up
    have opened : session.isClosed = false := Bool.eq_false_iff.mpr up
    split at unissued
    · rename_i failure created
      exact ⟨_, .unencodable opened failure created⟩
    · rename_i request created
      split at unissued
      · rename_i uncalled
        obtain ⟨token, wanted, cancelled⟩ := (Option.any_eq_true ..).mp uncalled
        exact ⟨_, .stillborn opened request token created wanted cancelled⟩
      · cases unissued

theorem startCall_of_issued {issue : Issue}
    (issued : session.issue? (.call method params terms) = some issue) :
    session.startCall method params terms =
      session.withDrawn.enroll session.callCount issue.letter.request terms := by
  obtain ⟨opened, uncancelled, created, _⟩ := issue?_eq_some issued
  rw [startCall_of_open opened]
  simp only [created, uncancelled, Bool.false_eq_true, if_false]

theorem Still.withFailed (still : session.Still) (failure : Failure) :
    (session.withFailed failure).Still :=
  ⟨still.outbound, still.reader, still.calls, still.closer, still.closing, still.streams⟩

/-- A call that fails at once does nothing else, neither by itself nor when the session settles. -/
theorem FailsAtOnce.step_eq (fails : session.FailsAtOnce method params terms failure)
    (still : session.Still) :
    (session.step (.call method params terms)).2 = session.withFailed failure := by
  rw [step_eq_settle]
  simp only [act, fails.startCall_eq]
  exact (still.withFailed failure).settle_eq

/-- The call is over, and its failure is its only result. -/
theorem FailsAtOnce.gone (fails : session.FailsAtOnce method params terms failure)
    (sound : session.Sound)
    (few : (session.step (.call method params terms)).2.callCount < 2 ^ 64) :
    Gone session.callCount [.error failure] (session.step (.call method params terms)).2 := by
  have acted : Gone session.callCount [.error failure]
      (session.act (.call method params terms)).2 := by
    simp only [act, fails.startCall_eq]
    have fresh := sound.fresh session.callCount (Nat.le_refl _)
    refine ⟨fun call member => Nat.ne_of_lt (sound.accounts.counted call member), ?_⟩
    rw [withFailed, outcomes, List.filterMap_append]
    simp only [List.filterMap_cons, List.filterMap_nil, Occurrence.outcome?, if_true]
    exact congrArg (· ++ [_]) fresh
  exact acted.settle (sound.act few)

end Session

end ServerManagement
