import ServerManagement.Proofs.Session.Settling

/-!
What the steps do to the calls in progress before the session settles. Few steps do anything to
them: those that start a call, give calls up, lead a response to one, or close the connection.
-/

set_option autoImplicit false

namespace ServerManagement

theorem Request.id_of_create {id : UInt64} {method : String} {params : Params} {request : Request}
    (created : Request.create id method params = .ok request) :
    request.id = id ∧ request.method = method := by
  unfold Request.create at created
  split at created
  case h_1 => cases created
  case h_5 => cases created
  all_goals
    cases created
    exact ⟨rfl, rfl⟩

namespace Session

structure Passive (session : Session) (next : Step) : Prop where
  unissued : session.issue? next = none
  undrawn : session.draw? next = none
  unheard : session.heard? next = none
  uncancelled : ∀ token, next.cancels token = false
  unabandoned : ∀ number, next.abandons number = false

inductive Act (session : Session) : Step → Session → Prop
  | pass {next : Step} {later : Session} (passive : session.Passive next)
      (quiet : Quiet session later) : Act session next later
  | turnAway (method : String) (params : Params) (terms : CallTerms) (correlator : Correlator)
      (failure : Failure)
      (drawn : correlator =
        if session.isClosed then session.correlator else session.correlator.nextId.2)
      (unissued : session.issue? (.call method params terms) = none) :
      Act session (.call method params terms)
        ({ session with callCount := session.callCount + 1, correlator }.record
          (.ended session.callCount (.error failure)))
  | start (method : String) (params : Params) (terms : CallTerms) (issue : Issue)
      (issued : session.issue? (.call method params terms) = some issue) :
      Act session (.call method params terms)
        ({ session with
          callCount := session.callCount + 1
          correlator := session.correlator.nextId.2 }.enroll
            session.callCount issue.letter.request terms)
  | leave (number : Nat) : Act session (.abandonCall number) (session.abandonCall number)
  | cancel (token : Token) : Act session (.cancel token) (session.cancel token)
  | hear (incoming : Incoming) (response : Response)
      (heard : session.heard? (.receive incoming) = some response) :
      Act session (.receive incoming)
        { session with correlator := (session.correlator.resolve response).2 }
  | close (opened : session.isClosed = false) : Act session .close session.close

variable {session later : Session} {next : Step} {call : Call} {issue : Issue} {number : Nat}

/-- A call that passes the checks of its start. -/
theorem issue?_eq_some {method : String} {params : Params} {terms : CallTerms}
    (issued : session.issue? (.call method params terms) = some issue) :
    session.isClosed = false ∧ terms.token.any session.isCancelled = false ∧
      Request.create session.correlator.nextId.1 method params = .ok issue.letter.request ∧
      issue = ⟨⟨session.callCount, issue.letter.request⟩, session.timeFor terms,
        session.now + session.timeFor terms, terms.token⟩ := by
  simp only [issue?] at issued
  split at issued
  · cases issued
  · rename_i opened
    split at issued
    · cases issued
    · rename_i request created
      split at issued
      · cases issued
      · rename_i uncancelled
        cases issued
        exact ⟨Bool.eq_false_iff.mpr opened, Bool.eq_false_iff.mpr uncancelled, created, rfl⟩

theorem number_of_issue? (issued : session.issue? next = some issue) :
    issue.number = session.callCount ∧ issue.id = session.correlator.nextId.1 := by
  cases next with
  | call method params terms =>
      obtain ⟨_, _, created, same⟩ := issue?_eq_some issued
      exact ⟨by rw [same]; rfl, (Request.id_of_create created).1⟩
  | _ => cases issued

/-! ## Every step is one of these -/

theorem act_startCall (session : Session) (method : String) (params : Params) (terms : CallTerms) :
    Act session (.call method params terms) (session.startCall method params terms) := by
  unfold startCall
  dsimp only
  split
  · rename_i closed
    exact .turnAway method params terms _ _ (if_pos closed).symm
      (by simp only [issue?, closed, if_true])
  · rename_i opened
    split
    · rename_i failure created
      refine .turnAway method params terms _ _ (if_neg opened).symm ?_
      simp only [issue?, opened, created]
      rfl
    · rename_i request created
      split
      · rename_i cancelled
        refine .turnAway method params terms _ _ (if_neg opened).symm ?_
        simp only [issue?, opened, created]
        exact if_pos cancelled
      · rename_i uncancelled
        refine .start method params terms ⟨⟨session.callCount, request⟩, session.timeFor terms,
          session.now + session.timeFor terms, terms.token⟩ ?_
        simp only [issue?, opened, created]
        exact if_neg uncancelled

theorem quiet_stopReader (session : Session) : Quiet session session.stopReader :=
  ⟨rfl, rfl, rfl, rfl, fun _ => rfl⟩

theorem quiet_failReading (session : Session) (line : LogLine) :
    Quiet session (session.failReading line) := by
  have logged := Quiet.record session (.logged line) fun _ => rfl
  unfold failReading
  dsimp only
  split
  · exact logged.trans ⟨rfl, rfl, rfl, rfl, fun _ => rfl⟩
  · exact logged.trans (quiet_stopReader _)

/-- What comes in and is no response does nothing to the calls. -/
theorem quiet_receive {incoming : Incoming}
    (unheard : session.heard? (.receive incoming) = none) :
    Quiet session (session.receive incoming) := by
  unfold receive
  split
  · exact .refl session
  · rename_i running
    cases incoming with
    | control => exact .refl session
    | broken => exact quiet_failReading session readFailed
    | ended =>
        exact (Quiet.record session (.logged streamEnded) fun _ => rfl).trans (quiet_stopReader _)
    | farewell =>
        have logged := Quiet.record session (.logged peerClosed) fun _ => rfl
        exact logged.trans ⟨rfl, rfl, rfl, rfl, fun _ => rfl⟩
    | data frame =>
        dsimp only
        split
        · exact quiet_failReading session _
        · rename_i response decoded
          simp [heard?, Classical.not_not.mp running, decoded] at unheard
        · exact ⟨rfl, rfl, rfl, rfl, fun _ => rfl⟩

theorem receive_of_heard {incoming : Incoming} {response : Response}
    (heard : session.heard? (.receive incoming) = some response) :
    session.receive incoming =
      { session with correlator := (session.correlator.resolve response).2 } := by
  cases incoming with
  | data frame =>
      simp only [heard?] at heard
      split at heard
      · rename_i running
        split at heard
        · rename_i decoded
          cases heard
          simp only [receive, running, ne_eq, not_true, if_false, decoded]
        · cases heard
        · cases heard
      · cases heard
  | control | farewell | broken | ended => cases heard

theorem quiet_noteAll_arrived (session : Session) (arrived : List Arrival) :
    Quiet session (session.noteAll (arrived.map .arrived)) := by
  induction arrived generalizing session with
  | nil => exact .refl session
  | cons arrival arrived ih =>
      have first := Quiet.record session (.arrived arrival) fun _ => rfl
      exact first.trans (ih _)

theorem quiet_withLine (session : Session) (line : Line) : Quiet session (session.withLine line) :=
  ⟨rfl, rfl, rfl, rfl, fun _ => rfl⟩

/-- Whoever closes a connection that is closed is served at once. -/
theorem close_of_closed (closed : session.isClosed = true) :
    session.close = { session with closerCount := session.closerCount + 1 }.record
      (.closed session.closerCount (.ok ())) := by
  unfold close
  dsimp only
  rw [if_pos closed]

theorem quiet_close (closed : session.isClosed) : Quiet session session.close := by
  rw [close_of_closed closed]
  have counted : Quiet session { session with closerCount := session.closerCount + 1 } :=
    ⟨rfl, rfl, rfl, rfl, fun _ => rfl⟩
  exact counted.trans (.record _ _ fun _ => rfl)

theorem act_cases (session : Session) (next : Step) : Act session next (session.act next).2 := by
  cases next with
  | call method params terms => exact act_startCall session method params terms
  | abandonCall number => exact .leave number
  | cancel token => exact .cancel token
  | receive incoming =>
      cases heard : session.heard? (.receive incoming) with
      | some response =>
          have received := receive_of_heard heard
          simp only [act, received]
          exact .hear incoming response heard
      | none => exact .pass ⟨rfl, rfl, heard, fun _ => rfl, fun _ => rfl⟩ (quiet_receive heard)
  | resume =>
      refine .pass ⟨rfl, rfl, rfl, fun _ => rfl, fun _ => rfl⟩ ?_
      exact (session.quiet_withLine _).trans (quiet_noteAll_arrived _ _)
  | vanish =>
      refine .pass ⟨rfl, rfl, rfl, fun _ => rfl, fun _ => rfl⟩ ?_
      have unheard : (session.withLine session.outbound.line.vanish).heard? (.receive .broken) =
          none := rfl
      exact (session.quiet_withLine _).trans (quiet_receive unheard)
  | openStream kind token =>
      refine .pass ⟨rfl, rfl, rfl, fun _ => rfl, fun _ => rfl⟩ ?_
      simp only [act, openStream]
      split <;> exact ⟨rfl, rfl, rfl, rfl, fun _ => rfl⟩
  | readStream stream =>
      refine .pass ⟨rfl, rfl, rfl, fun _ => rfl, fun _ => rfl⟩ ?_
      simp only [act, readStream]
      split <;> exact ⟨rfl, rfl, rfl, rfl, fun _ => rfl⟩
  | close =>
      cases closed : session.isClosed with
      | true => exact .pass ⟨rfl, rfl, rfl, fun _ => rfl, fun _ => rfl⟩ (quiet_close closed)
      | false => exact .close closed
  | abandonClose number =>
      refine .pass ⟨rfl, rfl, rfl, fun _ => rfl, fun _ => rfl⟩ ?_
      simp only [act, abandonClose]
      split
      · split <;> exact ⟨rfl, rfl, rfl, rfl, fun _ => rfl⟩
      · exact .refl session
  | setCallTimeout | advance | pause | subscribe | unsubscribe | readMailbox | abandonMailbox
  | abandonStream | release | linger =>
      exact .pass ⟨rfl, rfl, rfl, fun _ => rfl, fun _ => rfl⟩ ⟨rfl, rfl, rfl, rfl, fun _ => rfl⟩

end Session

end ServerManagement
