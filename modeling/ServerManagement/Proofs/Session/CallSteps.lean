import ServerManagement.Proofs.Session.Acting

/-!
Soundness of all runs in which identifiers do not come round, and what a step makes of one call: it
goes on, perhaps with its letter admitted or its response at hand, or it goes.
-/

set_option autoImplicit false

namespace ServerManagement

namespace Session

variable {session later : Session} {next : Step} {call : Call} {issue : Issue} {number : Nat}

/-! ## Soundness -/

theorem Sound.create (settings : Settings) (lineCapacity : Nat) (loggerPanics : Bool) :
    (create settings lineCapacity loggerPanics).Sound :=
  ⟨.empty, .nil, fun _ waits => absurd waits List.not_mem_nil, fun _ _ => rfl⟩

@[simp] theorem callCount_enroll (session : Session) (number : Nat) (request : Request)
    (terms : CallTerms) : (session.enroll number request terms).callCount = session.callCount := by
  unfold enroll
  split <;> rfl

def withDrawn (session : Session) : Session :=
  { session with
    callCount := session.callCount + 1
    correlator := session.correlator.nextId.2 }

theorem startCall_of_closed (closed : session.isClosed = true) (method : String) (params : Params)
    (terms : CallTerms) :
    session.startCall method params terms =
      { session with callCount := session.callCount + 1 }.record
        (.ended session.callCount (.error .queueClosed)) := by
  unfold startCall
  dsimp only
  rw [if_pos closed]

theorem startCall_of_open (opened : session.isClosed = false) (method : String) (params : Params)
    (terms : CallTerms) :
    session.startCall method params terms =
      match Request.create session.correlator.nextId.1 method params with
      | .error failure => session.withDrawn.record (.ended session.callCount (.error failure))
      | .ok request =>
        if terms.token.any session.isCancelled then
          session.withDrawn.record (.ended session.callCount (.error (.cancelled method)))
        else session.withDrawn.enroll session.callCount request terms := by
  have up : ¬session.isClosed = true := Bool.eq_false_iff.mp opened
  unfold startCall
  dsimp only
  rw [if_neg up]
  rfl

theorem callCount_startCall (session : Session) (method : String) (params : Params)
    (terms : CallTerms) :
    (session.startCall method params terms).callCount = session.callCount + 1 := by
  unfold startCall
  dsimp only
  split
  · rfl
  · split
    · rfl
    · split
      · rfl
      · exact callCount_enroll ..

def withIssued (session : Session) (issue : Issue) : Session :=
  { session with
    callCount := session.callCount + 1
    correlator := (session.correlator.nextId.2.register issue.id).2
    calls := session.calls ++ [issue.call session.correlator.slots.length]
    outbound := session.outbound.post issue.letter }

@[simp] theorem outbound_withIssued (session : Session) (issue : Issue) :
    (session.withIssued issue).outbound = session.outbound.post issue.letter := rfl

@[simp] theorem correlator_withIssued (session : Session) (issue : Issue) :
    (session.withIssued issue).correlator =
      (session.correlator.nextId.2.register issue.id).2 := rfl

theorem enroll_eq {method : String} {params : Params} {terms : CallTerms} (sound : session.Sound)
    (few : session.callCount + 1 < 2 ^ 64)
    (issued : session.issue? (.call method params terms) = some issue) :
    { session with
      callCount := session.callCount + 1
      correlator := session.correlator.nextId.2 }.enroll
        session.callCount issue.letter.request terms = session.withIssued issue := by
  obtain ⟨_, _, created, same⟩ := issue?_eq_some issued
  have id := (Request.id_of_create created).1
  have registered := Correlator.register_of_unlisted (sound.accounts.find?_nextId few)
  rw [← id] at registered
  have registeredToo : session.correlator.nextId.2.register issue.id = _ := registered
  simp only [enroll, withIssued, registered, registeredToo]
  rw [same]
  rfl

/-- The place in the waiting line of a call that starts. -/
theorem isWaiting_post (outbound : Outbound) (letter : Letter) (number : Nat) :
    (outbound.post letter).isWaiting number =
      (outbound.isWaiting number || letter.call == number) := by
  simp [Outbound.isWaiting, Outbound.post]

theorem Sound.count (sound : session.Sound) (few : session.callCount + 1 < 2 ^ 64)
    {correlator : Correlator} (result : Except Failure Response)
    (drawn : correlator =
      if session.isClosed then session.correlator else session.correlator.nextId.2) :
    ({ session with callCount := session.callCount + 1, correlator }.record
      (.ended session.callCount result)).Sound := by
  refine ⟨?_, sound.queuing, sound.waiters, ?_⟩
  · subst drawn
    split
    · exact sound.accounts.count
    · exact sound.accounts.draw few
  · intro number unused
    exact (outcomes_record_ended _ result (Nat.ne_of_lt unused)).trans
      (sound.fresh number (Nat.le_of_succ_le unused))

theorem Sound.start (sound : session.Sound) (few : session.callCount + 1 < 2 ^ 64)
    (issued : session.issue? next = some issue) :
    (session.withIssued issue).Sound := by
  obtain ⟨number, id⟩ := number_of_issue? issued
  have earlier : ∀ letter ∈ session.outbound.waiting, letter.call < session.callCount := by
    intro letter waits
    obtain ⟨owner, member, same⟩ := sound.waiters letter waits
    exact same ▸ sound.accounts.counted owner member
  constructor
  case accounts =>
    rw [correlator_withIssued, id]
    exact sound.accounts.enroll few number id rfl
  case queuing =>
    refine List.pairwise_append.mpr ⟨sound.queuing, List.pairwise_singleton .., ?_⟩
    intro letter waits last isLast
    obtain rfl := List.mem_singleton.mp isLast
    exact Nat.lt_of_lt_of_eq (earlier letter waits) number.symm
  case waiters =>
    intro letter waits
    rcases List.mem_append.mp waits with old | new
    · obtain ⟨owner, member, same⟩ := sound.waiters letter old
      exact ⟨owner, List.mem_append_left _ member, same⟩
    · obtain rfl := List.mem_singleton.mp new
      exact ⟨_, List.mem_append_right _ (List.mem_singleton.mpr rfl), rfl⟩
  case fresh =>
    intro number unused
    exact sound.fresh number (Nat.le_of_succ_le unused)

def cancellation (token : Token) (call : Call) : Option (Except Failure Response) :=
  if call.token = some token then some (.error (.cancelled call.method)) else none

theorem endsWhere_cancel (sound : session.Sound) (token : Token) :
    EndsWhere (cancellation token) { session with cancelled := token :: session.cancelled }
      (session.cancel token) := by
  have quiet : Quiet session { session with cancelled := token :: session.cancelled } :=
    ⟨rfl, rfl, rfl, rfl, fun _ => rfl⟩
  refine endsWhere_foldl (fun _ => cancellation token) ?_ (fun _ _ _ _ _ _ _ _ => rfl)
    (quiet.sound sound)
  intro session call
  unfold cancellation
  split <;> rfl

def withCloser (session : Session) : Session :=
  { session with
    isClosed := true
    closerCount := session.closerCount + 1
    outbound := session.outbound.stop
    closer := some ⟨session.closerCount, session.now + session.ioTimeout⟩ }

theorem close_eq (opened : session.isClosed = false) :
    session.close = session.withCloser.settleCloser := by
  unfold close
  simp only [opened, Bool.false_eq_true, if_false]
  rfl

theorem endsWhere_close (sound : session.Sound) (opened : session.isClosed = false) :
    ∃ verdict, EndsWhere verdict session session.close ∧ session.TurnsAway verdict := by
  have quiet : Quiet session session.withCloser := ⟨rfl, rfl, rfl, rfl, fun _ => rfl⟩
  obtain ⟨verdict, settled, turns⟩ := endsWhere_settleCloser (quiet.sound sound)
  have closed := (EndsWhere.of_quiet sound quiet).trans settled
  rw [close_eq opened]
  exact ⟨verdict, closed.congr fun _ _ => Option.none_or, turns⟩

theorem Act.sound (act : Act session next later) (sound : session.Sound)
    (few : later.callCount < 2 ^ 64) : later.Sound := by
  cases act with
  | pass passive quiet => exact quiet.sound sound
  | turnAway method params terms correlator failure drawn => exact sound.count few _ drawn
  | start method params terms issue issued =>
      rw [callCount_enroll] at few
      rw [enroll_eq sound few issued]
      exact sound.start few issued
  | leave number =>
      unfold abandonCall
      split
      · rename_i found
        exact sound.dismiss (call?_eq_some found).1
      · exact sound
  | cancel token => exact (endsWhere_cancel sound token).sound
  | hear incoming response =>
      exact ⟨sound.accounts.resolve response, sound.queuing, sound.waiters, sound.fresh⟩
  | close opened =>
      obtain ⟨_, closed, _⟩ := endsWhere_close sound opened
      exact closed.sound

theorem steady_cancel (session : Session) (token : Token) :
    Steady { session with cancelled := token :: session.cancelled } (session.cancel token) := by
  refine Steady.foldl ?_ _ _
  intro session call
  split
  · exact session.steady_finish _ _
  · exact .refl session

def Step.isCall : Step → Bool
  | .call _ _ _ => true
  | _ => false

theorem Act.callCount_eq (act : Act session next later)
    (other : next.isCall = false) : later.callCount = session.callCount := by
  cases act with
  | pass passive quiet => exact quiet.callCount
  | turnAway | start => cases other
  | leave number =>
      unfold abandonCall
      split <;> rfl
  | cancel token => exact (session.steady_cancel token).callCount
  | hear => rfl
  | close opened =>
      rw [close_eq opened]
      exact (steady_settleCloser session.withCloser).callCount

theorem Act.number_lt (act : Act session next later)
    (issued : session.issue? next = some issue) : issue.number < later.callCount := by
  cases act with
  | pass passive =>
      rw [passive.unissued] at issued
      cases issued
  | turnAway method params terms correlator failure _ unissued =>
      rw [unissued] at issued
      cases issued
  | start =>
      rw [callCount_enroll, (number_of_issue? issued).1]
      exact Nat.lt_succ_self _
  | leave | cancel | hear | close => cases issued

theorem callCount_step (session : Session) (next : Step) :
    (session.step next).2.callCount = (session.act next).2.callCount :=
  callCount_settle _

theorem number_lt_step (issued : session.issue? next = some issue) :
    issue.number < (session.step next).2.callCount :=
  session.callCount_step next ▸ (session.act_cases next).number_lt issued

theorem callCount_step_eq (session : Session) (next : Step) :
    (session.step next).2.callCount = session.callCount + next.isCall.toNat := by
  rw [callCount_step]
  cases call : next.isCall with
  | false => exact (session.act_cases next).callCount_eq call
  | true =>
      cases next with
      | call method params terms => exact session.callCount_startCall method params terms
      | _ => cases call

theorem callCount_run (session : Session) (steps : List Step) :
    (session.run steps).callCount = session.callCount + steps.countP Step.isCall := by
  induction steps generalizing session with
  | nil => rfl
  | cons next steps ih =>
      rw [run_cons, ih, callCount_step_eq, List.countP_cons]
      cases next.isCall <;> simp [Nat.add_comm, Nat.add_left_comm]

theorem callCount_run_le (session : Session) (steps : List Step) :
    session.callCount ≤ (session.run steps).callCount :=
  session.callCount_run steps ▸ Nat.le_add_right _ _

theorem Sound.act (sound : session.Sound) (few : (session.step next).2.callCount < 2 ^ 64) :
    (session.act next).2.Sound :=
  (session.act_cases next).sound sound (session.callCount_step next ▸ few)

theorem Sound.settle (sound : session.Sound) : session.settle.Sound := by
  obtain ⟨_, ended, _⟩ := endsWhere_settle sound
  exact ended.sound

theorem Sound.step (sound : session.Sound) (few : (session.step next).2.callCount < 2 ^ 64) :
    (session.step next).2.Sound :=
  (sound.act few).settle

theorem Sound.run (sound : session.Sound) {steps : List Step}
    (few : (session.run steps).callCount < 2 ^ 64) : (session.run steps).Sound := by
  induction steps generalizing session with
  | nil => exact sound
  | cons next steps ih =>
      have early := Nat.lt_of_le_of_lt (callCount_run_le _ steps) few
      exact ih (sound.step early) few

/-! ## Time -/

def Step.elapsed : Step → Nat
  | .advance milliseconds => milliseconds
  | _ => 0

theorem now_failReading (session : Session) (line : LogLine) :
    (session.failReading line).now = session.now := by
  unfold failReading
  dsimp only
  split <;> rfl

theorem now_receive (session : Session) (incoming : Incoming) :
    (session.receive incoming).now = session.now := by
  unfold receive
  split
  · rfl
  · cases incoming with
    | control | ended | farewell => rfl
    | broken => exact session.now_failReading _
    | data frame =>
        dsimp only
        split
        · exact session.now_failReading _
        · rfl
        · rfl

theorem now_startCall (session : Session) (method : String) (params : Params)
    (terms : CallTerms) : (session.startCall method params terms).now = session.now := by
  unfold startCall enroll
  dsimp only
  split
  · rfl
  · split
    · rfl
    · split
      · rfl
      · split <;> rfl

/-- Time passes only when it is told to. -/
theorem now_step (session : Session) (next : Step) :
    (session.step next).2.now = session.now + next.elapsed := by
  rw [step_eq_settle, now_settle]
  cases next with
  | call method params terms => exact session.now_startCall method params terms
  | abandonCall number =>
      simp only [act, abandonCall]
      split <;> rfl
  | cancel token => exact (session.steady_cancel token).now
  | receive incoming => exact session.now_receive incoming
  | resume => exact (steady_noteAll _ _).now
  | vanish => exact now_receive _ _
  | openStream kind token =>
      simp only [act, openStream]
      split <;> rfl
  | readStream number =>
      simp only [act, readStream]
      split <;> rfl
  | close =>
      cases closed : session.isClosed with
      | true =>
          simp only [act, close_of_closed closed]
          rfl
      | false =>
          simp only [act, close_eq closed]
          exact (steady_settleCloser session.withCloser).now
  | abandonClose number =>
      simp only [act, abandonClose]
      split
      · split <;> rfl
      · rfl
  | setCallTimeout | advance | pause | subscribe | unsubscribe | readMailbox | abandonMailbox
  | abandonStream | release | linger => rfl

theorem now_run_le (session : Session) (steps : List Step) :
    session.now ≤ (session.run steps).now := by
  induction steps generalizing session with
  | nil => exact Nat.le_refl _
  | cons next steps ih =>
      have first := session.now_step next
      exact Nat.le_trans (first ▸ Nat.le_add_right _ _) (ih _)

end Session

end ServerManagement
