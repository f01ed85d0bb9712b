import ServerManagement.Proofs.Session.CallLife
import ServerManagement.Proofs.Session.Moves
import ServerManagement.Proofs.Session.Steady

/-!
What settling does to the calls in progress, phase by phase: some are refused a place in the queue,
some get their responses, some run out of time, and a closer may turn away those who still wait.
-/

set_option autoImplicit false

namespace ServerManagement

namespace Session

variable {session : Session} {call : Call}

/-! ## Effects of the way out -/

def refusal (effects : List Effect) (call : Call) : Option (Except Failure Response) :=
  if call.number ∈ effects.filterMap Effect.refused? then some (.error .queueClosed) else none

theorem call?_eq_some {number : Nat} (found : session.call? number = some call) :
    call ∈ session.calls ∧ call.number = number :=
  ⟨List.mem_of_find?_eq_some found, by simpa using List.find?_some found⟩

theorem absent_of_call? {number : Nat} (missing : session.call? number = none) :
    session.Absent number := by
  intro call member
  simpa using List.find?_eq_none.mp missing call member

theorem endsWhere_noteAll (sound : session.Sound) (effects : List Effect) :
    EndsWhere (refusal effects) session (session.noteAll effects) := by
  induction effects generalizing session with
  | nil => exact (EndsWhere.of_quiet sound (Quiet.refl session)).congr fun _ _ => by simp [refusal]
  | cons effect effects ih =>
      rw [noteAll, List.foldl_cons]
      cases effect with
      | arrived arrival =>
          have first := EndsWhere.of_quiet sound
            (Quiet.record session (.arrived arrival) fun _ => rfl)
          exact (first.trans (ih first.sound)).congr fun _ _ => rfl
      | logged line =>
          have first := EndsWhere.of_quiet sound
            (Quiet.record session (.logged line) fun _ => rfl)
          exact (first.trans (ih first.sound)).congr fun _ _ => rfl
      | admitted number => exact (ih sound).congr fun _ _ => rfl
      | refused number =>
          have refused : (Effect.refused number :: effects).filterMap Effect.refused? =
              number :: effects.filterMap Effect.refused? := rfl
          cases found : session.call? number with
          | none =>
              simp only [note, found]
              refine (ih sound).congr fun call member => ?_
              have differs := absent_of_call? found call member
              simp [refusal, refused, differs]
          | some called =>
              obtain ⟨member, same⟩ := call?_eq_some found
              subst same
              simp only [note, found]
              have first := EndsWhere.finish sound member (.error .queueClosed)
              refine (first.trans (ih first.sound)).congr fun call _ => ?_
              by_cases same : call.number = called.number
              · simp [refusal, refused, same]
              · simp [refusal, refused, same]

def withSettled (session : Session) : Session :=
  { session with outbound := (session.outbound.settle session.writeTerms).2 }

theorem Sound.withSettled (sound : session.Sound) : session.withSettled.Sound := by
  have turns := Outbound.turns_settle session.writeTerms session.outbound
  have sublist : ((session.outbound.settle session.writeTerms).2.waiting.map Letter.call).Sublist
      (session.outbound.waiting.map Letter.call) := by
    rw [turns.split]
    exact (List.sublist_append_right _ _).trans (List.sublist_append_right _ _)
  constructor
  case accounts => exact sound.accounts
  case queuing =>
    have queuing := List.pairwise_map.mpr sound.queuing
    exact List.pairwise_map.mp (queuing.sublist sublist)
  case waiters =>
    intro letter waits
    obtain ⟨before, waited, same⟩ :=
      List.mem_map.mp (sublist.subset (List.mem_map_of_mem waits))
    obtain ⟨owner, member, number⟩ := sound.waiters before waited
    exact ⟨owner, member, number.trans same⟩
  case fresh => exact sound.fresh

theorem endsWhere_settleOutbound (sound : session.Sound) :
    EndsWhere (refusal (session.outbound.settle session.writeTerms).1) session.withSettled
      session.settleOutbound :=
  endsWhere_noteAll sound.withSettled _

/-! ## Responses and deadlines -/

theorem endsWhere_collect (sound : session.Sound) :
    EndsWhere session.answer session (session.calls.foldl collect session) := by
  refine endsWhere_foldl answer collect_eq ?_ sound
  intro session sound gone goneMember call member differs result
  have kept := Keeps.finish sound goneMember member differs result
  simp only [answer, kept.waiting, kept.slot]

theorem endsWhere_expire (sound : session.Sound) :
    EndsWhere session.lateness session (session.calls.foldl expire session) :=
  endsWhere_foldl lateness expire_eq (fun _ _ _ _ _ _ _ _ => rfl) sound

/-! ## Closing -/

def rejection (session : Session) (call : Call) : Option (Except Failure Response) :=
  if session.outbound.isWaiting call.number then some (.error .queueClosed) else none

def withHalted (session : Session) (writer : Writer) : Session :=
  { session with outbound := (session.outbound.halt writer).2 }

theorem endsWhere_halt (sound : session.Sound) (writer : Writer) :
    EndsWhere session.rejection session
      ((session.withHalted writer).noteAll (session.outbound.halt writer).1) := by
  have halted : (session.withHalted writer).Sound :=
    ⟨sound.accounts, .nil, fun _ waits => absurd waits List.not_mem_nil, sound.fresh⟩
  have noted := endsWhere_noteAll halted (session.outbound.halt writer).1
  have same : ∀ call, refusal (session.outbound.halt writer).1 call = session.rejection call := by
    intro call
    simp only [refusal, rejection, Outbound.halt, Outbound.refused_closeQueue,
      ← Outbound.isWaiting_eq_true_iff]
  constructor
  case sound => exact noted.sound
  case callCount => exact noted.callCount
  case origin => exact noted.origin
  case keeps =>
    intro call member spared
    have kept := noted.keeps call member ((same call).trans spared)
    have apart : session.outbound.isWaiting call.number = false := by simpa [rejection] using spared
    exact ⟨kept.mem, kept.slot, kept.waiting.trans apart.symm, kept.outcomes⟩
  case ends =>
    intro call member result judged
    have ended := noted.ends call member result ((same call).trans judged)
    exact ⟨ended.absent, ended.outcomes⟩
  case misses =>
    intro number absent
    have missed := noted.misses number absent
    exact ⟨missed.absent, missed.outcomes⟩

theorem quiet_cutReader (session : Session) : Quiet session session.cutReader := by
  unfold cutReader
  split
  · have noted := Quiet.record session
      (.logged (taskAborted session.ioTimeout)) fun _ => rfl
    exact ⟨rfl, rfl, rfl, rfl, noted.outcomes⟩
  · exact .refl session

/-- The closer goes, whatever is reported of the end of closing. -/
theorem quiet_leave (session : Session) (line : LogLine) (occurrence : Occurrence)
    (silent : ∀ number, occurrence.outcome? number = none) :
    Quiet session { (session.record (.logged line)).record occurrence with closer := none } := by
  have logged := Quiet.record session (.logged line) fun _ => rfl
  have reported := logged.trans (Quiet.record _ occurrence silent)
  exact ⟨rfl, rfl, rfl, rfl, reported.outcomes⟩

theorem quiet_dischargeCloser (session : Session) (closer : Closer) :
    Quiet session (session.dischargeCloser closer) := session.quiet_leave _ _ fun _ => rfl

theorem quiet_loseCloser (session : Session) (closer : Closer) :
    Quiet session (session.loseCloser closer) := session.quiet_leave _ _ fun _ => rfl

def TurnsAway (session : Session) (verdict : Call → Option (Except Failure Response)) : Prop :=
  ∀ call result, verdict call = some result →
    session.outbound.isWaiting call.number = true ∧ result = .error .queueClosed

theorem TurnsAway.spares {verdict : Call → Option (Except Failure Response)}
    (turns : session.TurnsAway verdict)
    (apart : session.outbound.isWaiting call.number = false) : verdict call = none := by
  cases judged : verdict call with
  | none => rfl
  | some result =>
      have waits := (turns call result judged).1
      rw [apart] at waits
      cases waits

theorem endsWhere_cutWriter (sound : session.Sound) :
    ∃ verdict, EndsWhere verdict session session.cutWriter ∧ session.TurnsAway verdict := by
  unfold cutWriter
  split
  · exact ⟨_, EndsWhere.of_quiet sound (Quiet.refl session), nofun⟩
  · have logged := EndsWhere.of_quiet sound (Quiet.record session
      (.logged (taskAborted session.ioTimeout)) fun _ => rfl)
    refine ⟨_, logged.trans (endsWhere_halt logged.sound .aborted), ?_⟩
    intro call result judged
    simp only [Option.none_or, rejection] at judged
    split at judged
    · rename_i waits
      exact ⟨waits, (Option.some.inj judged).symm⟩
    · cases judged

/-- A closer ends no call but those whose letters wait for room. -/
theorem endsWhere_settleCloser (sound : session.Sound) :
    ∃ verdict, EndsWhere verdict session session.settleCloser ∧ session.TurnsAway verdict := by
  unfold settleCloser
  split
  · exact ⟨_, EndsWhere.of_quiet sound (Quiet.refl session), nofun⟩
  · rename_i closer _
    split
    · exact ⟨_, EndsWhere.of_quiet sound (session.quiet_dischargeCloser closer), nofun⟩
    · split
      · split
        · exact ⟨_, EndsWhere.of_quiet sound (session.quiet_loseCloser closer), nofun⟩
        · obtain ⟨verdict, cut, turns⟩ := endsWhere_cutWriter sound
          have rest := (session.cutWriter.quiet_cutReader).trans
            (session.cutWriter.cutReader.quiet_dischargeCloser closer)
          refine ⟨_, cut.trans (EndsWhere.of_quiet cut.sound rest), ?_⟩
          intro call result judged
          exact turns call result (by simpa using judged)
      · exact ⟨_, EndsWhere.of_quiet sound (Quiet.refl session), nofun⟩

/-! ## The other phases -/

theorem quiet_settleReader (session : Session) : Quiet session session.settleReader := by
  unfold settleReader
  split
  · exact ⟨rfl, rfl, rfl, rfl, fun _ => rfl⟩
  · exact .refl session

theorem quiet_settleClosing (session : Session) : Quiet session session.settleClosing := by
  unfold settleClosing
  split
  · split
    · exact ⟨rfl, rfl, rfl, rfl, fun _ => rfl⟩
    · exact .refl session
  · exact .refl session

theorem quiet_settleStreams (session : Session) : Quiet session session.settleStreams :=
  ⟨rfl, rfl, rfl, rfl, fun _ => rfl⟩

/-- A closer is served before a closing frame is given up and after that. -/
theorem endsWhere_serveCloser (sound : session.Sound) :
    ∃ verdict, EndsWhere verdict session session.settleCloser.settleClosing.settleCloser ∧
      ∀ call ∈ session.calls, ∀ result, verdict call = some result →
        session.outbound.isWaiting call.number = true ∧ result = .error .queueClosed := by
  obtain ⟨turned, closed, turns⟩ := endsWhere_settleCloser sound
  have given := closed.trans (EndsWhere.of_quiet closed.sound (quiet_settleClosing _))
  obtain ⟨turnedToo, served, turnsToo⟩ := endsWhere_settleCloser given.sound
  refine ⟨_, given.trans served, ?_⟩
  intro call member result judged
  cases first : turned call with
  | some other => exact turns call result (by simpa [first] using judged)
  | none =>
      have goes := given.keeps call member (by simp [first])
      obtain ⟨waits, same⟩ := turnsToo call result (by simpa [first] using judged)
      exact ⟨goes.waiting.symm.trans waits, same⟩

/-! ## Settling as a whole -/

theorem endsWhere_settleCalls (sound : session.Sound) :
    EndsWhere (fun call => (session.answer call).or (session.lateness call)) session
      session.settleCalls := by
  have collected := endsWhere_collect sound
  have clock := (Steady.foldl steady_collect session session.calls).now
  refine (collected.trans (endsWhere_expire collected.sound)).congr fun call _ => ?_
  simp only [lateness, clock]

/-- A call whose letter has been admitted ends with the response that has come for it, or else when
its time is up. No call goes on whose time is up, and one whose letter has not been admitted ends
otherwise only when the queue is closed. -/
theorem endsWhere_settle (sound : session.Sound) :
    ∃ verdict, EndsWhere verdict session.withSettled session.settle ∧
      (∀ call, verdict call = none →
        refusal (session.outbound.settle session.writeTerms).1 call = none ∧
          session.now < call.deadline) ∧
      (∀ call ∈ session.calls, session.withSettled.outbound.isWaiting call.number = false →
        refusal (session.outbound.settle session.writeTerms).1 call = none →
        verdict call = (session.withSettled.answer call).or (session.lateness call)) ∧
      ∀ call ∈ session.calls, ∀ result, verdict call = some result →
        result = .error .queueClosed ∨
          refusal (session.outbound.settle session.writeTerms).1 call = none ∧
            (session.withSettled.answer call).or (session.lateness call) = some result := by
  have noted := endsWhere_settleOutbound sound
  have read := noted.trans (EndsWhere.of_quiet noted.sound (quiet_settleReader _))
  have clock : session.settleOutbound.settleReader.now = session.now :=
    by rw [now_settleReader, session.steady_settleOutbound.now]
  have served := read.trans (endsWhere_settleCalls read.sound)
  obtain ⟨turned, closed, turns⟩ := endsWhere_serveCloser served.sound
  have passed := EndsWhere.of_quiet closed.sound (quiet_settleStreams _)
  -- What a call that is not refused finds when the reader has gone on.
  have found (call : Call) (member : call ∈ session.calls)
      (accepted : refusal (session.outbound.settle session.writeTerms).1 call = none) :
      session.settleOutbound.settleReader.answer call = session.withSettled.answer call ∧
        session.settleOutbound.settleReader.lateness call = session.lateness call := by
    have kept := read.keeps call member (by simp [accepted])
    exact ⟨by simp only [answer, kept.waiting, kept.slot], by simp only [lateness, clock]⟩
  refine ⟨_, (served.trans closed).trans passed, ?_, ?_, ?_⟩
  · intro call spared
    simp only [Option.or_eq_none_iff, lateness, clock] at spared
    obtain ⟨⟨⟨⟨accepted, _⟩, _, early⟩, _⟩, _⟩ := spared
    exact ⟨accepted, Nat.lt_of_not_le fun late => by simp [late] at early⟩
  · intro call member admitted accepted
    obtain ⟨same, time⟩ := found call member accepted
    simp only [accepted, same, time, Option.or_none, Option.none_or]
    cases judged : (session.withSettled.answer call).or (session.lateness call) with
    | some result => rfl
    | none =>
        -- The closer's verdict is not known, but it spares the calls whose letters are queued.
        have goes := served.keeps call member (by
          simpa only [accepted, same, time, Option.or_none, Option.none_or] using judged)
        cases away : turned call with
        | none => rfl
        | some result =>
            have waits := (turns call goes.mem result away).1
            rw [goes.waiting.trans admitted] at waits
            cases waits
  · intro call member result judged
    cases refused : refusal (session.outbound.settle session.writeTerms).1 call with
    | some other =>
        left
        simp only [refused, Option.some_or, Option.some.injEq] at judged
        unfold refusal at refused
        split at refused
        · exact judged.symm.trans (Option.some.inj refused).symm
        · cases refused
    | none =>
        obtain ⟨same, time⟩ := found call member refused
        simp only [refused, same, time, Option.or_none, Option.none_or] at judged
        cases due : (session.withSettled.answer call).or (session.lateness call) with
        | some other =>
            rw [due, Option.some_or] at judged
            exact .inr ⟨rfl, judged⟩
        | none =>
            rw [due, Option.none_or] at judged
            have goes := served.keeps call member (by
              simpa only [refused, same, time, Option.or_none, Option.none_or] using due)
            exact .inl (turns call goes.mem result judged).2

end Session

end ServerManagement
