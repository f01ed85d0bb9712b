import ServerManagement.Proofs.Notice.StreamRest
import ServerManagement.Proofs.Session.Thinning

/-!
Sessions in which nothing can move. Every step leaves a session so, and settling such a session
leaves it as it is.
-/

set_option autoImplicit false

namespace ServerManagement

namespace Outbound

variable {terms : WriteTerms} {outbound : Outbound}

theorem settle_of_still (still : outbound.move? terms = none) :
    outbound.settle terms = ([], outbound) := by
  rw [settle]
  split
  · rfl
  · rename_i moved
    rw [still] at moved
    cases moved

/-- Nothing moves on the way out exactly when the writer is stuck and those who wait find the queue
open and full. -/
theorem move?_eq_none_iff : outbound.move? terms = none ↔
    outbound.write? terms = none ∧
      (outbound.waiting ≠ [] → outbound.isOpen = true ∧
        outbound.capacity ≤ outbound.queue.length) := by
  unfold move?
  split
  · rename_i nobody
    simp [nobody]
  · rename_i letter waiting waits
    cases takes : outbound.isOpen with
    | false => simp [waits]
    | true =>
        by_cases room : outbound.queue.length < outbound.capacity
        · simp [room, waits]
        · simp [room, waits, Nat.le_of_not_lt room]

/-- The writer is stuck exactly when it has nothing to do, when the peer pauses, or when it is
done. -/
theorem write?_eq_none_iff : outbound.write? terms = none ↔
    match outbound.writer with
    | .idle => outbound.isStopping = false ∧ outbound.isOpen = true ∧ outbound.queue = []
    | .blocked _ _ | .closing _ _ => outbound.lineMoves = false
    | .ended | .crashed | .aborted => True := by
  unfold write?
  cases outbound.writer with
  | idle =>
      -- With an empty queue there is nothing that the writer could take before a stop.
      cases queued : outbound.queue with
      | nil => cases takes : outbound.isOpen <;> simp [heedsStop, takes, queued]
      | cons letter queue => cases heeds : outbound.heedsStop <;> simp
  | blocked letter left => simp
  | closing left deadline => simp
  | ended | crashed | aborted => simp

theorem move?_withdraw (still : outbound.move? terms = none) (call : Nat) :
    (outbound.withdraw call).move? terms = none := by
  obtain ⟨stuck, full⟩ := move?_eq_none_iff.mp still
  -- The writer does not mind who waits.
  have stays : (outbound.withdraw call).write? terms = none := by
    have why := write?_eq_none_iff.mp stuck
    exact write?_eq_none_iff.mpr why
  refine move?_eq_none_iff.mpr ⟨stays, fun waits => full fun nobody => ?_⟩
  simp [withdraw, nobody] at waits

end Outbound

namespace Session

structure Still (session : Session) : Prop where
  outbound : session.outbound.move? session.writeTerms = none
  reader : session.outbound.isStopping = true → session.reader ≠ .running
  calls : ∀ call ∈ session.calls, session.answer call = none ∧ session.lateness call = none
  closer : ∀ closer, session.closer = some closer →
    session.isDown = false ∧ session.now < closer.deadline
  closing : ∀ left deadline, session.outbound.writer = .closing left deadline →
    session.now < deadline
  streams : ∀ stream ∈ session.streams, stream.Rests session.cancelled session.board

variable {session later : Session} {call : Call}

/-! ## Settling a still session -/

theorem foldl_eq_self {α : Type} {move : Session → α → Session} {items : List α}
    (still : ∀ item ∈ items, move session item = session) :
    items.foldl move session = session := by
  induction items with
  | nil => rfl
  | cons item items ih =>
      rw [List.foldl_cons, still item (List.mem_cons_self ..)]
      exact ih fun other member => still other (List.mem_cons_of_mem _ member)

structure LoopsRest (session : Session) : Prop where
  outbound : session.outbound.move? session.writeTerms = none
  reader : session.outbound.isStopping = true → session.reader ≠ .running

def CallsRest (session : Session) : Prop :=
  ∀ call ∈ session.calls, session.answer call = none ∧ session.lateness call = none

theorem CallsRest.settleCalls_eq (rest : session.CallsRest) : session.settleCalls = session := by
  have collected : session.calls.foldl collect session = session := by
    refine foldl_eq_self fun call member => ?_
    rw [collect_eq, (rest call member).1]
  have expired : session.calls.foldl expire session = session := by
    refine foldl_eq_self fun call member => ?_
    rw [expire_eq, (rest call member).2]
  simp only [settleCalls, collected, expired]

theorem settleStreams_of_rests
    (rest : ∀ stream ∈ session.streams, stream.Rests session.cancelled session.board) :
    session.settleStreams = session := by
  simp only [settleStreams, EventStream.settle_of_rests rest]

structure TasksRest (session : Session) : Prop extends LoopsRest session where
  closer : ∀ closer, session.closer = some closer →
    session.isDown = false ∧ session.now < closer.deadline
  closing : ∀ left deadline, session.outbound.writer = .closing left deadline →
    session.now < deadline

namespace TasksRest

theorem settleOutbound_eq (rest : session.TasksRest) : session.settleOutbound = session := by
  simp only [settleOutbound, Outbound.settle_of_still rest.outbound]
  rfl

theorem settleReader_eq (rest : session.TasksRest) : session.settleReader = session := by
  unfold settleReader
  rw [if_neg fun stops => rest.reader stops.1 stops.2]

theorem settleCloser_eq (rest : session.TasksRest) : session.settleCloser = session := by
  unfold settleCloser
  split
  · rfl
  · rename_i closer waits
    obtain ⟨up, early⟩ := rest.closer closer waits
    rw [if_neg (Bool.eq_false_iff.mp up), if_neg (Nat.not_le_of_lt early)]

theorem settleClosing_eq (rest : session.TasksRest) : session.settleClosing = session := by
  unfold settleClosing
  split
  · rename_i left deadline closing
    rw [if_neg (Nat.not_le_of_lt (rest.closing left deadline closing))]
  · rfl

/-- While the tasks rest, settling comes down to the calls, which give the tasks nothing to do, and
the streams. -/
theorem settle_eq (rest : session.TasksRest) (called : session.settleCalls.TasksRest) :
    session.settle = session.settleCalls.settleStreams := by
  simp only [settle, rest.settleOutbound_eq, rest.settleReader_eq, called.settleCloser_eq,
    called.settleClosing_eq]

end TasksRest

namespace Still

theorem tasks (still : session.Still) : session.TasksRest :=
  ⟨⟨still.outbound, still.reader⟩, still.closer, still.closing⟩

/-- The time of no call in progress is up. -/
theorem early (still : session.Still) (member : call ∈ session.calls) :
    session.now < call.deadline := by
  have unhurried := (still.calls call member).2
  refine Nat.lt_of_not_le fun late => ?_
  simp [lateness, late] at unhurried

theorem settleCalls_eq (still : session.Still) : session.settleCalls = session :=
  CallsRest.settleCalls_eq still.calls

theorem settleStreams_eq (still : session.Still) : session.settleStreams = session :=
  settleStreams_of_rests still.streams

theorem settle_eq (still : session.Still) : session.settle = session := by
  have called : session.settleCalls.TasksRest := still.settleCalls_eq.symm ▸ still.tasks
  rw [still.tasks.settle_eq called, still.settleCalls_eq, still.settleStreams_eq]

end Still

/-! ## The way out and the reader -/

theorem LoopsRest.finish (rest : session.LoopsRest) (call : Call)
    (result : Except Failure Response) : (session.finish call result).LoopsRest :=
  ⟨Outbound.move?_withdraw rest.outbound call.number, rest.reader⟩

theorem TasksRest.finish (rest : session.TasksRest) (call : Call)
    (result : Except Failure Response) : (session.finish call result).TasksRest :=
  ⟨rest.toLoopsRest.finish call result, rest.closer, rest.closing⟩

theorem LoopsRest.foldl {α : Type} {move : Session → α → Session}
    (keeps : ∀ session item, LoopsRest session → LoopsRest (move session item))
    (rest : session.LoopsRest) (items : List α) : (items.foldl move session).LoopsRest := by
  induction items generalizing session with
  | nil => exact rest
  | cons item items ih => exact ih (keeps session item rest)

theorem LoopsRest.settleCalls (rest : session.LoopsRest) : session.settleCalls.LoopsRest := by
  refine .foldl ?_ (.foldl ?_ rest _) _
  · intro session call rest
    rw [expire_eq]
    split
    · exact rest.finish _ _
    · exact rest
  · intro session call rest
    rw [collect_eq]
    split
    · exact rest.finish _ _
    · exact rest

/-- What is noted of the way out gives nobody anything to do. -/
theorem move?_noteAll {terms : WriteTerms} (session : Session)
    (still : session.outbound.move? terms = none) (effects : List Effect) :
    (session.noteAll effects).outbound.move? terms = none := by
  induction effects generalizing session with
  | nil => exact still
  | cons effect effects ih =>
      refine ih _ ?_
      cases effect with
      | refused number =>
          simp only [note]
          split
          · exact Outbound.move?_withdraw still _
          · exact still
      | arrived | logged | admitted => exact still

structure SameLoops (session later : Session) : Prop where
  terms : later.writeTerms = session.writeTerms
  reader : later.reader = session.reader
  isStopping : later.outbound.isStopping = session.outbound.isStopping
  writer : later.outbound.writer = session.outbound.writer
  closer : later.closer = session.closer

theorem SameLoops.refl (session : Session) : SameLoops session session := ⟨rfl, rfl, rfl, rfl, rfl⟩

theorem SameLoops.trans {middle : Session} (first : SameLoops session middle)
    (second : SameLoops middle later) : SameLoops session later where
  terms := second.terms.trans first.terms
  reader := second.reader.trans first.reader
  isStopping := second.isStopping.trans first.isStopping
  writer := second.writer.trans first.writer
  closer := second.closer.trans first.closer

theorem sameLoops_noteAll (session : Session) (effects : List Effect) :
    SameLoops session (session.noteAll effects) := by
  induction effects generalizing session with
  | nil => exact .refl session
  | cons effect effects ih =>
      refine .trans ?_ (ih (session.note effect))
      cases effect with
      | refused number =>
          simp only [note]
          split <;> exact ⟨rfl, rfl, rfl, rfl, rfl⟩
      | arrived | logged | admitted => exact ⟨rfl, rfl, rfl, rfl, rfl⟩

theorem move?_settleOutbound (session : Session) :
    session.settleOutbound.outbound.move? session.settleOutbound.writeTerms = none := by
  have terms := (sameLoops_noteAll session.withSettled
    (session.outbound.settle session.writeTerms).1).terms
  have settled : session.withSettled.outbound.move? session.writeTerms = none :=
    Outbound.move?_settle session.writeTerms session.outbound
  change (session.withSettled.noteAll _).outbound.move? (session.withSettled.noteAll _).writeTerms =
    none
  rw [terms]
  exact move?_noteAll _ settled _

theorem loopsRest_settleReader (still : session.outbound.move? session.writeTerms = none) :
    session.settleReader.LoopsRest := by
  unfold settleReader
  split
  · exact ⟨still, fun _ => nofun⟩
  · rename_i goesOn
    exact ⟨still, fun stops running => goesOn ⟨stops, running⟩⟩

theorem LoopsRest.congr (rest : session.LoopsRest) (outbound : later.outbound = session.outbound)
    (terms : later.writeTerms = session.writeTerms) (reader : later.reader = session.reader) :
    later.LoopsRest := by
  constructor
  · rw [outbound, terms]
    exact rest.outbound
  · rw [outbound, reader]
    exact rest.reader

theorem LoopsRest.cutWriter (rest : session.LoopsRest) : session.cutWriter.LoopsRest := by
  unfold Session.cutWriter
  split
  · exact rest
  · have noted := sameLoops_noteAll
      { session.record (.logged (taskAborted session.ioTimeout)) with
        outbound := (session.outbound.halt .aborted).2 } (session.outbound.halt .aborted).1
    have halted : (session.outbound.halt .aborted).2.move? session.writeTerms = none :=
      Outbound.move?_eq_none_iff.mpr ⟨rfl, fun waits => absurd rfl waits⟩
    have still := move?_noteAll
      { session.record (.logged (taskAborted session.ioTimeout)) with
        outbound := (session.outbound.halt .aborted).2 } halted (session.outbound.halt .aborted).1
    refine ⟨noted.terms ▸ still, fun stops => ?_⟩
    exact noted.reader ▸ rest.reader (noted.isStopping.symm.trans stops)

theorem LoopsRest.cutReader (rest : session.LoopsRest) : session.cutReader.LoopsRest := by
  unfold Session.cutReader
  split
  · exact ⟨rest.outbound, fun _ => nofun⟩
  · exact rest

theorem LoopsRest.dischargeCloser (rest : session.LoopsRest) (closer : Closer) :
    (session.dischargeCloser closer).LoopsRest := rest.congr rfl rfl rfl

theorem LoopsRest.loseCloser (rest : session.LoopsRest) (closer : Closer) :
    (session.loseCloser closer).LoopsRest := rest.congr rfl rfl rfl

theorem LoopsRest.settleCloser (rest : session.LoopsRest) : session.settleCloser.LoopsRest := by
  unfold Session.settleCloser
  split
  · exact rest
  · split
    · exact rest.dischargeCloser _
    · split
      · split
        · exact rest.loseCloser _
        · exact rest.cutWriter.cutReader.dischargeCloser _
      · exact rest

theorem LoopsRest.settleClosing (rest : session.LoopsRest) : session.settleClosing.LoopsRest := by
  unfold Session.settleClosing
  split
  · split
    · obtain ⟨_, full⟩ := Outbound.move?_eq_none_iff.mp rest.outbound
      exact ⟨Outbound.move?_eq_none_iff.mpr ⟨rfl, full⟩, rest.reader⟩
    · exact rest
  · exact rest

/-- After settling neither the writer nor the reader has anything to do. -/
theorem loopsRest_settle (session : Session) : session.settle.LoopsRest := by
  have called := (loopsRest_settleReader (move?_settleOutbound session)).settleCalls
  exact called.settleCloser.settleClosing.settleCloser.congr rfl rfl rfl

/-! ## Calls and closing -/

/-- A call that is in progress after some have ended was spared. -/
theorem EndsWhere.spared {verdict : Call → Option (Except Failure Response)}
    (ended : EndsWhere verdict session later) (member : call ∈ later.calls) :
    call ∈ session.calls ∧ verdict call = none := by
  have before := ended.origin call member
  refine ⟨before, ?_⟩
  cases judged : verdict call with
  | none => rfl
  | some result => exact absurd rfl ((ended.ends call before result judged).absent call member)

theorem EndsWhere.answer {verdict : Call → Option (Except Failure Response)}
    (ended : EndsWhere verdict session later) (member : call ∈ later.calls) :
    later.answer call = session.answer call := by
  obtain ⟨before, spared⟩ := ended.spared member
  have kept := ended.keeps call before spared
  simp only [Session.answer, kept.waiting, kept.slot]

theorem CallsRest.ends {verdict : Call → Option (Except Failure Response)}
    (rest : session.CallsRest) (ended : EndsWhere verdict session later)
    (now : later.now = session.now) : later.CallsRest := by
  intro call member
  obtain ⟨unanswered, early⟩ := rest call (ended.spared member).1
  rw [ended.answer member]
  exact ⟨unanswered, by simpa only [lateness, now] using early⟩

theorem callsRest_settleCalls (sound : session.Sound) : session.settleCalls.CallsRest := by
  have ended := endsWhere_settleCalls sound
  intro call member
  have judged := (ended.spared member).2
  rw [Option.or_eq_none_iff] at judged
  rw [ended.answer member]
  refine ⟨judged.1, ?_⟩
  simpa only [lateness, (steady_settleCalls session).now] using judged.2

def CloserRests (session : Session) : Prop :=
  ∀ closer, session.closer = some closer → session.isDown = false ∧ session.now < closer.deadline

theorem closerRests_settleCloser (session : Session) : session.settleCloser.CloserRests := by
  unfold settleCloser
  split
  · rename_i nobody
    intro closer waits
    rw [nobody] at waits
    cases waits
  · rename_i closer waits
    split
    · exact nofun
    · rename_i up
      split
      · split <;> exact nofun
      · rename_i early
        intro other same
        obtain rfl := Option.some.inj (waits.symm.trans same)
        exact ⟨Bool.eq_false_iff.mpr up, Nat.lt_of_not_le early⟩

def ClosingRests (session : Session) : Prop :=
  ∀ left deadline, session.outbound.writer = .closing left deadline → session.now < deadline

theorem closingRests_settleClosing (session : Session) : session.settleClosing.ClosingRests := by
  unfold settleClosing
  split
  · rename_i left deadline closing
    split
    · exact nofun
    · rename_i early
      intro otherLeft other same
      rw [closing] at same
      cases same
      exact Nat.lt_of_not_le early
  · rename_i working
    intro left deadline closing
    exact absurd closing (working left deadline)

/-- Serving the closer leaves the writer as it is or cuts it off. -/
theorem ClosingRests.settleCloser (rest : session.ClosingRests) :
    session.settleCloser.ClosingRests := by
  have clock := (steady_settleCloser session).now
  intro left deadline closing
  rw [clock]
  refine rest left deadline ?_
  revert closing
  unfold Session.settleCloser
  split
  · exact id
  · split
    · exact id
    · split
      · split
        · exact id
        · intro closing
          have cut : session.cutWriter.outbound.writer = .closing left deadline := by
            have reader : session.cutWriter.cutReader.outbound = session.cutWriter.outbound := by
              unfold Session.cutReader
              split <;> rfl
            rw [← reader]
            exact closing
          cases done : session.outbound.writer.isDone with
          | true => exact cutWriter_of_isDone done ▸ cut
          | false => cases (thins_cutWriter done).writer.symm.trans cut
      · exact id

/-! ## Settling leaves nothing to do -/

theorem still_settle (sound : session.Sound) : session.settle.Still := by
  have read : session.settleOutbound.settleReader.Sound := by
    have noted := endsWhere_settleOutbound sound
    exact (quiet_settleReader _).sound noted.sound
  have calls := callsRest_settleCalls read
  have loops := session.loopsRest_settle
  have called := (endsWhere_settleCalls read).sound
  generalize phase : session.settleOutbound.settleReader.settleCalls = served at calls called
  obtain ⟨_, closed, _⟩ := endsWhere_serveCloser called
  have clock := ((steady_settleCloser served).trans (steady_settleClosing _)).trans
    (steady_settleCloser _)
  have calls := calls.ends closed clock.now
  have closing := (closingRests_settleClosing served.settleCloser).settleCloser
  have closer := closerRests_settleCloser served.settleCloser.settleClosing
  have whole : session.settle =
      served.settleCloser.settleClosing.settleCloser.settleStreams := by rw [← phase]; rfl
  rw [whole] at loops ⊢
  exact ⟨loops.outbound, loops.reader, calls, closer, closing, EventStream.rests_settle _ _ _⟩

/-- Settling once is settling for good. -/
theorem settle_settle (sound : session.Sound) : session.settle.settle = session.settle :=
  (still_settle sound).settle_eq

/-! ## Runs -/

theorem Still.create (settings : Settings) (lineCapacity : Nat) (loggerPanics : Bool) :
    (create settings lineCapacity loggerPanics).Still where
  outbound := rfl
  reader := fun stops => absurd stops Bool.false_ne_true
  calls := fun _ member => absurd member List.not_mem_nil
  closer := by
    intro closer waits
    cases waits
  closing := by
    intro left deadline closing
    cases closing
  streams := fun _ member => absurd member List.not_mem_nil

theorem still_step (sound : session.Sound) {next : Step}
    (few : (session.step next).2.callCount < 2 ^ 64) : (session.step next).2.Still :=
  still_settle (sound.act few)

/-- After a step, whatever follows, nothing can move. -/
theorem still_of_run (sound : session.Sound) {next : Step} {steps : List Step}
    (few : (session.run (next :: steps)).callCount < 2 ^ 64) :
    (session.run (next :: steps)).Still := by
  induction steps generalizing session next with
  | nil => exact still_step sound few
  | cons other steps ih =>
      rw [run_cons] at few ⊢
      have counted := (session.step next).2.callCount_run_le (other :: steps)
      exact ih (sound.step (Nat.lt_of_le_of_lt counted few)) few

/-- Between two steps nothing can move. -/
theorem still_run (settings : Settings) (lineCapacity : Nat) (loggerPanics : Bool)
    (steps : List Step)
    (few : ((Session.create settings lineCapacity loggerPanics).run steps).callCount < 2 ^ 64) :
    ((Session.create settings lineCapacity loggerPanics).run steps).Still := by
  cases steps with
  | nil => exact .create settings lineCapacity loggerPanics
  | cons next steps =>
      have sound := Sound.create settings lineCapacity loggerPanics
      exact still_of_run sound few

/-- A step that does nothing to a still session leaves it as it is. -/
theorem Still.step_eq (still : session.Still) {next : Step}
    (unchanged : (session.act next).2 = session) : (session.step next).2 = session := by
  rw [step_eq_settle, unchanged, still.settle_eq]

end Session

end ServerManagement
