import ServerManagement.Proofs.Session.LetterSteps
import ServerManagement.Proofs.Session.Stillness

/-!
How the reader ends. While it runs the notice board is open, and when it stops by itself it closes
the board; but a logger that panics at its report, or closing the connection without any time to
wait for it, takes it away and leaves the board open for good. A logger that panics spares the
reader when the connection is closed: it stops the closer before that can cut anything off.
-/

set_option autoImplicit false

namespace ServerManagement

def Occurrence.closer? : Occurrence → Option Nat
  | .closed closer _ => some closer
  | .arrived _ | .logged _ | .ended _ _ | .drewTwice _ _ | .closerLost _ => none

namespace Session

/-- The closers to whom it was reported that the connection is closed. -/
def returned (session : Session) : List Nat := session.history.filterMap Occurrence.closer?

def Step.failsReading : Step → Bool
  | .receive (.data frame) =>
    match decodeFrame frame with
    | .error _ => true
    | .ok _ => false
  | .receive .broken | .vanish => true
  | _ => false

def Step.closes : Step → Bool
  | .close => true
  | _ => false

/-- The connection is shut down, or given up. -/
def Step.shutsDown : Step → Bool
  | .close | .release => true
  | _ => false

/-- The step ends a running reader: what comes in can be the last that it deals with, or the
connection is given up. -/
def Step.stopsReader (next : Step) : Bool :=
  next.failsReading || next.shutsDown ||
    match next with
    | .receive .farewell | .receive .ended => true
    | _ => false

/-- The step takes the running reader away and leaves the board open. With a logger that panics an
error is reported to it; with any other the connection is closed without time to wait for its
tasks. -/
def strands (session : Session) (next : Step) : Bool :=
  session.reader == .running &&
    if session.loggerPanics then next.failsReading
    else next.closes && !session.isClosed && session.ioTimeout == 0

/-- The steps that take the reader away and leave the board open. -/
def strandings (session : Session) : List Step → List Step :=
  session.along fun session next _ => if session.strands next then [next] else []

structure Closing (session : Session) : Prop where
  isClosed : session.isClosed = true → session.outbound.isStopping = true
  closer : session.closer ≠ none → session.outbound.isStopping = true
  returned : session.returned ≠ [] → session.outbound.isStopping = true

structure Holds (session later : Session) : Prop where
  isClosed : later.isClosed = session.isClosed
  isStopping : later.outbound.isStopping = session.outbound.isStopping
  closer : later.closer ≠ none → session.closer ≠ none
  returned : later.returned ≠ [] → session.returned ≠ [] ∨ session.closer ≠ none
  ioTimeout : later.ioTimeout = session.ioTimeout
  loggerPanics : later.loggerPanics = session.loggerPanics

structure Aside (session later : Session) : Prop extends Holds session later where
  reader : later.reader = session.reader
  noticesClosed : later.board.isClosed = session.board.isClosed

inductive ReaderCourse (session later : Session) : Prop
  | same (reader : later.reader = session.reader)
      (noticesClosed : later.board.isClosed = session.board.isClosed)
  | stops (running : session.reader = .running) (stopped : later.reader = .stopped)
      (noticesClosed : later.board.isClosed = true)

variable {session middle later : Session} {next : Step} {steps : List Step}

theorem Holds.trans (first : Holds session middle) (second : Holds middle later) :
    Holds session later where
  isClosed := second.isClosed.trans first.isClosed
  isStopping := second.isStopping.trans first.isStopping
  closer := fun waits => first.closer (second.closer waits)
  returned := by
    intro reported
    rcases second.returned reported with before | waits
    · exact first.returned before
    · exact .inr (first.closer waits)
  ioTimeout := second.ioTimeout.trans first.ioTimeout
  loggerPanics := second.loggerPanics.trans first.loggerPanics

theorem Holds.closing (holds : Holds session later) (closing : session.Closing) :
    later.Closing := by
  constructor
  · rw [holds.isClosed, holds.isStopping]
    exact closing.isClosed
  · rw [holds.isStopping]
    exact fun waits => closing.closer (holds.closer waits)
  · rw [holds.isStopping]
    intro reported
    rcases holds.returned reported with before | waits
    · exact closing.returned before
    · exact closing.closer waits

theorem Aside.refl (session : Session) : Aside session session :=
  ⟨⟨rfl, rfl, id, .inl, rfl, rfl⟩, rfl, rfl⟩

theorem Aside.trans (first : Aside session middle) (second : Aside middle later) :
    Aside session later :=
  ⟨first.toHolds.trans second.toHolds, second.reader.trans first.reader,
    second.noticesClosed.trans first.noticesClosed⟩

theorem Aside.foldl {α : Type} {move : Session → α → Session}
    (aside : ∀ session item, Aside session (move session item)) (session : Session)
    (items : List α) : Aside session (items.foldl move session) := by
  induction items generalizing session with
  | nil => exact .refl session
  | cons item items ih => exact (aside session item).trans (ih _)

theorem Aside.course (aside : Aside session later) : ReaderCourse session later :=
  .same aside.reader aside.noticesClosed

theorem ReaderCourse.trans (first : ReaderCourse session middle)
    (second : ReaderCourse middle later) : ReaderCourse session later := by
  cases first with
  | same reader noticesClosed =>
      cases second with
      | same laterReader laterClosed =>
          exact .same (laterReader.trans reader) (laterClosed.trans noticesClosed)
      | stops running stopped closed => exact .stops (reader.symm.trans running) stopped closed
  | stops running stopped closed =>
      cases second with
      | same laterReader laterClosed =>
          exact .stops running (laterReader.trans stopped) (laterClosed.trans closed)
      | stops again => cases stopped.symm.trans again

/-! ## What does not concern the reader -/

theorem aside_record (session : Session) (occurrence : Occurrence)
    (silent : occurrence.closer? = none) : Aside session (session.record occurrence) := by
  refine ⟨⟨rfl, rfl, id, fun reported => .inl ?_, rfl, rfl⟩, rfl, rfl⟩
  intro before
  refine reported ?_
  simp only [returned] at before
  simp [record, returned, before, silent]

theorem aside_finish (session : Session) (call : Call) (result : Except Failure Response) :
    Aside session (session.finish call result) := by
  have dismissed : Aside session (session.dismiss call) :=
    ⟨⟨rfl, rfl, id, .inl, rfl, rfl⟩, rfl, rfl⟩
  exact dismissed.trans (aside_record _ _ rfl)

theorem aside_note (session : Session) (effect : Effect) : Aside session (session.note effect) := by
  cases effect with
  | refused number =>
      simp only [note]
      split
      · exact session.aside_finish _ _
      · exact .refl session
  | arrived arrival => exact session.aside_record _ rfl
  | logged line => exact session.aside_record _ rfl
  | admitted number => exact .refl session

theorem aside_noteAll (session : Session) (effects : List Effect) :
    Aside session (session.noteAll effects) := .foldl aside_note session effects

/-- A change on the way out that does not stop the connection. -/
theorem aside_withOutbound (session : Session) (outbound : Outbound)
    (same : outbound.isStopping = session.outbound.isStopping) :
    Aside session { session with outbound } := ⟨⟨rfl, same, id, .inl, rfl, rfl⟩, rfl, rfl⟩

theorem aside_settleOutbound (session : Session) : Aside session session.settleOutbound := by
  have flags := Outbound.flags_settle session.writeTerms session.outbound
  exact (session.aside_withOutbound _ flags.1).trans (aside_noteAll _ _)

theorem aside_settleCalls (session : Session) : Aside session session.settleCalls := by
  refine (Aside.foldl ?_ session _).trans (.foldl ?_ _ _)
  · intro session call
    rw [collect_eq]
    split
    · exact session.aside_finish _ _
    · exact .refl session
  · intro session call
    rw [expire_eq]
    split
    · exact session.aside_finish _ _
    · exact .refl session

theorem aside_settleClosing (session : Session) : Aside session session.settleClosing := by
  unfold settleClosing
  split
  · split
    · exact session.aside_withOutbound _ rfl
    · exact .refl session
  · exact .refl session

theorem aside_settleStreams (session : Session) : Aside session session.settleStreams :=
  ⟨⟨rfl, rfl, id, .inl, rfl, rfl⟩, rfl,
    (EventStream.settles_settle session.cancelled session.board session.streams).isClosed⟩

theorem aside_cutWriter (session : Session) : Aside session session.cutWriter := by
  unfold cutWriter
  split
  · exact .refl session
  · have logged := session.aside_record (.logged (taskAborted session.ioTimeout)) rfl
    have halted := (session.record (.logged (taskAborted session.ioTimeout))).aside_withOutbound
      (session.outbound.halt .aborted).2 rfl
    exact (logged.trans halted).trans (aside_noteAll _ (session.outbound.halt .aborted).1)

theorem holds_cutReader (running : session.reader = .running) :
    Holds session session.cutReader ∧ session.cutReader.closer = session.closer ∧
      session.cutReader.reader = .aborted ∧
      session.cutReader.board.isClosed = session.board.isClosed := by
  have logged := session.aside_record (.logged (taskAborted session.ioTimeout)) rfl
  have aborted : Holds (session.record (.logged (taskAborted session.ioTimeout)))
      { session.record (.logged (taskAborted session.ioTimeout)) with reader := .aborted } :=
    ⟨rfl, rfl, id, .inl, rfl, rfl⟩
  unfold cutReader
  rw [if_pos running]
  exact ⟨logged.toHolds.trans aborted, rfl, rfl, rfl⟩

/-- Only a closer that waits is served. -/
theorem aside_dischargeCloser (session : Session) {closer : Closer}
    (waits : session.closer = some closer) : Aside session (session.dischargeCloser closer) := by
  have present : session.closer ≠ none := by
    rw [waits]
    exact nofun
  exact ⟨⟨rfl, rfl, fun another => absurd rfl another, fun _ => .inr present, rfl, rfl⟩, rfl, rfl⟩

theorem aside_loseCloser (session : Session) (closer : Closer) :
    Aside session (session.loseCloser closer) := by
  have recorded := (session.aside_record (.logged (taskAborted session.ioTimeout)) rfl).trans
    (aside_record _ (.closerLost closer.number) rfl)
  exact ⟨⟨rfl, rfl, fun waits => absurd rfl waits, recorded.returned, rfl, rfl⟩, rfl, rfl⟩

def cutsReader (session : Session) : Bool :=
  session.reader == .running && (!session.loggerPanics &&
    session.closer.any fun closer => closer.deadline ≤ session.now)

/-- Unless a reader that runs too long is cut off, to serve the closer does not concern it. -/
theorem settleCloser_cases (session : Session) :
    session.cutsReader = false ∧ Aside session session.settleCloser ∨
      session.cutsReader = true ∧ Holds session session.settleCloser ∧
        session.settleCloser.reader = .aborted ∧
        session.settleCloser.board.isClosed = session.board.isClosed := by
  unfold settleCloser
  split
  · rename_i nobody
    exact .inl ⟨by simp [cutsReader, nobody], .refl session⟩
  · rename_i closer waits
    split
    · rename_i down
      have ended : session.reader ≠ .running := by
        simpa [isDown] using (Bool.and_eq_true_iff.mp down).2
      exact .inl ⟨by simp [cutsReader, ended], session.aside_dischargeCloser waits⟩
    · split
      · rename_i late
        split
        · rename_i panics
          exact .inl ⟨by simp [cutsReader, panics], session.aside_loseCloser closer⟩
        · rename_i calm
          have cut := session.aside_cutWriter
          have still : session.cutWriter.closer = some closer :=
            session.closer_cutWriter.trans waits
          by_cases running : session.reader = .running
          · obtain ⟨holds, waiting, reader, noticesClosed⟩ :=
              holds_cutReader (cut.reader.trans running)
            have discharged := aside_dischargeCloser _ (waiting.trans still)
            have cuts : session.cutsReader = true := by
              simp [cutsReader, running, calm, waits, late]
            exact .inr ⟨cuts, (cut.toHolds.trans holds).trans discharged.toHolds,
              discharged.reader.trans reader,
              discharged.noticesClosed.trans (noticesClosed.trans cut.noticesClosed)⟩
          · have spared : session.cutWriter.cutReader = session.cutWriter := by
              unfold cutReader
              rw [if_neg (cut.reader ▸ running)]
            rw [spared]
            exact .inl ⟨by simp [cutsReader, running],
              cut.trans (session.cutWriter.aside_dischargeCloser still)⟩
      · rename_i early
        exact .inl ⟨by simp [cutsReader, waits, early], .refl session⟩

/-! ## Settling -/

theorem settleReader_course (session : Session) :
    Holds session session.settleReader ∧ ReaderCourse session session.settleReader ∧
      (session.outbound.isStopping = true → session.settleReader.reader ≠ .running) ∧
      (session.outbound.isStopping = false → session.settleReader.reader = session.reader) := by
  unfold settleReader
  split
  · rename_i stops
    have stopped : session.stopReader.reader ≠ .running := ReaderState.noConfusion
    refine ⟨⟨rfl, rfl, id, .inl, rfl, rfl⟩, ?_, fun _ => stopped, fun up => ?_⟩
    · exact .stops stops.2 rfl (Board.isClosed_close _)
    · cases up.symm.trans stops.1
  · rename_i goesOn
    exact ⟨(Aside.refl session).toHolds, (Aside.refl session).course,
      fun stops running => goesOn ⟨stops, running⟩, fun _ => rfl⟩

/-- While the connection stops no reader runs on, so that there is none to be cut off when the
closer is served. -/
theorem settle_course (closing : session.Closing) :
    Holds session session.settle ∧ ReaderCourse session session.settle ∧
      (session.outbound.isStopping = true → session.settle.reader ≠ .running) ∧
      (session.outbound.isStopping = false → session.settle.reader = session.reader) := by
  have out := session.aside_settleOutbound
  obtain ⟨read, course, stopped, kept⟩ := settleReader_course session.settleOutbound
  have closing := read.closing (out.toHolds.closing closing)
  have stopped (stops : session.settleOutbound.settleReader.outbound.isStopping = true) :
      session.settleOutbound.settleReader.reader ≠ .running := stopped (read.isStopping ▸ stops)
  generalize phase : session.settleOutbound.settleReader = served
    at read course stopped kept closing
  have serves {later : Session} (aside : Aside served later) : Aside served later.settleCloser := by
    rcases later.settleCloser_cases with ⟨_, spared⟩ | ⟨cuts, _⟩
    · exact aside.trans spared
    · exfalso
      obtain ⟨running, waits⟩ := Bool.and_eq_true_iff.mp cuts
      have waits : later.closer ≠ none := by
        intro nobody
        simp [nobody] at waits
      refine stopped (closing.closer (aside.closer waits)) ?_
      rw [← aside.reader]
      exact eq_of_beq running
  have frame := (serves served.aside_settleCalls).trans (aside_settleClosing _)
  have rest := (serves frame).trans (aside_settleStreams _)
  have whole : session.settle =
      served.settleCalls.settleCloser.settleClosing.settleCloser.settleStreams := by
    rw [← phase]
    rfl
  rw [whole]
  refine ⟨(out.toHolds.trans read).trans rest.toHolds,
    (out.course.trans course).trans rest.course, fun stops => ?_, fun up => ?_⟩
  · rw [rest.reader]
    exact stopped (read.isStopping.trans (out.isStopping.trans stops))
  · exact rest.reader.trans ((kept (out.isStopping.trans up)).trans out.reader)

/-! ## Acting -/

inductive ReaderAct (session later : Session) : Bool → Prop
  | goes (course : ReaderCourse session later) : ReaderAct session later false
  | stranded (running : session.reader = .running) (gone : later.reader ≠ .running)
      (noticesClosed : later.board.isClosed = session.board.isClosed) : ReaderAct session later true

structure Acts (session later : Session) (strands : Bool) : Prop where
  closing : session.Closing → later.Closing
  ioTimeout : later.ioTimeout = session.ioTimeout
  loggerPanics : later.loggerPanics = session.loggerPanics
  reader : ReaderAct session later strands

theorem Holds.acts (holds : Holds session later) {strands : Bool}
    (reader : ReaderAct session later strands) : Acts session later strands :=
  ⟨holds.closing, holds.ioTimeout, holds.loggerPanics, reader⟩

theorem Aside.acts (aside : Aside session later) : Acts session later false :=
  aside.toHolds.acts (.goes aside.course)

theorem Aside.trans_acts (first : Aside session middle) {strands : Bool}
    (second : Acts middle later strands) : Acts session later strands where
  closing closing := second.closing (first.closing closing)
  ioTimeout := second.ioTimeout.trans first.ioTimeout
  loggerPanics := second.loggerPanics.trans first.loggerPanics
  reader := by
    cases second.reader with
    | goes course => exact .goes (first.course.trans course)
    | stranded running gone noticesClosed =>
        exact .stranded (first.reader.symm.trans running) gone
          (noticesClosed.trans first.noticesClosed)

theorem strands_of_harmless (reads : next.failsReading = false) (stays : next.closes = false) :
    session.strands next = false := by
  simp [strands, reads, stays]

theorem aside_startCall (session : Session) (method : String) (params : Params)
    (terms : CallTerms) : Aside session (session.startCall method params terms) := by
  have counted : Aside session { session with callCount := session.callCount + 1 } :=
    ⟨⟨rfl, rfl, id, .inl, rfl, rfl⟩, rfl, rfl⟩
  have drawn : Aside session
      { session with
        callCount := session.callCount + 1
        correlator := session.correlator.nextId.2 } := ⟨⟨rfl, rfl, id, .inl, rfl, rfl⟩, rfl, rfl⟩
  unfold startCall
  dsimp only
  split
  · exact counted.trans (aside_record _ _ rfl)
  · split
    · exact drawn.trans (aside_record _ _ rfl)
    · split
      · exact drawn.trans (aside_record _ _ rfl)
      · refine drawn.trans ?_
        unfold enroll
        split
        · rename_i correlator _
          have entered : Aside
              { session with
                callCount := session.callCount + 1
                correlator := session.correlator.nextId.2 }
              { session with callCount := session.callCount + 1, correlator } :=
            ⟨⟨rfl, rfl, id, .inl, rfl, rfl⟩, rfl, rfl⟩
          exact entered.trans (aside_record _ _ rfl)
        · exact ⟨⟨rfl, rfl, id, .inl, rfl, rfl⟩, rfl, rfl⟩

theorem aside_cancel (session : Session) (token : Token) :
    Aside session (session.cancel token) := by
  have cancelled : Aside session { session with cancelled := token :: session.cancelled } :=
    ⟨⟨rfl, rfl, id, .inl, rfl, rfl⟩, rfl, rfl⟩
  refine cancelled.trans (.foldl ?_ _ _)
  intro session call
  split
  · exact session.aside_finish _ _
  · exact .refl session

/-- A change of the board that does not close it. -/
theorem aside_withBoard (session : Session) {board : Board}
    (same : board.isClosed = session.board.isClosed) : Aside session { session with board } :=
  ⟨⟨rfl, rfl, id, .inl, rfl, rfl⟩, rfl, same⟩

theorem holds_stopReader (session : Session) : Holds session session.stopReader :=
  ⟨rfl, rfl, id, .inl, rfl, rfl⟩

theorem holds_failReading (session : Session) (line : LogLine) :
    Holds session (session.failReading line) := by
  have logged := session.aside_record (.logged line) rfl
  unfold failReading
  dsimp only
  split
  · exact logged.toHolds.trans ⟨rfl, rfl, id, .inl, rfl, rfl⟩
  · exact logged.toHolds.trans (holds_stopReader _)

/-- What comes in does not close the connection. -/
theorem holds_receive (session : Session) (incoming : Incoming) :
    Holds session (session.receive incoming) := by
  unfold receive
  split
  · exact (Aside.refl session).toHolds
  · cases incoming with
    | control => exact (Aside.refl session).toHolds
    | broken => exact session.holds_failReading _
    | ended =>
        have logged := session.aside_record (.logged streamEnded) rfl
        exact logged.toHolds.trans (holds_stopReader _)
    | farewell =>
        have logged := session.aside_record (.logged peerClosed) rfl
        have answered := (session.record (.logged peerClosed)).stopReader.aside_withOutbound
          { session.outbound with line := { session.outbound.line with isClosing := true } } rfl
        exact (logged.toHolds.trans (holds_stopReader _)).trans answered.toHolds
    | data frame =>
        dsimp only
        split
        · exact session.holds_failReading _
        · exact ⟨rfl, rfl, id, .inl, rfl, rfl⟩
        · exact (session.aside_withBoard (session.board.isClosed_post _)).toHolds

theorem readerAct_failReading (running : session.reader = .running) (line : LogLine) :
    ReaderAct session (session.failReading line) session.loggerPanics := by
  have same : (session.record (.logged line)).loggerPanics = session.loggerPanics := rfl
  unfold failReading
  dsimp only
  cases panics : session.loggerPanics with
  | true =>
      rw [if_pos (same.trans panics)]
      exact .stranded running nofun rfl
  | false =>
      rw [if_neg (same.trans panics ▸ Bool.false_ne_true)]
      exact .goes (.stops running rfl (Board.isClosed_close _))

theorem readerAct_receive (session : Session) (incoming : Incoming) :
    ReaderAct session (session.receive incoming) (session.strands (.receive incoming)) := by
  unfold receive
  split
  · rename_i gone
    have spared : session.strands (.receive incoming) = false := by simp [strands, gone]
    rw [spared]
    exact .goes (.same rfl rfl)
  · rename_i running
    have running : session.reader = .running := Classical.not_not.mp running
    have flag : session.strands (.receive incoming) =
        (session.loggerPanics && Step.failsReading (.receive incoming)) := by
      cases panics : session.loggerPanics <;> simp [strands, running, panics, Step.closes]
    rw [flag]
    cases incoming with
    | control =>
        have reads : Step.failsReading (.receive .control) = false := rfl
        rw [reads, Bool.and_false]
        exact .goes (.same rfl rfl)
    | broken =>
        have fails : Step.failsReading (.receive .broken) = true := rfl
        rw [fails, Bool.and_true]
        exact readerAct_failReading running readFailed
    | ended =>
        have reads : Step.failsReading (.receive .ended) = false := rfl
        rw [reads, Bool.and_false]
        exact .goes (.stops running rfl (Board.isClosed_close _))
    | farewell =>
        have reads : Step.failsReading (.receive .farewell) = false := rfl
        rw [reads, Bool.and_false]
        exact .goes (.stops running rfl (Board.isClosed_close _))
    | data frame =>
        have fails : Step.failsReading (.receive (.data frame)) =
            match decodeFrame frame with
            | .error _ => true
            | .ok _ => false := rfl
        rw [fails]
        dsimp only
        cases decodeFrame frame with
        | error failure =>
            rw [Bool.and_true]
            exact readerAct_failReading running (frameRejected failure)
        | ok inbound =>
            rw [Bool.and_false]
            cases inbound with
            | response response => exact .goes (.same rfl rfl)
            | notification notification =>
                exact .goes (.same rfl (session.board.isClosed_post notification))

theorem acts_receive (session : Session) (incoming : Incoming) :
    Acts session (session.receive incoming) (session.strands (.receive incoming)) :=
  (session.holds_receive incoming).acts (session.readerAct_receive incoming)

/-- Who closes the connection without any time to wait for its tasks cuts the reader off. -/
theorem acts_close (session : Session) :
    Acts session session.close (session.strands .close) := by
  cases closed : session.isClosed with
  | true =>
      have spared : session.strands .close = false := by simp [strands, closed, Step.failsReading]
      rw [spared]
      rw [close_of_closed closed]
      exact ⟨fun closing => ⟨closing.isClosed, closing.closer, fun _ => closing.isClosed closed⟩,
        rfl, rfl, .goes (.same rfl rfl)⟩
  | false =>
      have stops : session.withCloser.Closing := ⟨fun _ => rfl, fun _ => rfl, fun _ => rfl⟩
      have flag : session.strands .close = session.withCloser.cutsReader := by
        have late : (session.ioTimeout == 0) =
            decide (session.now + session.ioTimeout ≤ session.now) := by
          rw [Bool.beq_eq_decide_eq]
          exact decide_eq_decide.mpr (by omega)
        have same : session.withCloser.cutsReader = (session.reader == .running &&
            (!session.loggerPanics &&
              decide (session.now + session.ioTimeout ≤ session.now))) := rfl
        rw [same, strands, closed, late]
        cases session.loggerPanics <;> rfl
      rw [close_eq closed, flag]
      rcases session.withCloser.settleCloser_cases with
        ⟨spares, served⟩ | ⟨cuts, served, reader, noticesClosed⟩
      · rw [spares]
        exact ⟨fun _ => served.closing stops, served.ioTimeout, served.loggerPanics,
          .goes (.same served.reader served.noticesClosed)⟩
      · have running : session.reader = .running := eq_of_beq (Bool.and_eq_true_iff.mp cuts).1
        have gone : session.withCloser.settleCloser.reader ≠ .running := by
          rw [reader]
          exact ReaderState.noConfusion
        rw [cuts]
        exact ⟨fun _ => served.closing stops, served.ioTimeout, served.loggerPanics,
          .stranded running gone noticesClosed⟩

/-- What comes in and is not the last that the reader deals with does not concern its end. -/
theorem aside_receive (session : Session) {incoming : Incoming}
    (goesOn : Step.stopsReader (.receive incoming) = false) :
    Aside session (session.receive incoming) := by
  unfold receive
  split
  · exact .refl session
  · cases incoming with
    | control => exact .refl session
    | broken | ended | farewell => cases goesOn
    | data frame =>
        dsimp only
        split
        · rename_i failure rejected
          simp [Step.stopsReader, Step.failsReading, Step.shutsDown, rejected] at goesOn
        · exact ⟨⟨rfl, rfl, id, .inl, rfl, rfl⟩, rfl, rfl⟩
        · exact session.aside_withBoard (session.board.isClosed_post _)

theorem aside_act (goesOn : next.stopsReader = false) : Aside session (session.act next).2 := by
  cases next with
  | call method params terms => exact session.aside_startCall method params terms
  | abandonCall number =>
      simp only [act, abandonCall]
      split
      · exact ⟨⟨rfl, rfl, id, .inl, rfl, rfl⟩, rfl, rfl⟩
      · exact .refl session
  | cancel token => exact session.aside_cancel token
  | receive incoming => exact session.aside_receive goesOn
  | resume =>
      have resumed := session.aside_withOutbound
        { session.outbound with line := session.outbound.line.resume.2 } rfl
      exact resumed.trans (aside_noteAll _ (session.outbound.line.resume.1.map .arrived))
  | subscribe topic => exact session.aside_withBoard (session.board.isClosed_subscribe topic)
  | unsubscribe topic => exact session.aside_withBoard rfl
  | readMailbox number => exact session.aside_withBoard (session.board.isClosed_read number)
  | abandonMailbox number => exact session.aside_withBoard rfl
  | openStream kind token =>
      have subscribed := session.board.isClosed_subscribe kind.topic
      simp only [act, openStream]
      generalize session.board.subscribe kind.topic = result at subscribed
      obtain ⟨result, board⟩ := result
      cases result <;> exact ⟨⟨rfl, rfl, id, .inl, rfl, rfl⟩, rfl, subscribed⟩
  | readStream number =>
      simp only [act, readStream]
      split <;> exact ⟨⟨rfl, rfl, id, .inl, rfl, rfl⟩, rfl, rfl⟩
  | abandonClose number =>
      simp only [act, abandonClose]
      split
      · split
        · exact ⟨⟨rfl, rfl, fun waits => absurd rfl waits, .inl, rfl, rfl⟩, rfl, rfl⟩
        · exact .refl session
      · exact .refl session
  | vanish | close | release => cases goesOn
  | setCallTimeout | advance | pause | abandonStream | linger =>
      exact ⟨⟨rfl, rfl, id, .inl, rfl, rfl⟩, rfl, rfl⟩

theorem acts_act (session : Session) (next : Step) :
    Acts session (session.act next).2 (session.strands next) := by
  cases ends : next.stopsReader with
  | false =>
      have reads : next.failsReading = false :=
        (Bool.or_eq_false_iff.mp (Bool.or_eq_false_iff.mp ends).1).1
      have stays : next.closes = false := by
        cases next <;> first | rfl | cases ends
      rw [strands_of_harmless reads stays]
      exact (aside_act ends).acts
  | true =>
      cases next with
      | receive incoming => exact session.acts_receive incoming
      | vanish =>
          have lost := session.aside_withOutbound
            { session.outbound with line := session.outbound.line.vanish } rfl
          exact lost.trans_acts (acts_receive _ .broken)
      | close => exact session.acts_close
      | release =>
          rw [strands_of_harmless rfl rfl]
          exact ⟨fun _ => ⟨fun _ => rfl, fun _ => rfl, fun _ => rfl⟩, rfl, rfl,
            .goes (.same rfl rfl)⟩
      | _ => cases ends

/-! ## Runs -/

theorem Acts.settles {strands : Bool} (acts : Acts session middle strands)
    (holds : Holds middle later) (course : ReaderCourse middle later) :
    Acts session later strands where
  closing closing := holds.closing (acts.closing closing)
  ioTimeout := holds.ioTimeout.trans acts.ioTimeout
  loggerPanics := holds.loggerPanics.trans acts.loggerPanics
  reader := by
    cases acts.reader with
    | goes first => exact .goes (first.trans course)
    | stranded running gone noticesClosed =>
        cases course with
        | same reader closed =>
            exact .stranded running (reader ▸ gone) (closed.trans noticesClosed)
        | stops again => exact absurd again gone

/-- A step ends the reader only as acting does, and leaves none running while the connection
stops. -/
theorem acts_step (closing : session.Closing) (next : Step) :
    Acts session (session.step next).2 (session.strands next) ∧
      ((session.step next).2.outbound.isStopping = true →
        (session.step next).2.reader ≠ .running) := by
  have acted := session.acts_act next
  obtain ⟨holds, course, stopped, _⟩ := settle_course (acted.closing closing)
  exact ⟨acted.settles holds course, fun stops => stopped (holds.isStopping ▸ stops)⟩

theorem reader_failReading (session : Session) (line : LogLine) :
    (session.failReading line).reader ≠ .running := by
  unfold failReading
  dsimp only
  split <;> exact ReaderState.noConfusion

theorem reader_receive {incoming : Incoming}
    (stops : Step.stopsReader (.receive incoming) = true) :
    (session.receive incoming).reader ≠ .running := by
  unfold receive
  split
  · assumption
  · cases incoming with
    | control => cases stops
    | broken => exact session.reader_failReading _
    | ended | farewell => exact ReaderState.noConfusion
    | data frame =>
        dsimp only
        split
        · exact session.reader_failReading _
        all_goals
          rename_i decoded
          simp [Step.stopsReader, Step.failsReading, Step.shutsDown, decoded] at stops

/-- The reader is gone at once, or it is told that the connection stops. -/
theorem act_of_stopsReader (closing : session.Closing) (stops : next.stopsReader = true) :
    (session.act next).2.reader ≠ .running ∨ (session.act next).2.outbound.isStopping = true := by
  cases next with
  | receive incoming => exact .inl (reader_receive stops)
  | vanish => exact .inl (reader_receive rfl)
  | close =>
      right
      change session.close.outbound.isStopping = true
      cases closed : session.isClosed with
      | true =>
          have down : session.close.outbound = session.outbound := by
            rw [close_of_closed closed]
            rfl
          rw [down]
          exact closing.isClosed closed
      | false =>
          rw [close_eq closed]
          rcases session.withCloser.settleCloser_cases with ⟨_, served⟩ | ⟨_, served, _⟩
          · exact served.isStopping
          · exact served.isStopping
  | release => exact .inr rfl
  | _ => cases stops

/-- The reader runs on through exactly those steps that do not end it. -/
theorem running_step_iff (closing : session.Closing)
    (prompt : session.outbound.isStopping = true → session.reader ≠ .running) (next : Step) :
    (session.step next).2.reader = .running ↔
      session.reader = .running ∧ next.stopsReader = false := by
  have acted := session.acts_act next
  obtain ⟨_, course, stopped, kept⟩ := settle_course (acted.closing closing)
  rw [step_eq_settle]
  cases ends : next.stopsReader with
  | false =>
      have aside := session.aside_act ends
      cases up : session.outbound.isStopping with
      | false => rw [kept (aside.isStopping.trans up), aside.reader, and_iff_left rfl]
      | true =>
          have gone := prompt up
          have still := stopped (aside.isStopping.trans up)
          simp [gone, still]
  | true =>
      have gone : (session.act next).2.settle.reader ≠ .running := by
        rcases act_of_stopsReader closing ends with gone | stops
        · cases course with
          | same reader => exact reader ▸ gone
          | stops running => exact absurd running gone
        · exact stopped stops
      simp [gone]

theorem Closing.create (settings : Settings) (lineCapacity : Nat) (loggerPanics : Bool) :
    (create settings lineCapacity loggerPanics).Closing :=
  ⟨fun closed => absurd closed Bool.false_ne_true, fun waits => absurd rfl waits,
    fun reported => absurd rfl reported⟩

theorem Closing.run (closing : session.Closing) (steps : List Step) :
    (session.run steps).Closing := by
  have preserved : ∀ (session : Session) (next : Step), session.Closing →
      (session.step next).2.Closing :=
    fun _ next closing => (acts_step closing next).1.closing closing
  exact run_invariant preserved closing steps

/-- No step changes the logger or the time that closing is given. -/
theorem terms_run (closing : session.Closing) (steps : List Step) :
    (session.run steps).ioTimeout = session.ioTimeout ∧
      (session.run steps).loggerPanics = session.loggerPanics := by
  induction steps generalizing session with
  | nil => exact ⟨rfl, rfl⟩
  | cons next steps ih =>
      have acts := (acts_step closing next).1
      obtain ⟨ioTimeout, loggerPanics⟩ := ih (acts.closing closing)
      exact ⟨ioTimeout.trans acts.ioTimeout, loggerPanics.trans acts.loggerPanics⟩

/-- Steps that do not end the reader leave it running. -/
theorem running_run (closing : session.Closing)
    (prompt : session.outbound.isStopping = true → session.reader ≠ .running)
    (running : session.reader = .running)
    (going : ∀ next ∈ steps, Step.stopsReader next = false) :
    (session.run steps).reader = .running := by
  induction steps generalizing session with
  | nil => exact running
  | cons next steps ih =>
      obtain ⟨acts, stopped⟩ := acts_step closing next
      have goesOn := going next (List.mem_cons_self ..)
      refine ih (acts.closing closing) stopped ?_ fun other member =>
        going other (List.mem_cons_of_mem _ member)
      exact (running_step_iff closing prompt next).mpr ⟨running, goesOn⟩

/-- A reader that is gone stays so, and the board is left as it is. -/
theorem run_gone (closing : session.Closing) (gone : session.reader ≠ .running)
    (steps : List Step) :
    (session.run steps).reader = session.reader ∧
      (session.run steps).board.isClosed = session.board.isClosed ∧
      session.strandings steps = [] := by
  induction steps generalizing session with
  | nil => exact ⟨rfl, rfl, rfl⟩
  | cons next steps ih =>
      have spared : session.strands next = false := by simp [strands, gone]
      obtain ⟨acts, _⟩ := acts_step closing next
      have later := acts.reader
      rw [spared] at later
      cases later with
      | goes course =>
          cases course with
          | stops running => exact absurd running gone
          | same reader noticesClosed =>
              obtain ⟨still, closed, none⟩ := ih (acts.closing closing) (reader ▸ gone)
              refine ⟨still.trans reader, closed.trans noticesClosed, ?_⟩
              simpa [strandings, along, spared] using none

theorem heard?_of_gone (gone : session.reader ≠ .running) (next : Step) :
    session.heard? next = none := by
  cases next with
  | receive incoming =>
      cases incoming with
      | data frame => simp [heard?, gone]
      | control | farewell | broken | ended => rfl
  | _ => rfl

/-- A reader that is gone hears nothing. -/
theorem heard_of_gone (closing : session.Closing) (gone : session.reader ≠ .running)
    (steps : List Step) : session.heard steps = [] := by
  refine List.eq_nil_iff_forall_not_mem.mpr fun response member => ?_
  obtain ⟨before, next, after, rfl, seen⟩ := mem_along_iff.mp member
  rw [heard?_of_gone ((run_gone closing gone before).1 ▸ gone)] at seen
  cases seen

/-- The board is closed once the reader is gone, unless a step has taken it away. -/
theorem run_running (closing : session.Closing) (running : session.reader = .running)
    (opened : session.board.isClosed = false) (steps : List Step) :
    ((session.run steps).reader = .running → (session.run steps).board.isClosed = false) ∧
      ((session.run steps).reader ≠ .running →
        ((session.run steps).board.isClosed = true ↔ session.strandings steps = [])) := by
  induction steps generalizing session with
  | nil => exact ⟨fun _ => opened, fun gone => absurd running gone⟩
  | cons next steps ih =>
      obtain ⟨acts, _⟩ := acts_step closing next
      have closing := acts.closing closing
      have seen : session.strandings (next :: steps) =
          (if session.strands next then [next] else []) ++
            (session.step next).2.strandings steps := rfl
      have later := acts.reader
      rw [run_cons, seen]
      cases stranded : session.strands next with
      | false =>
          rw [stranded] at later
          cases later with
          | goes course =>
              cases course with
              | same reader noticesClosed =>
                  exact ih closing (reader.trans running) (noticesClosed.trans opened)
              | stops _ stopped noticesClosed =>
                  have gone : (session.step next).2.reader ≠ .running :=
                    stopped ▸ ReaderState.noConfusion
                  obtain ⟨still, closed, none⟩ := run_gone closing gone steps
                  refine ⟨fun runs => absurd (still.symm.trans runs) gone, fun _ => ?_⟩
                  simp [closed, noticesClosed, none]
      | true =>
          rw [stranded] at later
          cases later with
          | stranded _ gone noticesClosed =>
              obtain ⟨still, closed, _⟩ := run_gone closing gone steps
              refine ⟨fun runs => absurd (still.symm.trans runs) gone, fun _ => ?_⟩
              simp [closed, noticesClosed, opened]

/-- Nobody is told that the connection is closed while the reader runs. -/
theorem gone_of_returned (closing : session.Closing)
    (start : session.outbound.isStopping = true → session.reader ≠ .running)
    (steps : List Step) (reported : (session.run steps).returned ≠ []) :
    (session.run steps).reader ≠ .running := by
  have preserved (session : Session) (next : Step) (before : session.Closing ∧
      (session.outbound.isStopping = true → session.reader ≠ .running)) :
      (session.step next).2.Closing ∧
        ((session.step next).2.outbound.isStopping = true →
          (session.step next).2.reader ≠ .running) := by
    obtain ⟨acts, stopped⟩ := acts_step before.1 next
    exact ⟨acts.closing before.1, stopped⟩
  obtain ⟨closed, stopped⟩ := run_invariant preserved ⟨closing, start⟩ steps
  exact stopped (closed.returned reported)

/-- With a logger that does not panic and some time to close the connection, the reader is never
taken away. -/
theorem strandings_eq_nil (closing : session.Closing) (calm : session.loggerPanics = false)
    (timed : session.ioTimeout ≠ 0) (steps : List Step) : session.strandings steps = [] := by
  induction steps generalizing session with
  | nil => rfl
  | cons next steps ih =>
      have acts := (acts_step closing next).1
      have spared : session.strands next = false := by simp [strands, calm, timed]
      have rest := ih (acts.closing closing) (acts.loggerPanics.trans calm)
        (acts.ioTimeout ▸ timed)
      simpa [strandings, along, spared] using rest

end Session

end ServerManagement
