import ServerManagement.Proofs.Session.CallSteps

/-!
What leaves the way out alone. Calls that end, the reader, the board and the streams do nothing to
it, except that some wait for room no longer, and nothing to those who close the connection.
-/

set_option autoImplicit false

namespace ServerManagement

def Effect.arrival? : Effect → Option Arrival
  | .arrived arrival => some arrival
  | .logged _ | .admitted _ | .refused _ => none

namespace Session

/-- What has reached the peer, in the order in which it reads it. -/
def arrivals (session : Session) : List Arrival := session.history.filterMap Occurrence.arrival?

def closings (session : Session) (number : Nat) : List (Except Failure Unit) :=
  session.history.filterMap (Occurrence.closing? number)

structure Apart (session later : Session) : Prop where
  isClosed : later.isClosed = session.isClosed
  closer : later.closer = session.closer
  closerCount : later.closerCount = session.closerCount
  closings : ∀ number, later.closings number = session.closings number
  loggerPanics : later.loggerPanics = session.loggerPanics
  writer : later.outbound.writer = session.outbound.writer
  reader : session.loggerPanics = false → later.reader = .crashed → session.reader = .crashed

structure Thins (arrived : List Arrival) (session later : Session) : Prop
    extends Apart session later where
  outbound : ∃ waiting, waiting.Sublist session.outbound.waiting ∧
    later.outbound = { session.outbound with waiting }
  arrivals : later.arrivals = session.arrivals ++ arrived
  now : later.now = session.now
  ioTimeout : later.ioTimeout = session.ioTimeout

variable {session middle later : Session} {arrived further : List Arrival}

theorem Apart.refl (session : Session) : Apart session session :=
  ⟨rfl, rfl, rfl, fun _ => rfl, rfl, rfl, fun _ => id⟩

theorem Apart.trans (first : Apart session middle) (second : Apart middle later) :
    Apart session later where
  isClosed := second.isClosed.trans first.isClosed
  closer := second.closer.trans first.closer
  closerCount := second.closerCount.trans first.closerCount
  closings := fun number => (second.closings number).trans (first.closings number)
  loggerPanics := second.loggerPanics.trans first.loggerPanics
  writer := second.writer.trans first.writer
  reader := fun calm crashed =>
    first.reader calm (second.reader (first.loggerPanics.trans calm) crashed)

theorem Thins.refl (session : Session) : Thins [] session session :=
  ⟨.refl session, ⟨_, .refl _, rfl⟩, (List.append_nil _).symm, rfl, rfl⟩

theorem Thins.trans (first : Thins arrived session middle) (second : Thins further middle later) :
    Thins (arrived ++ further) session later where
  toApart := first.toApart.trans second.toApart
  outbound := by
    obtain ⟨waiting, fewer, outbound⟩ := first.outbound
    obtain ⟨still, fewest, same⟩ := second.outbound
    rw [outbound] at fewest same
    exact ⟨still, fewest.trans fewer, same⟩
  arrivals := by rw [second.arrivals, first.arrivals, List.append_assoc]
  now := second.now.trans first.now
  ioTimeout := second.ioTimeout.trans first.ioTimeout

theorem Thins.foldl {α : Type} {move : Session → α → Session}
    (thins : ∀ session item, Thins [] session (move session item)) (session : Session)
    (items : List α) : Thins [] session (items.foldl move session) := by
  induction items generalizing session with
  | nil => exact .refl session
  | cons item items ih => exact (thins session item).trans (ih _)

/-- Calls, the board and the streams may change in any way. -/
theorem Thins.beside {callTimeout callCount : Nat} {correlator : Correlator} {board : Board}
    {streams : List EventStream} {cancelled : List Token} {calls : List Call} :
    Thins [] session
      { session with callTimeout, callCount, correlator, board, streams, cancelled, calls } :=
  ⟨⟨rfl, rfl, rfl, fun _ => rfl, rfl, rfl, fun _ => id⟩, ⟨_, .refl _, rfl⟩,
    (List.append_nil _).symm, rfl, rfl⟩

theorem Thins.withReader {reader : ReaderState} {board : Board}
    (calm : session.loggerPanics = false → reader ≠ .crashed) :
    Thins [] session { session with reader, board } :=
  ⟨⟨rfl, rfl, rfl, fun _ => rfl, rfl, rfl, fun panics crashed => absurd crashed (calm panics)⟩,
    ⟨_, .refl _, rfl⟩, (List.append_nil _).symm, rfl, rfl⟩

theorem thins_record (session : Session) (occurrence : Occurrence)
    (unclosed : ∀ number, occurrence.closing? number = none) :
    Thins occurrence.arrival?.toList session (session.record occurrence) := by
  constructor
  case toApart =>
    refine ⟨rfl, rfl, rfl, fun number => ?_, rfl, rfl, fun _ => id⟩
    simp [record, closings, unclosed]
  case outbound => exact ⟨_, .refl _, rfl⟩
  case arrivals =>
    simp only [record, arrivals, List.filterMap_append, List.filterMap_cons, List.filterMap_nil]
    cases occurrence.arrival? <;> rfl
  case now => rfl
  case ioTimeout => rfl

theorem thins_silent (session : Session) (occurrence : Occurrence)
    (silent : occurrence.arrival? = none) (unclosed : ∀ number, occurrence.closing? number = none) :
    Thins [] session (session.record occurrence) := by
  have recorded := session.thins_record occurrence unclosed
  rwa [silent] at recorded

/-! ## Settling -/

theorem thins_dismiss (session : Session) (call : Call) : Thins [] session (session.dismiss call) :=
  ⟨⟨rfl, rfl, rfl, fun _ => rfl, rfl, rfl, fun _ => id⟩, ⟨_, List.filter_sublist, rfl⟩,
    (List.append_nil _).symm, rfl, rfl⟩

theorem thins_finish (session : Session) (call : Call) (result : Except Failure Response) :
    Thins [] session (session.finish call result) :=
  (session.thins_dismiss call).trans (thins_silent _ _ rfl fun _ => rfl)

theorem thins_note (session : Session) (effect : Effect) :
    Thins effect.arrival?.toList session (session.note effect) := by
  cases effect with
  | arrived arrival => exact session.thins_record (.arrived arrival) fun _ => rfl
  | logged line => exact session.thins_silent (.logged line) rfl fun _ => rfl
  | admitted number => exact .refl session
  | refused number =>
      simp only [note]
      split
      · exact session.thins_finish _ _
      · exact .refl session

theorem thins_noteAll (session : Session) (effects : List Effect) :
    Thins (effects.filterMap Effect.arrival?) session (session.noteAll effects) := by
  induction effects generalizing session with
  | nil => exact .refl session
  | cons effect effects ih =>
      have both := (session.thins_note effect).trans (ih _)
      have split : (effect :: effects).filterMap Effect.arrival? =
          effect.arrival?.toList ++ effects.filterMap Effect.arrival? := by
        rw [List.filterMap_cons]
        cases effect.arrival? <;> rfl
      rw [split]
      exact both

theorem thins_stopReader (session : Session) : Thins [] session session.stopReader :=
  .withReader fun _ => nofun

theorem thins_settleReader (session : Session) : Thins [] session session.settleReader := by
  unfold settleReader
  split
  · exact session.thins_stopReader
  · exact .refl session

theorem thins_settleCalls (session : Session) : Thins [] session session.settleCalls := by
  refine (Thins.foldl ?_ session _).trans (.foldl ?_ _ _)
  · intro session call
    rw [collect_eq]
    split
    · exact session.thins_finish _ _
    · exact .refl session
  · intro session call
    rw [expire_eq]
    split
    · exact session.thins_finish _ _
    · exact .refl session

theorem thins_cutReader (session : Session) : Thins [] session session.cutReader := by
  unfold cutReader
  split
  · have logged := session.thins_record (.logged (taskAborted session.ioTimeout)) fun _ => rfl
    exact logged.trans (.withReader fun _ => nofun)
  · exact .refl session

/-- What is lost when the writer is cut off is lost at once. -/
theorem thins_cutWriter (working : session.outbound.writer.isDone = false) :
    Thins [] (session.withHalted .aborted) session.cutWriter := by
  have logged := (session.withHalted .aborted).thins_silent
    (.logged (taskAborted session.ioTimeout)) rfl fun _ => rfl
  have noted := thins_noteAll
    ((session.withHalted .aborted).record (.logged (taskAborted session.ioTimeout)))
    (session.outbound.halt .aborted).1
  have silent : (session.outbound.halt .aborted).1.filterMap Effect.arrival? = [] := by
    simp [Outbound.halt, Outbound.closeQueue, Effect.arrival?, List.filterMap_map,
      Function.comp_def]
  have up : ¬session.outbound.writer.isDone = true := Bool.eq_false_iff.mp working
  rw [silent] at noted
  unfold cutWriter
  rw [if_neg up]
  exact logged.trans noted

theorem cutWriter_of_isDone (done : session.outbound.writer.isDone = true) :
    session.cutWriter = session := by
  unfold cutWriter
  rw [if_pos done]

theorem closer_cutWriter (session : Session) : session.cutWriter.closer = session.closer := by
  cases done : session.outbound.writer.isDone with
  | true => rw [cutWriter_of_isDone done]
  | false => exact (thins_cutWriter done).closer

theorem thins_settleStreams (session : Session) : Thins [] session session.settleStreams := .beside

/-- What holds once the letters have gone as far as they can, and is preserved by the phases that
are concerned with the closer, holds after settling. -/
theorem settle_of_phases {holds : Session → Prop}
    (thins : ∀ session later, Thins [] session later → holds session → holds later)
    (closer : ∀ session, holds session → holds session.settleCloser)
    (closing : ∀ session, holds session → holds session.settleClosing)
    (out : holds session.settleOutbound) : holds session.settle := by
  have read := thins _ _ (thins_settleReader _) out
  have called := thins _ _ (thins_settleCalls _) read
  have served := closer _ (closing _ (closer _ called))
  exact thins _ _ (thins_settleStreams _) served

/-! ## Acting -/

theorem thins_failReading (session : Session) (line : LogLine) :
    Thins [] session (session.failReading line) := by
  have logged := session.thins_silent (.logged line) rfl fun _ => rfl
  unfold failReading
  dsimp only
  split
  · rename_i panics
    refine logged.trans (.withReader fun calm => ?_)
    cases panics.symm.trans calm
  · exact logged.trans (thins_stopReader _)

def Step.spares : Step → Bool
  | .call _ _ _ | .advance _ | .receive .farewell | .pause | .resume | .vanish | .close
  | .abandonClose _ | .release | .linger _ => false
  | _ => true

theorem thins_receive {incoming : Incoming} (spares : Step.spares (.receive incoming) = true) :
    Thins [] session (session.receive incoming) := by
  unfold receive
  split
  · exact .refl session
  · cases incoming with
    | control => exact .refl session
    | broken => exact session.thins_failReading _
    | ended =>
        have logged := session.thins_silent (.logged streamEnded) rfl fun _ => rfl
        exact logged.trans (thins_stopReader _)
    | farewell => cases spares
    | data frame =>
        dsimp only
        split
        · exact session.thins_failReading _
        · exact .beside
        · exact .beside

theorem thins_act {next : Step} (spares : next.spares = true) :
    Thins [] session (session.act next).2 := by
  cases next with
  | abandonCall number =>
      simp only [act, abandonCall]
      split
      · exact session.thins_dismiss _
      · exact .refl session
  | cancel token =>
      have tokens : Thins [] session { session with cancelled := token :: session.cancelled } :=
        .beside
      refine tokens.trans (.foldl ?_ _ _)
      intro session call
      split
      · exact session.thins_finish _ _
      · exact .refl session
  | receive incoming => exact thins_receive spares
  | openStream kind token =>
      simp only [act, openStream]
      split <;> exact .beside
  | readStream stream =>
      simp only [act, readStream]
      split <;> exact .beside
  | setCallTimeout | subscribe | unsubscribe | readMailbox | abandonMailbox | abandonStream =>
      exact .beside
  | call | advance | pause | resume | vanish | close | abandonClose | release | linger =>
      cases spares

theorem thins_vanish (session : Session) :
    Thins [] (session.withLine session.outbound.line.vanish) session.vanish :=
  thins_receive rfl

theorem thins_startCall (closed : session.isClosed = true) (method : String) (params : Params)
    (terms : CallTerms) : Thins [] session (session.startCall method params terms) := by
  rw [startCall_of_closed closed]
  have counted : Thins [] session { session with callCount := session.callCount + 1 } := .beside
  exact counted.trans (thins_silent _ _ rfl fun _ => rfl)

def withResumed (session : Session) : Session :=
  session.withLine { session.outbound.line with peer := .reading, heldBytes := 0, underWay := [] }

theorem thins_resume (pauses : session.outbound.line.peer = .paused) :
    Thins session.outbound.line.underWay session.withResumed session.resume := by
  have resumed : session.resume =
      session.withResumed.noteAll (session.outbound.line.underWay.map .arrived) := by
    simp only [resume, Line.resume, if_pos pauses, withResumed]
  have noted := session.withResumed.thins_noteAll (session.outbound.line.underWay.map .arrived)
  have arrived : (session.outbound.line.underWay.map Effect.arrived).filterMap Effect.arrival? =
      session.outbound.line.underWay := by
    rw [List.filterMap_map]
    exact List.filterMap_some
  rw [arrived] at noted
  exact resumed ▸ noted

theorem resume_of_not_paused (goesOn : session.outbound.line.peer ≠ .paused) :
    session.resume = session := by
  simp only [resume, Line.resume, if_neg goesOn]
  rfl

end Session

end ServerManagement
