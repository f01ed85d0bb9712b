import ServerManagement.Proofs.Session.LetterFlow
import ServerManagement.Proofs.Session.Thinning

/-!
What a step does to the letters on their way out. Settling puts some of them on the line and may
give up others, and a session that serves gives up none that entered the queue.
-/

set_option autoImplicit false

namespace ServerManagement

namespace Session

/-- A closer waits only while the connection stops. While letters are served, the writer works. -/
structure Governed (session : Session) : Prop where
  closer : session.closer ≠ none → session.outbound.isStopping = true
  working : session.outbound.Serving → session.outbound.Working

structure Sheds (arrived : List Letter) (session later : Session) : Prop where
  line : later.outbound.line = session.outbound.line
  isStopping : later.outbound.isStopping = session.outbound.isStopping
  unwritten : later.outbound.unwritten.Sublist session.outbound.unwritten
  delivered : later.delivered = session.delivered ++ arrived
  closer : later.closer = none ∨ later.closer = session.closer
  writer : session.Governed → session.outbound.Serving →
    later.outbound.writer = session.outbound.writer ∧
      later.outbound.queue = session.outbound.queue ∧
      later.outbound.isOpen = session.outbound.isOpen

variable {session middle later : Session} {arrived further : List Letter}

/-- While the writer goes on as it is, only what serves its letters matters. -/
theorem Governed.of_same (governed : session.Governed)
    (isStopping : later.outbound.isStopping = session.outbound.isStopping)
    (isOpen : later.outbound.isOpen = session.outbound.isOpen)
    (writer : later.outbound.writer = session.outbound.writer)
    (closer : later.closer = session.closer)
    (serving : later.outbound.Serving → session.outbound.Serving) : later.Governed := by
  constructor
  · intro waits
    rw [isStopping]
    exact governed.closer (closer ▸ waits)
  · intro serves
    have working := governed.working (serving serves)
    exact ⟨isOpen.trans working.takes, writer ▸ working.writes⟩

theorem Sheds.serving_iff (sheds : Sheds arrived session later) :
    later.outbound.Serving ↔ session.outbound.Serving := by
  constructor
  · rintro ⟨runs, present, unclosed⟩
    exact ⟨sheds.isStopping ▸ runs, sheds.line ▸ present, sheds.line ▸ unclosed⟩
  · rintro ⟨runs, present, unclosed⟩
    exact ⟨sheds.isStopping.trans runs, by rwa [sheds.line], by rwa [sheds.line]⟩

theorem Sheds.governed (sheds : Sheds arrived session later) (governed : session.Governed) :
    later.Governed := by
  constructor
  · intro waits
    rw [sheds.isStopping]
    rcases sheds.closer with none | same
    · exact absurd none waits
    · exact governed.closer (same ▸ waits)
  · intro serving
    have before := sheds.serving_iff.mp serving
    obtain ⟨writer, _, isOpen⟩ := sheds.writer governed before
    have working := governed.working before
    exact ⟨isOpen.trans working.takes, by rw [writer]; exact working.writes⟩

theorem Sheds.refl (session : Session) : Sheds [] session session where
  line := rfl
  isStopping := rfl
  unwritten := .refl _
  delivered := (List.append_nil _).symm
  closer := .inr rfl
  writer := fun _ _ => ⟨rfl, rfl, rfl⟩

theorem Sheds.trans (first : Sheds arrived session middle) (second : Sheds further middle later) :
    Sheds (arrived ++ further) session later where
  line := second.line.trans first.line
  isStopping := second.isStopping.trans first.isStopping
  unwritten := second.unwritten.trans first.unwritten
  delivered := by rw [second.delivered, first.delivered, List.append_assoc]
  closer := by
    rcases second.closer with none | same
    · exact .inl none
    · rw [same]
      exact first.closer
  writer := by
    intro governed serving
    obtain ⟨writer, queue, isOpen⟩ := first.writer governed serving
    obtain ⟨laterWriter, laterQueue, laterOpen⟩ :=
      second.writer (first.governed governed) (first.serving_iff.mpr serving)
    exact ⟨laterWriter.trans writer, laterQueue.trans queue, laterOpen.trans isOpen⟩

theorem delivered_eq (session : Session) :
    session.delivered = session.arrivals.filterMap Arrival.letter? :=
  List.filterMap_filterMap.symm

theorem Thins.sheds {arrivals : List Arrival} (thins : Thins arrivals session later) :
    Sheds (arrivals.filterMap Arrival.letter?) session later := by
  obtain ⟨waiting, fewer, outbound⟩ := thins.outbound
  constructor
  case line => rw [outbound]
  case isStopping => rw [outbound]
  case unwritten =>
    rw [outbound]
    exact (fewer.append_left _).append_left _
  case delivered => rw [delivered_eq, thins.arrivals, List.filterMap_append, ← delivered_eq]
  case closer => exact .inr thins.closer
  case writer =>
    intro _ _
    rw [outbound]
    exact ⟨rfl, rfl, rfl⟩

theorem sheds_silent (session : Session) (occurrence : Occurrence)
    (silent : occurrence.arrival? = none) : Sheds [] session (session.record occurrence) := by
  refine ⟨rfl, rfl, .refl _, ?_, .inr rfl, fun _ _ => ⟨rfl, rfl, rfl⟩⟩
  simp [record, delivered, silent]

theorem sheds_noteAll (session : Session) (effects : List Effect) :
    Sheds (effects.filterMap Effect.letter?) session (session.noteAll effects) := by
  have letters : (effects.filterMap Effect.arrival?).filterMap Arrival.letter? =
      effects.filterMap Effect.letter? := by
    rw [List.filterMap_filterMap]
    congr 1
    funext effect
    cases effect <;> rfl
  exact letters ▸ (session.thins_noteAll effects).sheds

/-- A writer is cut off only when the connection stops. -/
theorem sheds_cutWriter (session : Session) (stops : session.outbound.isStopping = true) :
    Sheds [] session session.cutWriter := by
  cases done : session.outbound.writer.isDone with
  | true => exact (cutWriter_of_isDone done).symm ▸ .refl session
  | false =>
      have halted : Sheds [] session (session.withHalted .aborted) := by
        refine ⟨rfl, rfl, List.nil_sublist _, (List.append_nil _).symm, .inr rfl, ?_⟩
        intro _ serving
        exact absurd (stops.symm.trans serving.runs) nofun
      exact halted.trans (thins_cutWriter done).sheds

theorem sheds_leave (session : Session) (line : LogLine) (occurrence : Occurrence)
    (silent : occurrence.arrival? = none) :
    Sheds [] session { (session.record (.logged line)).record occurrence with closer := none } := by
  have recorded := (session.sheds_silent (.logged line) rfl).trans
    (sheds_silent _ occurrence silent)
  exact ⟨recorded.line, recorded.isStopping, recorded.unwritten, recorded.delivered, .inl rfl,
    recorded.writer⟩

theorem sheds_dischargeCloser (session : Session) (closer : Closer) :
    Sheds [] session (session.dischargeCloser closer) := session.sheds_leave _ _ rfl

theorem sheds_loseCloser (session : Session) (closer : Closer) :
    Sheds [] session (session.loseCloser closer) := session.sheds_leave _ _ rfl

theorem sheds_settleCloser (session : Session)
    (stops : session.closer ≠ none → session.outbound.isStopping = true) :
    Sheds [] session session.settleCloser := by
  unfold settleCloser
  split
  · exact .refl session
  · rename_i closer waits
    split
    · exact session.sheds_dischargeCloser closer
    · split
      · split
        · exact session.sheds_loseCloser closer
        · have cut := session.sheds_cutWriter (stops (by rw [waits]; exact nofun))
          exact (cut.trans (thins_cutReader _).sheds).trans (sheds_dischargeCloser _ closer)
      · exact .refl session

theorem sheds_settleClosing (session : Session) : Sheds [] session session.settleClosing := by
  unfold settleClosing
  split
  · rename_i left deadline closing
    split
    · refine ⟨rfl, rfl, ?_, (List.append_nil _).symm, .inr rfl, ?_⟩
      · have empty : session.outbound.writer.letters = [] := by rw [closing, Writer.letters]
        exact List.Sublist.append_right (empty ▸ .slnil) _
      · intro governed serving
        exact absurd closing (governed.working serving).not_closing
    · exact .refl session
  · exact .refl session

/-! ## Settling -/

theorem governed_withSettled (orderly : session.outbound.Orderly) (governed : session.Governed) :
    session.withSettled.Governed := by
  have flags := Outbound.flags_settle session.writeTerms session.outbound
  constructor
  · intro waits
    exact flags.1.trans (governed.closer waits)
  · rintro ⟨runs, present, unclosed⟩
    have serving : session.outbound.Serving :=
      ⟨flags.1.symm.trans runs, fun gone => present (flags.2.1.trans gone),
        flags.2.2.symm.trans unclosed⟩
    exact (Outbound.conserves_settle session.writeTerms session.outbound orderly serving
      (governed.working serving)).1

/-- After the letters have gone as far as they can, settling only sheds. -/
theorem sheds_settle (orderly : session.outbound.Orderly) (governed : session.Governed) :
    Sheds ((session.outbound.settle session.writeTerms).1.filterMap Effect.letter?)
      session.withSettled session.settle := by
  have noted := sheds_noteAll session.withSettled (session.outbound.settle session.writeTerms).1
  have called := (noted.trans (thins_settleReader _).sheds).trans (thins_settleCalls _).sheds
  have closed := called.trans (sheds_settleCloser _
    (called.governed (governed_withSettled orderly governed)).closer)
  have ended := closed.trans (sheds_settleClosing _)
  have served := ended.trans (sheds_settleCloser _
    (ended.governed (governed_withSettled orderly governed)).closer)
  have settled := served.trans (thins_settleStreams _).sheds
  simp only [List.filterMap_nil, List.append_nil] at settled
  exact settled

/-- Settling puts the first letters on the line, and what arrives was on the line. -/
theorem settle_puts (orderly : session.outbound.Orderly) (governed : session.Governed) :
    (session.outbound.puts session.writeTerms ++ session.settle.outbound.unwritten).Sublist
        session.outbound.unwritten ∧
      session.settle.delivered ++ session.settle.outbound.line.letters =
        session.delivered ++
          (session.outbound.line.letters ++ session.outbound.puts session.writeTerms) := by
  have sheds := sheds_settle orderly governed
  constructor
  · exact (sheds.unwritten.append_left _).trans (Outbound.puts_sublist _ _ orderly)
  · rw [sheds.delivered, sheds.line, List.append_assoc, Outbound.append_puts _ _ orderly]
    rfl

theorem settle_orderly (orderly : session.outbound.Orderly) (governed : session.Governed) :
    session.settle.outbound.Orderly := by
  unfold Outbound.Orderly
  rw [(sheds_settle orderly governed).line]
  exact (Outbound.sublist_settle session.writeTerms session.outbound orderly).2

theorem settle_governed (orderly : session.outbound.Orderly) (governed : session.Governed) :
    session.settle.Governed :=
  (sheds_settle orderly governed).governed (governed_withSettled orderly governed)

theorem serving_of_settle (orderly : session.outbound.Orderly) (governed : session.Governed)
    (serving : session.settle.outbound.Serving) :
    session.withSettled.outbound.Serving ∧ session.outbound.Serving := by
  have settled := (sheds_settle orderly governed).serving_iff.mp serving
  have flags := Outbound.flags_settle session.writeTerms session.outbound
  refine ⟨settled, flags.1.symm.trans settled.runs, ?_, flags.2.2.symm.trans settled.unclosed⟩
  intro gone
  exact settled.present (flags.2.1.trans gone)

/-- While letters are served, those admitted are put on the line or wait to be. -/
theorem settle_serves (orderly : session.outbound.Orderly) (governed : session.Governed)
    (serving : session.settle.outbound.Serving) :
    (session.outbound.puts session.writeTerms ++
        (session.settle.outbound.writer.letters ++ session.settle.outbound.queue)).map Letter.call =
      (session.outbound.writer.letters ++ session.outbound.queue).map Letter.call ++
        (session.outbound.settle session.writeTerms).1.filterMap Effect.admitted? := by
  obtain ⟨settled, before⟩ := serving_of_settle orderly governed serving
  obtain ⟨writer, queue, _⟩ :=
    (sheds_settle orderly governed).writer (governed_withSettled orderly governed) settled
  rw [writer, queue]
  exact Outbound.puts_eq_admitted _ _ orderly before (governed.working before)

/-- When the peer reads, nothing that entered the queue is left. -/
theorem settle_empties (orderly : session.outbound.Orderly) (governed : session.Governed)
    (serving : session.settle.outbound.Serving)
    (reads : session.settle.outbound.line.peer = .reading) :
    session.settle.outbound.writer.letters ++ session.settle.outbound.queue = [] := by
  obtain ⟨settled, before⟩ := serving_of_settle orderly governed serving
  have sheds := sheds_settle orderly governed
  have working := (governed_withSettled orderly governed).working settled
  obtain ⟨writer, queue, _⟩ := sheds.writer (governed_withSettled orderly governed) settled
  rw [sheds.line] at reads
  have empty := Outbound.sent_eq_nil (Outbound.move?_settle session.writeTerms session.outbound)
    (Outbound.sublist_settle session.writeTerms session.outbound orderly).2 settled working reads
  rw [writer, queue]
  exact (List.append_eq_nil_iff.mp empty).2

/-! ## Acting -/

/-- What a step does to the letters before the session settles. -/
structure Carries (issued : List Letter) (session later : Session) : Prop where
  orderly : session.outbound.Orderly → later.outbound.Orderly
  governed : session.Governed → later.Governed
  unwritten : later.outbound.unwritten.Sublist (session.outbound.unwritten ++ issued)
  passed : (later.delivered ++ later.outbound.line.letters).Sublist
    (session.delivered ++ session.outbound.line.letters)
  serving : later.outbound.Serving → session.outbound.Serving
  writer : session.Governed → later.outbound.Serving →
    later.outbound.writer = session.outbound.writer ∧ later.outbound.queue = session.outbound.queue

theorem Sheds.carries (sheds : Sheds [] session later) (issued : List Letter) :
    Carries issued session later where
  orderly orderly := by
    unfold Outbound.Orderly
    rw [sheds.line]
    exact orderly
  governed := sheds.governed
  unwritten := sheds.unwritten.trans (List.sublist_append_left _ _)
  passed := by
    simp only [sheds.delivered, sheds.line, List.append_nil, List.Sublist.refl]
  serving := sheds.serving_iff.mp
  writer governed serving := by
    obtain ⟨writer, queue, _⟩ := sheds.writer governed (sheds.serving_iff.mp serving)
    exact ⟨writer, queue⟩

theorem Carries.trans {issued next : List Letter} (first : Carries issued session middle)
    (second : Carries next middle later) : Carries (issued ++ next) session later where
  orderly orderly := second.orderly (first.orderly orderly)
  governed governed := second.governed (first.governed governed)
  unwritten := by
    rw [← List.append_assoc]
    exact second.unwritten.trans (first.unwritten.append_right _)
  passed := second.passed.trans first.passed
  serving serving := first.serving (second.serving serving)
  writer governed serving := by
    obtain ⟨writer, queue⟩ := second.writer (first.governed governed) serving
    obtain ⟨firstWriter, firstQueue⟩ := first.writer governed (second.serving serving)
    exact ⟨writer.trans firstWriter, queue.trans firstQueue⟩

/-- A change of the line that loses nothing but letters under way. -/
theorem carries_withLine {line : Line} (orderly : session.outbound.Orderly →
      line.peer ≠ .paused → line.underWay = [])
    (fewer : line.letters.Sublist session.outbound.line.letters)
    (present : line.peer ≠ .gone → session.outbound.line.peer ≠ .gone)
    (unclosed : line.isClosing = false → session.outbound.line.isClosing = false) :
    Carries [] session (session.withLine line) := by
  have serving : (session.withLine line).outbound.Serving → session.outbound.Serving := by
    rintro ⟨runs, here, opened⟩
    exact ⟨runs, present here, unclosed opened⟩
  constructor
  case orderly => exact orderly
  case governed => exact fun governed => governed.of_same rfl rfl rfl rfl serving
  case unwritten => exact List.sublist_append_left _ _
  case passed => exact fewer.append_left _
  case serving => exact serving
  case writer => exact fun _ _ => ⟨rfl, rfl⟩

/-- Once the connection stops, or its peer has closed its side, nothing more is promised. -/
theorem carries_of_unserved (unserved : ¬later.outbound.Serving)
    (orderly : session.outbound.Orderly → later.outbound.Orderly)
    (closer : session.Governed → later.closer ≠ none → later.outbound.isStopping = true)
    (unwritten : later.outbound.unwritten.Sublist session.outbound.unwritten)
    (passed : (later.delivered ++ later.outbound.line.letters).Sublist
      (session.delivered ++ session.outbound.line.letters)) : Carries [] session later where
  orderly := orderly
  governed governed := ⟨closer governed, fun serving => absurd serving unserved⟩
  unwritten := by rwa [List.append_nil]
  passed := passed
  serving serving := absurd serving unserved
  writer _ serving := absurd serving unserved

theorem Thins.carries (thins : Thins [] session later) (issued : List Letter) :
    Carries issued session later :=
  thins.sheds.carries issued

theorem carries_enroll (number : Nat) (request : Request) (terms : CallTerms) :
    Carries [⟨number, request⟩] session (session.enroll number request terms) := by
  unfold enroll
  split
  · rename_i correlator _
    have entered : Thins [] session { session with correlator } := .beside
    exact (entered.trans
      (thins_silent _ (.drewTwice number request.id) rfl fun _ => rfl)).carries _
  · have serving : (session.outbound.post ⟨number, request⟩).Serving →
        session.outbound.Serving := by
      rintro ⟨runs, present, unclosed⟩
      exact ⟨runs, present, unclosed⟩
    constructor
    case orderly => exact id
    case governed => exact fun governed => governed.of_same rfl rfl rfl rfl serving
    case unwritten => simp [Outbound.unwritten, Outbound.post]
    case passed => exact .refl _
    case serving => exact serving
    case writer => exact fun _ _ => ⟨rfl, rfl⟩

theorem carries_startCall (method : String) (params : Params) (terms : CallTerms) :
    Carries ((session.issue? (.call method params terms)).toList.map Issue.letter) session
      (session.startCall method params terms) := by
  cases closed : session.isClosed with
  | true => exact (thins_startCall closed method params terms).carries _
  | false =>
      have drawn : Thins [] session session.withDrawn := .beside
      have failed (failure : Failure) : Thins [] session
          (session.withDrawn.record (.ended session.callCount (.error failure))) :=
        drawn.trans (thins_silent _ _ rfl fun _ => rfl)
      rw [startCall_of_open closed]
      split
      · exact (failed _).carries _
      · rename_i request created
        split
        · exact (failed _).carries _
        · rename_i uncancelled
          have issued : (session.issue? (.call method params terms)).toList.map Issue.letter =
              [⟨session.callCount, request⟩] := by
            have passed : ¬terms.token.any session.isCancelled = true := uncancelled
            simp [issue?, closed, created, passed]
          rw [issued]
          exact (drawn.carries []).trans (carries_enroll session.callCount request terms)

theorem carries_farewell : Carries [] session (session.receive .farewell) := by
  unfold receive
  split
  · exact (Thins.refl session).carries _
  · have logged := (session.thins_silent (.logged peerClosed) rfl fun _ => rfl).carries []
    have stopped : Carries [] (session.record (.logged peerClosed))
        { (session.record (.logged peerClosed)).stopReader with
          outbound := { session.outbound with
            line := { session.outbound.line with isClosing := true } } } :=
      carries_of_unserved (fun serving => absurd serving.unclosed.symm Bool.false_ne_true) id
        (fun governed => governed.closer) (.refl _) (.refl _)
    exact logged.trans stopped

theorem carries_pause : Carries [] session (session.withLine session.outbound.line.pause) := by
  unfold Line.pause
  split
  · rename_i reads
    exact carries_withLine (fun _ moves => absurd rfl moves) (.refl _)
      (fun _ gone => nomatch reads.symm.trans gone) id
  · exact carries_withLine id (.refl _) id id

theorem carries_resume : Carries [] session session.resume := by
  by_cases pauses : session.outbound.line.peer = .paused
  · have sheds := (thins_resume pauses).sheds
    have serving : session.withResumed.outbound.Serving → session.outbound.Serving := by
      rintro ⟨runs, _, unclosed⟩
      exact ⟨runs, by rw [pauses]; decide, unclosed⟩
    have governed : session.Governed → session.withResumed.Governed :=
      fun governed => governed.of_same rfl rfl rfl rfl serving
    constructor
    case orderly =>
      intro _ _
      exact congrArg Line.underWay sheds.line
    case governed => exact fun before => sheds.governed (governed before)
    case unwritten => exact sheds.unwritten.trans (List.sublist_append_left _ _)
    case passed =>
      have empty : session.withResumed.outbound.line.letters = [] := rfl
      have before : session.withResumed.delivered = session.delivered := rfl
      rw [sheds.delivered, sheds.line, empty, before, List.append_nil]
      exact .refl _
    case serving => exact fun serves => serving (sheds.serving_iff.mp serves)
    case writer =>
      intro before serves
      obtain ⟨writer, queue, _⟩ := sheds.writer (governed before) (sheds.serving_iff.mp serves)
      exact ⟨writer, queue⟩
  · rw [resume_of_not_paused pauses]
    exact (Thins.refl session).carries _

theorem carries_vanish : Carries [] session session.vanish := by
  have vanished : Carries [] session (session.withLine session.outbound.line.vanish) :=
    carries_withLine (fun _ _ => rfl) (List.nil_sublist _) (fun here => absurd rfl here) id
  exact vanished.trans (session.thins_vanish.carries [])

theorem carries_close : Carries [] session session.close := by
  cases closed : session.isClosed with
  | true =>
      rw [close_of_closed closed]
      have counted : Sheds [] session { session with closerCount := session.closerCount + 1 } :=
        ⟨rfl, rfl, .refl _, (List.append_nil _).symm, .inr rfl, fun _ _ => ⟨rfl, rfl, rfl⟩⟩
      exact (counted.trans (sheds_silent _ _ rfl)).carries []
  | false =>
      rw [close_eq closed]
      have stopped : Carries [] session session.withCloser :=
        carries_of_unserved (fun serving => absurd serving.runs.symm Bool.false_ne_true) id
          (fun _ _ => rfl) (.refl _) (.refl _)
      exact stopped.trans ((sheds_settleCloser _ fun _ => rfl).carries [])

/-- A step hands in the letter of the call that it starts, and no other. -/
theorem carries_act (session : Session) (next : Step) :
    Carries ((session.issue? next).toList.map Issue.letter) session (session.act next).2 := by
  cases spares : next.spares with
  | true => exact (thins_act spares).carries _
  | false =>
      cases next with
      | call method params terms => exact carries_startCall method params terms
      | receive incoming =>
          cases incoming with
          | farewell => exact carries_farewell
          | _ => cases spares
      | advance milliseconds =>
          have passed : Sheds [] session { session with now := session.now + milliseconds } :=
            ⟨rfl, rfl, .refl _, (List.append_nil _).symm, .inr rfl, fun _ _ => ⟨rfl, rfl, rfl⟩⟩
          exact passed.carries _
      | pause => exact carries_pause
      | resume => exact carries_resume
      | vanish => exact carries_vanish
      | close => exact carries_close
      | abandonClose number =>
          simp only [act, abandonClose]
          split
          · split
            · have left : Sheds [] session { session with closer := none } :=
                ⟨rfl, rfl, .refl _, (List.append_nil _).symm, .inl rfl, fun _ _ => ⟨rfl, rfl, rfl⟩⟩
              exact left.carries _
            · exact (Sheds.refl session).carries _
          · exact (Sheds.refl session).carries _
      | release =>
          exact carries_of_unserved (fun serving => absurd serving.runs.symm Bool.false_ne_true) id
            (fun _ _ => rfl) (.refl _) (.refl _)
      | linger call =>
          have turned : Sheds [] session { session with
              outbound := { session.outbound with linger := call } } :=
            ⟨rfl, rfl, .refl _, (List.append_nil _).symm, .inr rfl, fun _ _ => ⟨rfl, rfl, rfl⟩⟩
          exact turned.carries _
      | _ => cases spares

end Session

end ServerManagement
