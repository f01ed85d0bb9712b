import ServerManagement.Proofs.Session.NoticeSteps
import ServerManagement.Proofs.Session.Sights

/-!
The end of the notices. Once the board is closed nobody can subscribe, and every subscriber and
every stream finds what is left for it and then the end. The board is closed when the reader is
gone, except after a step that has taken the reader away.
-/

set_option autoImplicit false

namespace ServerManagement

namespace Session

structure Silenced (session : Session) : Prop where
  closing : session.Closing
  gone : session.reader ≠ .running
  tidy : session.board.Tidy
  closed : session.board.isClosed = true
  resting : ∀ stream ∈ session.streams, ∀ board, stream.Rests session.cancelled board

variable {session later : Session} {next : Step}

/-- When the reader is gone, settling comes down to what the streams do. -/
theorem settle_of_gone (gone : session.reader ≠ .running) :
    (session.settle.board, session.settle.streams) =
        EventStream.settle session.cancelled session.board session.streams ∧
      session.settle.cancelled = session.cancelled := by
  have notices := session.settle_notices
  rwa [foundBoard, if_neg fun stops => gone stops.2] at notices

/-- A session whose streams are at rest, once the board is closed, settles without a notice. -/
theorem Silenced.settles (silenced : session.Silenced) :
    session.settle.Silenced ∧ session.settle.board = session.board ∧
      session.settle.streams = session.streams := by
  obtain ⟨noticed, cancelled⟩ := settle_of_gone silenced.gone
  obtain ⟨holds, course, _⟩ := settle_course silenced.closing
  rw [EventStream.settle_of_rests fun stream member => silenced.resting stream member _] at noticed
  obtain ⟨board, streams⟩ := Prod.mk.inj noticed
  have gone : session.settle.reader ≠ .running := by
    cases course with
    | same reader _ => exact reader ▸ silenced.gone
    | stops running => exact absurd running silenced.gone
  refine ⟨⟨holds.closing silenced.closing, gone, ?_, ?_, ?_⟩, board, streams⟩
  · rw [board]
    exact silenced.tidy
  · rw [board]
    exact silenced.closed
  · rw [streams, cancelled]
    exact silenced.resting

/-! ## Reading what is left -/

theorem Silenced.step_readMailbox (silenced : session.Silenced) (number : Nat) :
    (session.step (.readMailbox number)).2.Silenced ∧
      (session.step (.readMailbox number)).1 =
        .notification (.orEnd (session.board.mailbox number).unread.head?) ∧
      ((session.step (.readMailbox number)).2.board.mailbox number).unread =
        (session.board.mailbox number).unread.tail := by
  have acted : Silenced { session with board := (session.board.read number).2 } :=
    ⟨(session.aside_withBoard (session.board.isClosed_read number)).closing silenced.closing,
      silenced.gone, (session.board.evolves_read number).tidy silenced.tidy,
      (session.board.isClosed_read number).trans silenced.closed, silenced.resting⟩
  obtain ⟨settled, board, _⟩ := acted.settles
  obtain ⟨found, rest⟩ := silenced.tidy.read_of_closed silenced.closed number
  refine ⟨settled, congrArg Answer.notification found, ?_⟩
  rw [← rest]
  exact congrArg (fun board : Board => (board.mailbox number).unread) board

/-- What the reader of a stream will still find. -/
def backlog (session : Session) (number : Nat) : List ServerEvent :=
  match session.streams[number]? with
  | some stream => stream.backlog session.board
  | none => []

/-- A stream that has been read goes on while all others are at rest. -/
theorem Silenced.settles_read (silenced : session.Silenced) {number : Nat} {stream : EventStream}
    (present : session.streams[number]? = some stream) :
    let after := stream.read.2.advance session.cancelled session.board
    (session.step (.readStream number)).2.Silenced ∧
      (session.step (.readStream number)).2.board = after.1 ∧
      (session.step (.readStream number)).2.streams[number]? = some after.2 := by
  intro after
  have within : number < session.streams.length := (List.getElem?_eq_some_iff.mp present).1
  have acted : (session.act (.readStream number)).2 =
      { session with streams := session.streams.set number stream.read.2 } := by
    simp only [act, readStream, present]
  have aside : Aside session (session.act (.readStream number)).2 := by
    rw [acted]
    exact ⟨⟨rfl, rfl, id, .inl, rfl, rfl⟩, rfl, rfl⟩
  have closing := aside.closing silenced.closing
  have gone : (session.act (.readStream number)).2.reader ≠ .running :=
    aside.reader ▸ silenced.gone
  obtain ⟨noticed, cancelled⟩ := settle_of_gone gone
  obtain ⟨holds, course, _⟩ := settle_course closing
  have settled : EventStream.settle (session.act (.readStream number)).2.cancelled
      (session.act (.readStream number)).2.board (session.act (.readStream number)).2.streams =
      (after.1, session.streams.set number after.2) := by
    rw [acted]
    exact EventStream.settle_set silenced.tidy silenced.closed silenced.resting within
  obtain ⟨board, streams⟩ := Prod.mk.inj (noticed.trans settled)
  have settles := EventStream.settles_advance session.cancelled session.board stream.read.2
  rw [step_eq_settle]
  refine ⟨⟨holds.closing closing, ?_, ?_, ?_, ?_⟩, board, ?_⟩
  · cases course with
    | same reader _ => exact reader ▸ gone
    | stops running => exact absurd running gone
  · rw [board]
    exact settles.evolves.tidy silenced.tidy
  · rw [board]
    exact settles.isClosed.trans silenced.closed
  · rw [streams, cancelled, acted]
    intro other member otherBoard
    rcases List.mem_or_eq_of_mem_set member with old | rfl
    · exact silenced.resting other old otherBoard
    · exact EventStream.rests_advance_anywhere silenced.tidy silenced.closed _ otherBoard
  · rw [streams, List.getElem?_set_self within]

theorem Silenced.step_readStream (silenced : session.Silenced) (number : Nat) :
    (session.step (.readStream number)).2.Silenced ∧
      (session.step (.readStream number)).1 = .event (.orEnd (session.backlog number).head?) ∧
      (session.step (.readStream number)).2.backlog number = (session.backlog number).tail := by
  cases present : session.streams[number]? with
  | none =>
      have acted : session.act (.readStream number) = (.event .closed, session) := by
        simp only [act, readStream, present]
      obtain ⟨settled, _, streams⟩ := silenced.settles
      have nothing : session.backlog number = [] := by simp only [backlog, present]
      rw [nothing]
      simp only [step, acted]
      exact ⟨settled, rfl, by simp only [backlog, streams, present, List.tail_nil]⟩
  | some stream =>
      have rests := silenced.resting stream (List.mem_of_getElem? present) session.board
      obtain ⟨found, rest⟩ := EventStream.read_backlog rests silenced.tidy silenced.closed
      obtain ⟨settled, board, after⟩ := silenced.settles_read present
      have left : session.backlog number = stream.backlog session.board := by
        simp only [backlog, present]
      rw [left]
      refine ⟨settled, ?_, ?_⟩
      · rw [← found]
        simp only [step, act, readStream, present]
      · simp only [backlog, after, board]
        exact rest

/-- What is read step by step until nothing is left, and then the end. -/
theorem answers_of_drain {α : Type} {holds : Session → Prop} (left : Session → List α)
    (answer : Option α → Answer)
    (drains : ∀ session : Session, holds session → holds (session.step next).2 ∧
      (session.step next).1 = answer (left session).head? ∧
      left (session.step next).2 = (left session).tail)
    (start : holds session) (count : Nat) :
    (session.sights (List.replicate ((left session).length + count) next)).map Sight.answer =
      (left session).map (fun found => answer (some found)) ++
        List.replicate count (answer none) := by
  have first (session : Session) : (session.sight next).answer = (session.step next).1 := rfl
  induction rest : left session generalizing session with
  | nil =>
      induction count generalizing session with
      | zero => rfl
      | succ count ih =>
          obtain ⟨later, found, tail⟩ := drains session start
          rw [rest] at found tail
          have others := ih later tail
          simp only [List.length_nil, Nat.zero_add, List.map_nil, List.nil_append] at others ⊢
          rw [List.replicate_succ, sights_cons, List.map_cons, first, found, others]
          rfl
  | cons value values ih =>
      obtain ⟨later, found, tail⟩ := drains session start
      rw [rest] at found tail
      have others := ih later tail
      rw [List.length_cons, Nat.succ_add, List.replicate_succ, sights_cons, List.map_cons, first,
        found, others]
      rfl

/-! ## Runs -/

theorem resting_settle (session : Session) : ∀ stream ∈ session.settle.streams,
    stream.Rests session.settle.cancelled session.settle.board := by
  obtain ⟨served, _, same⟩ := session.steady_settle
  rw [same]
  exact EventStream.rests_settle served.cancelled served.board served.streams

theorem resting_run (settings : Settings) (lineCapacity : Nat) (loggerPanics : Bool)
    (steps : List Step) :
    let session := (create settings lineCapacity loggerPanics).run steps
    ∀ stream ∈ session.streams, stream.Rests session.cancelled session.board := by
  rcases List.eq_nil_or_concat steps with rfl | ⟨before, last, rfl⟩
  · exact fun _ member => absurd member List.not_mem_nil
  · rw [List.concat_eq_append, run_append]
    exact resting_settle _

theorem silenced_run (settings : Settings) (lineCapacity : Nat) (loggerPanics : Bool)
    (steps : List Step)
    (closed : ((create settings lineCapacity loggerPanics).run steps).board.isClosed = true) :
    ((create settings lineCapacity loggerPanics).run steps).Silenced := by
  have closing := Closing.create settings lineCapacity loggerPanics
  have tidy := (evolves_run _ steps).tidy (tidy_create settings lineCapacity loggerPanics)
  obtain ⟨opened, _⟩ := run_running closing rfl rfl steps
  refine ⟨closing.run steps, fun running => ?_, tidy, closed, fun stream member other => ?_⟩
  · rw [opened running] at closed
    cases closed
  · exact (resting_run settings lineCapacity loggerPanics steps stream member).anywhere tidy closed
      other

/-- When the reader is gone, and so whenever someone was told that the connection is closed, the
board is closed exactly if no step has taken the reader away; with a logger that does not panic and
some time for closing none does. Once the board is closed it stays so: nobody can subscribe, and
every mailbox and every stream gives what is left in it and then the end. -/
theorem notices_end_unless_stranded (settings : Settings) (lineCapacity : Nat)
    (loggerPanics : Bool) (steps : List Step) :
    let start := create settings lineCapacity loggerPanics
    let session := start.run steps
    (session.returned ≠ [] ∨ session.reader ≠ .running →
        (session.board.isClosed = true ↔ start.strandings steps = [])) ∧
      (loggerPanics = false → settings.ioTimeout ≠ 0 → start.strandings steps = []) ∧
      (session.board.isClosed = true → ∀ after,
        let later := session.run after
        later.board.isClosed = true ∧
          (∀ topic, (later.step (.subscribe topic)).1 = .mailbox (.error .noticesClosed)) ∧
          (∀ kind token,
            (later.step (.openStream kind token)).1 = .stream (.error .noticesClosed)) ∧
          (∀ mailbox count,
            let unread := (later.board.mailbox mailbox).unread
            (later.sights (List.replicate (unread.length + count)
                (.readMailbox mailbox))).map Sight.answer =
              unread.map (fun notification => .notification (.value notification)) ++
                List.replicate count (.notification .closed)) ∧
          (∀ stream count,
            let left := later.backlog stream
            (later.sights (List.replicate (left.length + count)
                (.readStream stream))).map Sight.answer =
              left.map (fun event => .event (.value event)) ++
                List.replicate count (.event .closed))) := by
  intro start session
  have closing : start.Closing := .create settings lineCapacity loggerPanics
  have going : start.outbound.isStopping = true → start.reader ≠ .running :=
    fun stops => absurd stops Bool.false_ne_true
  refine ⟨?_, ?_, ?_⟩
  · intro told
    have gone : session.reader ≠ .running := by
      rcases told with reported | gone
      · exact gone_of_returned closing going steps reported
      · exact gone
    exact (run_running closing rfl rfl steps).2 gone
  · intro calm timed
    exact strandings_eq_nil closing calm timed steps
  · intro closed after later
    have before : session.Silenced := silenced_run settings lineCapacity loggerPanics steps closed
    have still : later.board.isClosed = true :=
      (run_gone before.closing before.gone after).2.1.trans closed
    have same : start.run (steps ++ after) = later := run_append ..
    have silenced : later.Silenced :=
      same ▸ silenced_run settings lineCapacity loggerPanics (steps ++ after) (same ▸ still)
    refine ⟨still, ?_, ?_, ?_, ?_⟩
    · intro topic
      simp [step, act, Board.subscribe, still]
    · intro kind token
      simp [step, act, openStream, Board.subscribe, still]
    · intro mailbox count unread
      exact answers_of_drain (fun session => (session.board.mailbox mailbox).unread)
        (fun found => .notification (.orEnd found))
        (fun _ silenced => silenced.step_readMailbox mailbox) silenced count
    · intro stream count left
      exact answers_of_drain (fun session => session.backlog stream)
        (fun found => .event (.orEnd found))
        (fun _ silenced => silenced.step_readStream stream) silenced count

/-- A subscriber with one unread notification when the connection is closed. -/
theorem notices_end_unless_stranded_of_close :
    let notice := Json.bytesOf r#"{"method":"t"}"#
    let steps : List Step := [.subscribe "t", .receive (.data notice), .close]
    let session := (create .standard 1024 false).run steps
    let unread := (session.board.mailbox 0).unread
    session.returned ≠ [] ∧ unread.length = 1 ∧ session.board.isClosed = true ∧
      (session.step (.subscribe "u")).1 = .mailbox (.error .noticesClosed) ∧
      (session.sights (List.replicate (unread.length + 2) (.readMailbox 0))).map Sight.answer =
        unread.map (fun notification => .notification (.value notification)) ++
          List.replicate 2 (.notification .closed) := by
  intro notice steps session unread
  have reported : session.returned ≠ [] := by decide +kernel
  obtain ⟨shut, whole, ends⟩ := notices_end_unless_stranded .standard 1024 false steps
  have closed := (shut (.inl reported)).mpr (whole rfl (by decide))
  obtain ⟨_, refused, _, drained, _⟩ := ends closed []
  exact ⟨reported, by decide +kernel, closed, refused "u", drained 0 2⟩

/-- The logger panics at a frame that is no envelope: the connection is closed afterwards, but the
subscriber is left without an end, and others can still subscribe. -/
theorem panicking_logger_leaves_notices_open :
    let session := (create .standard 1024 true).run
      [.subscribe "t", .receive (.data (Json.bytesOf "junk")), .close]
    session.returned = [0] ∧ session.reader = .crashed ∧ session.board.isClosed = false ∧
      (session.board.read 0).1 = .empty ∧ (session.board.subscribe "u").1.toOption = some 1 := by
  decide +kernel

end Session

end ServerManagement
