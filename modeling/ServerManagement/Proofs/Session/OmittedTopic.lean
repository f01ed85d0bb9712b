import ServerManagement.Proofs.Notice.OmittedStreams
import ServerManagement.Proofs.Session.Stillness

/-!
Sessions with one topic left out. Settling does the same with and without the topic, and so does
every step but those of the subscribers of the topic, of which nothing is seen.
-/

set_option autoImplicit false

namespace ServerManagement

namespace Session

/-- The session without a topic: its mailboxes, its streams and its tokens are taken away. -/
def without (session : Session) (omission : Omission) (marks : List Bool) : Session :=
  { session with
    board := session.board.without omission.topic marks
    streams := EventStream.others omission.topic marks session.streams
    cancelled := omission.rest session.cancelled }

structure Fits (omission : Omission) (marks : List Bool) (session : Session) : Prop where
  board : session.board.Marked omission.topic marks
  streams : ∀ stream ∈ session.streams, stream.Placed omission marks
  calls : ∀ call ∈ session.calls, ∀ token ∈ call.token, omission.owns token = false

def Oblivious (omission : Omission) (marks : List Bool) (move : Session → Session) : Prop :=
  ∀ session, move (session.without omission marks) = (move session).without omission marks

variable {session later : Session} {omission : Omission} {marks : List Bool}

@[simp] theorem now_without : (session.without omission marks).now = session.now := rfl

@[simp] theorem calls_without : (session.without omission marks).calls = session.calls := rfl

@[simp] theorem closer_without : (session.without omission marks).closer = session.closer := rfl

@[simp] theorem reader_without : (session.without omission marks).reader = session.reader := rfl

@[simp] theorem outbound_without :
    (session.without omission marks).outbound = session.outbound := rfl

@[simp] theorem history_without :
    (session.without omission marks).history = session.history := rfl

@[simp] theorem pending_without :
    (session.without omission marks).pending = session.pending := rfl

theorem Oblivious.foldl {α : Type} {move : Session → α → Session}
    (oblivious : ∀ item, Oblivious omission marks fun session => move session item)
    (items : List α) : Oblivious omission marks fun session => items.foldl move session :=
  fun _ => List.foldl_hom (fun session => session.without omission marks)
    fun session item => oblivious item session

section

variable (omission : Omission) (marks : List Bool)

theorem oblivious_note (effect : Effect) :
    Oblivious omission marks fun session => session.note effect := by
  intro session
  cases effect with
  | refused number =>
      have found : (session.without omission marks).call? number = session.call? number := rfl
      simp only [note, found]
      split <;> rfl
  | arrived | logged | admitted => rfl

theorem oblivious_noteAll (effects : List Effect) :
    Oblivious omission marks fun session => session.noteAll effects :=
  .foldl (oblivious_note omission marks) effects

theorem oblivious_settleOutbound : Oblivious omission marks settleOutbound :=
  fun session => oblivious_noteAll omission marks _ session.withSettled

theorem oblivious_stopReader : Oblivious omission marks stopReader := by
  intro session
  simp only [stopReader, without, Board.close_without]

theorem oblivious_settleReader : Oblivious omission marks settleReader := by
  intro session
  unfold settleReader
  rw [outbound_without, reader_without]
  split
  · exact oblivious_stopReader omission marks session
  · rfl

theorem oblivious_collect (call : Call) :
    Oblivious omission marks fun session => session.collect call := by
  intro session
  have answer : (session.without omission marks).answer call = session.answer call := rfl
  simp only [collect_eq, answer]
  split <;> rfl

theorem oblivious_expire (call : Call) :
    Oblivious omission marks fun session => session.expire call := by
  intro session
  have lateness : (session.without omission marks).lateness call = session.lateness call := rfl
  simp only [expire_eq, lateness]
  split <;> rfl

theorem oblivious_settleCalls : Oblivious omission marks settleCalls := by
  intro session
  have collected := Oblivious.foldl (oblivious_collect omission marks) session.calls session
  have expired := Oblivious.foldl (oblivious_expire omission marks)
    (session.calls.foldl collect session).calls (session.calls.foldl collect session)
  simp only [settleCalls, calls_without, collected, expired]

theorem oblivious_cutWriter : Oblivious omission marks cutWriter := by
  intro session
  unfold cutWriter
  rw [outbound_without]
  split
  · rfl
  · exact oblivious_noteAll omission marks _
      { session.record (.logged (taskAborted session.ioTimeout)) with
        outbound := (session.outbound.halt .aborted).2 }

theorem oblivious_cutReader : Oblivious omission marks cutReader := by
  intro session
  unfold cutReader
  rw [reader_without]
  split <;> rfl

theorem oblivious_dischargeCloser (closer : Closer) :
    Oblivious omission marks fun session => session.dischargeCloser closer :=
  fun _ => rfl

theorem oblivious_loseCloser (closer : Closer) :
    Oblivious omission marks fun session => session.loseCloser closer :=
  fun _ => rfl

theorem oblivious_settleCloser : Oblivious omission marks settleCloser := by
  intro session
  have down : (session.without omission marks).isDown = session.isDown := rfl
  have panics : (session.without omission marks).loggerPanics = session.loggerPanics := rfl
  unfold settleCloser
  rw [closer_without, now_without, down, panics]
  split
  · rfl
  · split
    · rfl
    · split
      · split
        · exact oblivious_loseCloser omission marks _ _
        · rw [oblivious_cutWriter, oblivious_cutReader]
          exact oblivious_dischargeCloser omission marks _ _
      · rfl

theorem oblivious_settleClosing : Oblivious omission marks settleClosing := by
  intro session
  unfold settleClosing
  rw [outbound_without, now_without]
  split
  · split <;> rfl
  · rfl

end

theorem settleStreams_without (board : session.board.Marked omission.topic marks)
    (streams : ∀ stream ∈ session.streams, stream.Placed omission marks) :
    (session.without omission marks).settleStreams =
      session.settleStreams.without omission marks := by
  have settled := EventStream.settle_without session.cancelled board streams
  simp only [settleStreams, without, settled]

/-- Before the streams go on, settling closes the board or leaves it alone. -/
theorem Fits.served (fits : session.Fits omission marks)
    (steady : Steady session.settleOutbound.settleReader later) :
    later.board.Marked omission.topic marks ∧
      ∀ stream ∈ later.streams, stream.Placed omission marks := by
  have noted := session.steady_settleOutbound
  have board : session.settleOutbound.settleReader.board.Marked omission.topic marks := by
    unfold settleReader
    split
    · exact (noted.board ▸ fits.board).close
    · exact noted.board ▸ fits.board
  have streams : session.settleOutbound.settleReader.streams = session.streams := by
    unfold settleReader
    split <;> exact noted.streams
  refine ⟨steady.board ▸ board, ?_⟩
  rw [steady.streams, streams]
  exact fits.streams

theorem settle_without (fits : session.Fits omission marks) :
    (session.without omission marks).settle = session.settle.without omission marks := by
  have steady := (((steady_settleCalls session.settleOutbound.settleReader).trans
    (steady_settleCloser _)).trans (steady_settleClosing _)).trans (steady_settleCloser _)
  obtain ⟨board, streams⟩ := fits.served steady
  have streamed := settleStreams_without board streams
  unfold settle
  rw [oblivious_settleOutbound, oblivious_settleReader, oblivious_settleCalls,
    oblivious_settleCloser, oblivious_settleClosing, oblivious_settleCloser, streamed]

theorem Fits.settle (fits : session.Fits omission marks) (sound : session.Sound) :
    session.settle.Fits omission marks := by
  obtain ⟨served, steady, same⟩ := session.steady_settle
  obtain ⟨board, streams⟩ := fits.served steady
  obtain ⟨_, ended, _⟩ := endsWhere_settle sound
  constructor
  · rw [same]
    exact EventStream.marked_settle served.cancelled served.streams board
  · rw [same]
    exact EventStream.placed_settle served.cancelled served.board streams
  · exact fun call member => fits.calls call (ended.origin call member)

end Session

end ServerManagement
