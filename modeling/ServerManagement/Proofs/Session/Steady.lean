import ServerManagement.Proofs.Correlation.SlotProperties
import ServerManagement.Session.Step

/-!
What settling leaves alone. Ending calls and serving the closer change neither the time nor the
notice board, and no step takes a call back from the count.
-/

set_option autoImplicit false

namespace ServerManagement

namespace Session

/-- The parts of a session that the life of calls and closers does not touch. -/
structure Steady (session later : Session) : Prop where
  now : later.now = session.now
  callCount : later.callCount = session.callCount
  lastId : later.correlator.lastId = session.correlator.lastId
  cancelled : later.cancelled = session.cancelled
  board : later.board = session.board
  streams : later.streams = session.streams

variable {session middle later : Session}

theorem Steady.refl (session : Session) : Steady session session := ⟨rfl, rfl, rfl, rfl, rfl, rfl⟩

theorem Steady.trans (first : Steady session middle) (second : Steady middle later) :
    Steady session later where
  now := second.now.trans first.now
  callCount := second.callCount.trans first.callCount
  lastId := second.lastId.trans first.lastId
  cancelled := second.cancelled.trans first.cancelled
  board := second.board.trans first.board
  streams := second.streams.trans first.streams

theorem Steady.foldl {α : Type} {move : Session → α → Session}
    (steady : ∀ session item, Steady session (move session item)) (session : Session)
    (items : List α) : Steady session (items.foldl move session) := by
  induction items generalizing session with
  | nil => exact .refl session
  | cons item items ih => exact (steady session item).trans (ih _)

theorem steady_finish (session : Session) (call : Call) (result : Except Failure Response) :
    Steady session (session.finish call result) :=
  ⟨rfl, rfl, Correlator.lastId_remove_abandon, rfl, rfl, rfl⟩

theorem steady_note (session : Session) (effect : Effect) :
    Steady session (session.note effect) := by
  cases effect with
  | refused number =>
      simp only [note]
      split
      · exact session.steady_finish _ _
      · exact .refl session
  | arrived | logged | admitted => exact ⟨rfl, rfl, rfl, rfl, rfl, rfl⟩

theorem steady_noteAll (session : Session) (effects : List Effect) :
    Steady session (session.noteAll effects) := .foldl steady_note session effects

theorem steady_withOutbound (session : Session) (outbound : Outbound) (effects : List Effect) :
    Steady session ({ session with outbound }.noteAll effects) := by
  have noted := steady_noteAll { session with outbound } effects
  exact ⟨noted.now, noted.callCount, noted.lastId, noted.cancelled, noted.board, noted.streams⟩

theorem steady_settleOutbound (session : Session) : Steady session session.settleOutbound :=
  session.steady_withOutbound _ _

/-! ## Calls -/

/-- The result of a call whose letter has left the waiting line. -/
def answer (session : Session) (call : Call) : Option (Except Failure Response) :=
  if session.outbound.isWaiting call.number then none
  else
    match session.correlator.slot call.ticket with
    | .awaiting => none
    | .answered response => some (.ok response)
    | .closed | .abandoned => some (.error .replyLost)

theorem finish_take (session : Session) (call : Call) (result : Except Failure Response) :
    { session with correlator := (session.correlator.take call.ticket).2 }.finish call result =
      session.finish call result := by
  simp only [finish, dismiss, record, Correlator.remove_abandon_take]

theorem collect_eq (session : Session) (call : Call) :
    session.collect call =
      match session.answer call with
      | some result => session.finish call result
      | none => session := by
  unfold collect answer
  split
  · rfl
  · have same := session.finish_take call
    unfold Correlator.take at same ⊢
    cases held : session.correlator.slot call.ticket with
    | awaiting => rfl
    | answered response =>
        simp only [held] at same
        exact same (.ok response)
    | closed => rfl
    | abandoned => rfl

theorem steady_collect (session : Session) (call : Call) :
    Steady session (session.collect call) := by
  rw [collect_eq]
  split
  · exact session.steady_finish _ _
  · exact .refl session

def lateness (session : Session) (call : Call) : Option (Except Failure Response) :=
  if call.deadline ≤ session.now then some (.error (.timeout call.method call.limit)) else none

theorem expire_eq (session : Session) (call : Call) :
    session.expire call =
      match session.lateness call with
      | some result => session.finish call result
      | none => session := by
  unfold expire lateness
  split <;> rfl

theorem steady_expire (session : Session) (call : Call) : Steady session (session.expire call) := by
  rw [expire_eq]
  split
  · exact session.steady_finish _ _
  · exact .refl session

theorem steady_settleCalls (session : Session) : Steady session session.settleCalls :=
  (Steady.foldl steady_collect session _).trans (Steady.foldl steady_expire _ _)

/-! ## The closer -/

theorem steady_cutWriter (session : Session) : Steady session session.cutWriter := by
  unfold cutWriter
  split
  · exact .refl session
  · have logged : Steady session (session.record (.logged (taskAborted session.ioTimeout))) :=
      ⟨rfl, rfl, rfl, rfl, rfl, rfl⟩
    exact logged.trans (steady_withOutbound _ _ _)

theorem steady_cutReader (session : Session) : Steady session session.cutReader := by
  unfold cutReader
  split
  · exact ⟨rfl, rfl, rfl, rfl, rfl, rfl⟩
  · exact .refl session

theorem steady_dischargeCloser (session : Session) (closer : Closer) :
    Steady session (session.dischargeCloser closer) := ⟨rfl, rfl, rfl, rfl, rfl, rfl⟩

theorem steady_loseCloser (session : Session) (closer : Closer) :
    Steady session (session.loseCloser closer) := ⟨rfl, rfl, rfl, rfl, rfl, rfl⟩

theorem steady_settleCloser (session : Session) : Steady session session.settleCloser := by
  unfold settleCloser
  split
  · exact .refl session
  · rename_i closer _
    split
    · exact session.steady_dischargeCloser closer
    · split
      · split
        · exact session.steady_loseCloser closer
        · exact (session.steady_cutWriter.trans (steady_cutReader _)).trans
            (steady_dischargeCloser _ closer)
      · exact .refl session

theorem steady_settleClosing (session : Session) : Steady session session.settleClosing := by
  unfold settleClosing
  split
  · split
    · exact ⟨rfl, rfl, rfl, rfl, rfl, rfl⟩
    · exact .refl session
  · exact .refl session

/-! ## Time and the count of calls -/

/-- From the reader on, settling comes down to what the reader and the streams do. -/
theorem steady_settle (session : Session) :
    ∃ served : Session, Steady session.settleOutbound.settleReader served ∧
      session.settle = served.settleStreams :=
  ⟨_, (((steady_settleCalls _).trans (steady_settleCloser _)).trans (steady_settleClosing _)).trans
    (steady_settleCloser _), rfl⟩

theorem now_settleReader (session : Session) : session.settleReader.now = session.now := by
  unfold settleReader
  split <;> rfl

theorem callCount_settleReader (session : Session) :
    session.settleReader.callCount = session.callCount := by
  unfold settleReader
  split <;> rfl

theorem now_settle (session : Session) : session.settle.now = session.now := by
  obtain ⟨served, steady, same⟩ := session.steady_settle
  rw [same]
  exact steady.now.trans ((now_settleReader _).trans session.steady_settleOutbound.now)

theorem callCount_settle (session : Session) : session.settle.callCount = session.callCount := by
  obtain ⟨served, steady, same⟩ := session.steady_settle
  rw [same]
  exact steady.callCount.trans
    ((callCount_settleReader _).trans session.steady_settleOutbound.callCount)

theorem lastId_settleReader (session : Session) :
    session.settleReader.correlator.lastId = session.correlator.lastId := by
  unfold settleReader
  split <;> rfl

theorem lastId_settle (session : Session) :
    session.settle.correlator.lastId = session.correlator.lastId := by
  obtain ⟨served, steady, same⟩ := session.steady_settle
  rw [same]
  exact steady.lastId.trans ((lastId_settleReader _).trans session.steady_settleOutbound.lastId)

end Session

end ServerManagement
