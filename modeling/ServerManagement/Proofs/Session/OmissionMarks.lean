import ServerManagement.Proofs.Session.OmittedTopic
import ServerManagement.Proofs.Session.Subscriptions

/-!
The marks of mailboxes and streams over time. A mailbox is marked when it is handed out, by the
topic that it is for, and the marks fit the session from then on.
-/

set_option autoImplicit false

namespace ServerManagement

namespace Session

def Step.usesBeside (topic : String) (token : Token) : Step → Bool
  | .call _ _ terms => terms.token == some token
  | .openStream kind other => kind.topic != topic && other == token
  | _ => false

def Step.Respects (omission : Omission) (next : Step) : Prop :=
  ∀ token, omission.owns token = true → next.usesBeside omission.topic token = false

def handed (session : Session) (omission : Omission) (next : Step) : List Bool :=
  match next.wanted? with
  | some topic => Board.handed (topic != omission.topic) (session.board.subscribe topic).1
  | none => []

variable {session : Session} {omission : Omission} {marks : List Bool} {next : Step}

theorem Step.Respects.call {method : String} {params : Params} {terms : CallTerms}
    (respects : Respects omission (.call method params terms)) :
    ∀ token ∈ terms.token, omission.owns token = false := by
  intro token used
  refine Bool.eq_false_iff.mpr fun own => ?_
  have unused := respects token own
  simp [Step.usesBeside, Option.mem_def.mp used] at unused

theorem Step.Respects.openStream {kind : EventKind} {token : Token}
    (respects : Respects omission (.openStream kind token))
    (differs : kind.topic ≠ omission.topic) : omission.owns token = false := by
  refine Bool.eq_false_iff.mpr fun own => ?_
  have unused := respects token own
  simp [Step.usesBeside, differs] at unused

/-! ## The board -/

theorem BoardChange.marked {board later : Board} {topic : String}
    (change : BoardChange board later) (marked : board.Marked topic marks) :
    later.Marked topic marks := by
  cases change with
  | none => exact marked
  | close => exact marked.close
  | post notification => exact marked.post notification
  | unsubscribe topic => exact marked.unsubscribe topic
  | read number => exact marked.read number
  | abandon number => exact marked.abandon number

theorem Fits.marked_act (fits : session.Fits omission marks) (next : Step) :
    (session.act next).2.board.Marked omission.topic
      (marks ++ session.handed omission next) := by
  cases wanted : next.wanted? with
  | some topic =>
      simp only [handed, wanted, session.board_act_of_wanted wanted]
      exact fits.board.subscribe topic
  | none =>
      simp only [handed, wanted, List.append_nil]
      exact (session.boardChange_act wanted).marked fits.board

/-! ## Streams -/

theorem receive_streams (session : Session) (incoming : Incoming) :
    (session.receive incoming).streams = session.streams := by
  unfold receive
  split
  · rfl
  · cases incoming with
    | control | farewell | ended => rfl
    | broken => exact (session.failReading_board _).2
    | data frame =>
        dsimp only
        split
        · exact (session.failReading_board _).2
        · rfl
        · rfl

theorem Fits.placed_act (fits : session.Fits omission marks)
    (respects : next.Respects omission) :
    ∀ stream ∈ (session.act next).2.streams,
      stream.Placed omission (marks ++ session.handed omission next) := by
  have old (more : List Bool) : ∀ stream ∈ session.streams,
      stream.Placed omission (marks ++ more) :=
    fun stream member => (fits.streams stream member).append more
  cases next with
  | call method params terms =>
      have same : (session.act (.call method params terms)).2.streams = session.streams :=
        (startCall_board method params terms).2
      exact same ▸ old _
  | abandonCall number =>
      simp only [act, abandonCall]
      split <;> exact old _
  | cancel token => exact (session.steady_cancel token).streams ▸ old _
  | receive incoming => exact session.receive_streams incoming ▸ old _
  | resume =>
      have steady := steady_noteAll (session.withLine session.outbound.line.resume.2)
        (session.outbound.line.resume.1.map .arrived)
      exact steady.streams ▸ old _
  | vanish =>
      have same : (session.act .vanish).2.streams = session.streams := receive_streams _ _
      exact same ▸ old _
  | openStream kind token =>
      have mark : (marks ++ [kind.topic != omission.topic])[session.board.mailboxes.length]? =
          some (kind.topic != omission.topic) := by
        rw [← fits.board.length, List.getElem?_concat_length]
      simp only [act, handed, Step.wanted?]
      have fresh (number : Nat) (handed : (session.board.subscribe kind.topic).1 = .ok number) :=
        Board.number_of_subscribe handed
      unfold openStream
      generalize session.board.subscribe kind.topic = result at fresh ⊢
      obtain ⟨result, later⟩ := result
      cases result with
      | error failure => exact old _
      | ok mailbox =>
          obtain rfl := fresh mailbox rfl
          intro stream member
          rcases List.mem_append.mp member with before | new
          · exact old _ stream before
          · obtain rfl := List.mem_singleton.mp new
            exact ⟨mark, respects.openStream⟩
  | readStream number =>
      have read := EventStream.placed_modify EventStream.passes_read (old []) number
      simp only [act, handed, Step.wanted?, readStream]
      split
      · exact old _
      · rename_i stream present
        rw [← set_eq_modify_of_present present fun stream => stream.read.2] at read
        exact read
  | abandonStream number =>
      exact EventStream.placed_modify EventStream.passes_abandon (old _) number
  | close => exact session.close_board.2 ▸ old _
  | abandonClose number =>
      simp only [act, abandonClose]
      split
      · split <;> exact old _
      · exact old _
  | setCallTimeout | advance | pause | subscribe | unsubscribe | readMailbox | abandonMailbox
  | release | linger => exact old _

/-! ## Calls -/

/-- No call gets a token that is left out. -/
theorem Fits.calls_act (fits : session.Fits omission marks) (sound : session.Sound)
    (respects : next.Respects omission) :
    ∀ call ∈ (session.act next).2.calls, ∀ token ∈ call.token, omission.owns token = false := by
  have acted := session.act_cases next
  generalize (session.act next).2 = later at acted ⊢
  cases acted with
  | pass passive quiet => exact quiet.calls ▸ fits.calls
  | turnAway => exact fits.calls
  | start method params terms issue issued =>
      unfold enroll
      split
      · exact fits.calls
      · intro call member token used
        rcases List.mem_append.mp member with old | new
        · exact fits.calls call old token used
        · obtain rfl := List.mem_singleton.mp new
          exact respects.call token used
  | leave number =>
      unfold abandonCall
      split
      · exact fun call member => fits.calls call (List.mem_filter.mp member).1
      · exact fits.calls
  | cancel token =>
      have ended := endsWhere_cancel sound token
      exact fun call member => fits.calls call (ended.origin call member)
  | hear => exact fits.calls
  | close opened =>
      obtain ⟨_, ended, _⟩ := endsWhere_close sound opened
      exact fun call member => fits.calls call (ended.origin call member)

theorem Fits.act (fits : session.Fits omission marks) (sound : session.Sound)
    (respects : next.Respects omission) :
    (session.act next).2.Fits omission (marks ++ session.handed omission next) :=
  ⟨fits.marked_act next, fits.placed_act respects, fits.calls_act sound respects⟩

end Session

end ServerManagement
