import Mathlib.Logic.Relation
import ServerManagement.Proofs.Session.Stillness

/-!
What a session does to the way out, other than letting it move. What these changes and all moves
preserve holds between any two steps.
-/

set_option autoImplicit false

namespace ServerManagement

/-- One change of the way out that is none of its own moves. A peer that reads does not begin to
pause in the middle of a letter, since it takes everything at once. -/
inductive OutboundChange (outbound : Outbound) : Outbound → Prop where
  | post (letter : Letter) : OutboundChange outbound (outbound.post letter)
  | withdraw (call : Nat) : OutboundChange outbound (outbound.withdraw call)
  | stop : OutboundChange outbound outbound.stop
  | linger (call : Nat) : OutboundChange outbound { outbound with linger := call }
  | farewell :
      OutboundChange outbound
        { outbound with line := { outbound.line with isClosing := true } }
  | pause (taken : outbound.line.peer = .reading → outbound.writer.letters = []) :
      OutboundChange outbound { outbound with line := outbound.line.pause }
  | resume : OutboundChange outbound { outbound with line := outbound.line.resume.2 }
  | vanish : OutboundChange outbound { outbound with line := outbound.line.vanish }
  | abort : OutboundChange outbound (outbound.halt .aborted).2
  | giveUp (left deadline : Nat) (closing : outbound.writer = .closing left deadline) :
      OutboundChange outbound { outbound with writer := .ended }

abbrev OutboundChanges : Outbound → Outbound → Prop := Relation.ReflTransGen OutboundChange

namespace Session

variable {session : Session} {next : Step}

/-! ## Calls that go -/

theorem changes_dismiss (session : Session) (call : Call) :
    OutboundChanges session.outbound (session.dismiss call).outbound :=
  .single (.withdraw call.number)

theorem changes_foldl {α : Type} {move : Session → α → Session}
    (changes : ∀ session item, OutboundChanges session.outbound (move session item).outbound)
    (session : Session) (items : List α) :
    OutboundChanges session.outbound (items.foldl move session).outbound := by
  induction items generalizing session with
  | nil => exact .refl
  | cons item items ih => exact (changes session item).trans (ih _)

theorem changes_noteAll (session : Session) (effects : List Effect) :
    OutboundChanges session.outbound (session.noteAll effects).outbound := by
  refine changes_foldl ?_ session effects
  intro session effect
  cases effect with
  | refused number =>
      simp only [note]
      split
      · exact session.changes_dismiss _
      · exact .refl
  | arrived | logged | admitted => exact .refl

theorem changes_settleCalls (session : Session) :
    OutboundChanges session.outbound session.settleCalls.outbound := by
  refine (changes_foldl ?_ session session.calls).trans (changes_foldl ?_ _ _)
  · intro session call
    rw [collect_eq]
    split
    · exact session.changes_dismiss call
    · exact .refl
  · intro session call
    rw [expire_eq]
    split
    · exact session.changes_dismiss call
    · exact .refl

/-! ## Settling -/

theorem outbound_settleReader (session : Session) :
    session.settleReader.outbound = session.outbound := by
  unfold settleReader
  split <;> rfl

theorem outbound_cutReader (session : Session) : session.cutReader.outbound = session.outbound := by
  unfold cutReader
  split <;> rfl

theorem outbound_dischargeCloser (session : Session) (closer : Closer) :
    (session.dischargeCloser closer).outbound = session.outbound := rfl

theorem outbound_loseCloser (session : Session) (closer : Closer) :
    (session.loseCloser closer).outbound = session.outbound := rfl

theorem changes_cutWriter (session : Session) :
    OutboundChanges session.outbound session.cutWriter.outbound := by
  unfold cutWriter
  split
  · exact .refl
  · refine Relation.ReflTransGen.head .abort ?_
    exact changes_noteAll
      { session.record (.logged (taskAborted session.ioTimeout)) with
        outbound := (session.outbound.halt .aborted).2 } _

theorem changes_settleCloser (session : Session) :
    OutboundChanges session.outbound session.settleCloser.outbound := by
  unfold settleCloser
  split
  · exact .refl
  · split
    · exact .refl
    · split
      · split
        · exact (session.outbound_loseCloser _).symm ▸ .refl
        · rw [outbound_dischargeCloser, outbound_cutReader]
          exact session.changes_cutWriter
      · exact .refl

theorem changes_settleClosing (session : Session) :
    OutboundChanges session.outbound session.settleClosing.outbound := by
  unfold settleClosing
  split
  · rename_i left deadline closing
    split
    · exact .single (.giveUp left deadline closing)
    · exact .refl
  · exact .refl

/-- After its own moves, settling only changes the way out. -/
theorem changes_settle (session : Session) :
    OutboundChanges (session.outbound.settle session.writeTerms).2 session.settle.outbound := by
  have noted := changes_noteAll session.withSettled (session.outbound.settle session.writeTerms).1
  have read := outbound_settleReader session.settleOutbound
  have called := changes_settleCalls session.settleOutbound.settleReader
  rw [read] at called
  have closed := (changes_settleCloser session.settleOutbound.settleReader.settleCalls).trans
    ((changes_settleClosing _).trans (changes_settleCloser _))
  exact (noted.trans called).trans closed

/-! ## Acting -/

theorem changes_startCall (session : Session) (method : String) (params : Params)
    (terms : CallTerms) :
    OutboundChanges session.outbound (session.startCall method params terms).outbound := by
  unfold startCall
  dsimp only
  split
  · exact .refl
  · split
    · exact .refl
    · split
      · exact .refl
      · unfold enroll
        split
        · exact .refl
        · exact .single (.post _)

theorem changes_receive (session : Session) (incoming : Incoming) :
    OutboundChanges session.outbound (session.receive incoming).outbound := by
  have failing (session : Session) (line : LogLine) :
      (session.failReading line).outbound = session.outbound := by
    unfold failReading
    dsimp only
    split <;> rfl
  unfold receive
  split
  · exact .refl
  · cases incoming with
    | control | ended => exact .refl
    | broken =>
        dsimp only
        rw [failing]
    | farewell => exact .single .farewell
    | data frame =>
        dsimp only
        split
        · rw [failing]
        · exact .refl
        · exact .refl

theorem changes_close (session : Session) :
    OutboundChanges session.outbound session.close.outbound := by
  unfold close
  dsimp only
  split
  · exact .refl
  · exact Relation.ReflTransGen.head .stop (changes_settleCloser session.withCloser)

/-- A step taken while nothing can move changes the way out before it lets it move. -/
theorem changes_act (still : session.outbound.move? session.writeTerms = none) (next : Step) :
    OutboundChanges session.outbound (session.act next).2.outbound := by
  cases next with
  | call method params terms => exact session.changes_startCall method params terms
  | abandonCall number =>
      simp only [act, abandonCall]
      split
      · exact session.changes_dismiss _
      · exact .refl
  | cancel token =>
      refine changes_foldl ?_ { session with cancelled := token :: session.cancelled } session.calls
      intro session call
      split
      · exact session.changes_dismiss call
      · exact .refl
  | receive incoming => exact session.changes_receive incoming
  | pause =>
      refine .single (.pause fun reads => ?_)
      have stuck := Outbound.write?_eq_none_iff.mp (Outbound.move?_eq_none_iff.mp still).1
      cases writes : session.outbound.writer with
      | blocked letter left => simp [writes, Outbound.lineMoves, reads] at stuck
      | idle | closing | ended | crashed | aborted => rfl
  | resume =>
      exact Relation.ReflTransGen.head .resume
        (changes_noteAll (session.withLine session.outbound.line.resume.2) _)
  | vanish =>
      exact Relation.ReflTransGen.head .vanish
        (changes_receive (session.withLine session.outbound.line.vanish) .broken)
  | openStream kind token =>
      simp only [act, openStream]
      split <;> exact .refl
  | readStream number =>
      simp only [act, readStream]
      split <;> exact .refl
  | close => exact session.changes_close
  | abandonClose number =>
      simp only [act, abandonClose]
      split
      · split <;> exact .refl
      · exact .refl
  | release => exact .single .stop
  | linger call => exact .single (.linger call)
  | setCallTimeout | advance | subscribe | unsubscribe | readMailbox | abandonMailbox
  | abandonStream => exact .refl

/-! ## Runs -/

/-- What all changes and all moves preserve holds after every run. -/
theorem outbound_invariant {holds : Outbound → Prop}
    (change : ∀ outbound later, OutboundChange outbound later → holds outbound → holds later)
    (move : ∀ terms outbound effects later, Outbound.Move terms outbound effects later →
      holds outbound → holds later)
    (still : session.outbound.move? session.writeTerms = none) (start : holds session.outbound)
    (steps : List Step) :
    holds (session.run steps).outbound ∧
      (session.run steps).outbound.move? (session.run steps).writeTerms = none := by
  have changed {outbound later : Outbound} (changes : OutboundChanges outbound later)
      (before : holds outbound) : holds later := by
    induction changes with
    | refl => exact before
    | tail _ last ih => exact change _ _ last ih
  have moved (terms : WriteTerms) (outbound : Outbound) (before : holds outbound) :
      holds (outbound.settle terms).2 := by
    refine Outbound.settle_induction (fun outbound _ later => holds outbound → holds later)
      (fun _ => id) ?_ outbound before
    intro outbound effects middle later settled first rest before
    exact rest (move terms outbound effects middle first before)
  have preserved (session : Session) (next : Step) (before : holds session.outbound ∧
      session.outbound.move? session.writeTerms = none) :
      holds (session.step next).2.outbound ∧
        (session.step next).2.outbound.move? (session.step next).2.writeTerms = none := by
    have acted := changed (changes_act before.2 next) before.1
    have settled := moved (session.act next).2.writeTerms _ acted
    exact ⟨changed (changes_settle _) settled, (loopsRest_settle _).outbound⟩
  exact run_invariant preserved ⟨start, still⟩ steps

end Session

end ServerManagement
