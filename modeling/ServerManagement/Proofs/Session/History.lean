import ServerManagement.Proofs.Session.FailedCalls
import ServerManagement.Proofs.Session.Sights

/-!
Nothing that has occurred in a session is taken back: each step adds its news to the history. That a
call draws an identifier that is in use can be among the news only where a call is entered.
-/

set_option autoImplicit false

namespace ServerManagement

structure Occurrence.Ordinary (allowed : Occurrence → Prop) : Prop where
  arrived : ∀ arrival, allowed (.arrived arrival)
  logged : ∀ line, allowed (.logged line)
  ended : ∀ call result, allowed (.ended call result)
  closed : ∀ closer result, allowed (.closed closer result)
  closerLost : ∀ closer, allowed (.closerLost closer)

namespace Session

def Extends (session later : Session) : Prop := session.history <+: later.history

def Adds (allowed : Occurrence → Prop) (session later : Session) : Prop :=
  ∃ news, later.history = session.history ++ news ∧ ∀ occurrence ∈ news, allowed occurrence

variable {session middle later : Session} {allowed : Occurrence → Prop}

theorem Extends.refl (session : Session) : Extends session session := List.prefix_refl _

theorem Extends.trans (first : Extends session middle) (second : Extends middle later) :
    Extends session later := List.IsPrefix.trans first second

theorem Adds.refl (session : Session) : Adds allowed session session :=
  ⟨[], (List.append_nil _).symm, nofun⟩

theorem Adds.trans (first : Adds allowed session middle) (second : Adds allowed middle later) :
    Adds allowed session later := by
  obtain ⟨news, same, fine⟩ := first
  obtain ⟨more, sameToo, fineToo⟩ := second
  refine ⟨news ++ more, by rw [sameToo, same, List.append_assoc], ?_⟩
  exact List.forall_mem_append.mpr ⟨fine, fineToo⟩

theorem Adds.extends (adds : Adds allowed session later) : Extends session later := by
  obtain ⟨news, same, _⟩ := adds
  exact ⟨news, same.symm⟩

theorem adds_record (session : Session) {occurrence : Occurrence} (fine : allowed occurrence) :
    Adds allowed session (session.record occurrence) :=
  ⟨[occurrence], rfl, List.forall_mem_singleton.mpr fine⟩

theorem adds_foldl {α : Type} {move : Session → α → Session}
    (adds : ∀ session item, Adds allowed session (move session item)) (session : Session)
    (items : List α) : Adds allowed session (items.foldl move session) := by
  induction items generalizing session with
  | nil => exact .refl session
  | cons item items ih => exact (adds session item).trans (ih _)

section Ordinary

open Occurrence (Ordinary)

theorem adds_finish (ordinary : Ordinary allowed) (session : Session) (call : Call)
    (result : Except Failure Response) : Adds allowed session (session.finish call result) :=
  ⟨[_], rfl, List.forall_mem_singleton.mpr (ordinary.ended _ _)⟩

/-! ## Settling -/

theorem adds_noteAll (ordinary : Ordinary allowed) (session : Session) (effects : List Effect) :
    Adds allowed session (session.noteAll effects) := by
  refine adds_foldl (fun session effect => ?_) session effects
  cases effect with
  | arrived arrival => exact session.adds_record (ordinary.arrived arrival)
  | logged line => exact session.adds_record (ordinary.logged line)
  | admitted number => exact .refl session
  | refused number =>
      simp only [note]
      split
      · exact adds_finish ordinary session _ _
      · exact .refl session

theorem adds_settleReader (session : Session) : Adds allowed session session.settleReader := by
  unfold settleReader
  split <;> exact .refl session

theorem adds_settleCalls (ordinary : Ordinary allowed) (session : Session) :
    Adds allowed session session.settleCalls := by
  refine (adds_foldl ?_ session _).trans (adds_foldl ?_ _ _)
  · intro session call
    rw [collect_eq]
    split
    · exact adds_finish ordinary session _ _
    · exact .refl session
  · intro session call
    rw [expire_eq]
    split
    · exact adds_finish ordinary session _ _
    · exact .refl session

theorem adds_cutWriter (ordinary : Ordinary allowed) (session : Session) :
    Adds allowed session session.cutWriter := by
  unfold cutWriter
  split
  · exact .refl session
  · have logged := session.adds_record (ordinary.logged (taskAborted session.ioTimeout))
    have noted := adds_noteAll ordinary
      ((session.record (.logged (taskAborted session.ioTimeout))).withHalted .aborted)
      (session.outbound.halt .aborted).1
    exact logged.trans noted

theorem adds_cutReader (ordinary : Ordinary allowed) (session : Session) :
    Adds allowed session session.cutReader := by
  unfold cutReader
  split
  · exact session.adds_record (ordinary.logged _)
  · exact .refl session

theorem adds_dischargeCloser (ordinary : Ordinary allowed) (session : Session) (closer : Closer) :
    Adds allowed session (session.dischargeCloser closer) :=
  (session.adds_record (ordinary.logged connectionClosed)).trans
    (adds_record _ (ordinary.closed closer.number session.closeResult))

theorem adds_loseCloser (ordinary : Ordinary allowed) (session : Session) (closer : Closer) :
    Adds allowed session (session.loseCloser closer) :=
  (session.adds_record (ordinary.logged (taskAborted session.ioTimeout))).trans
    (adds_record _ (ordinary.closerLost closer.number))

theorem adds_settleCloser (ordinary : Ordinary allowed) (session : Session) :
    Adds allowed session session.settleCloser := by
  unfold settleCloser
  split
  · exact .refl session
  · split
    · exact adds_dischargeCloser ordinary session _
    · split
      · split
        · exact adds_loseCloser ordinary session _
        · exact ((adds_cutWriter ordinary session).trans (adds_cutReader ordinary _)).trans
            (adds_dischargeCloser ordinary _ _)
      · exact .refl session

theorem adds_settleClosing (session : Session) : Adds allowed session session.settleClosing := by
  unfold settleClosing
  split
  · split <;> exact .refl session
  · exact .refl session

theorem adds_settle (ordinary : Ordinary allowed) (session : Session) :
    Adds allowed session session.settle := by
  have out : Adds allowed session session.settleOutbound :=
    adds_noteAll ordinary session.withSettled _
  have served := (out.trans (adds_settleReader _)).trans (adds_settleCalls ordinary _)
  have closed := (served.trans (adds_settleCloser ordinary _)).trans (adds_settleClosing _)
  exact closed.trans (adds_settleCloser ordinary _)

/-! ## Acting -/

theorem adds_startCall (ordinary : Ordinary allowed) (session : Session) (method : String)
    (params : Params) (terms : CallTerms)
    (entered : ∀ issue, session.issue? (.call method params terms) = some issue →
      Adds allowed session.withDrawn
        (session.withDrawn.enroll session.callCount issue.letter.request terms)) :
    Adds allowed session (session.startCall method params terms) := by
  cases issued : session.issue? (.call method params terms) with
  | some issue =>
      obtain ⟨news, same, fine⟩ := entered issue issued
      rw [startCall_of_issued issued]
      exact ⟨news, same, fine⟩
  | none =>
      obtain ⟨failure, fails⟩ := failsAtOnce_of_unissued issued
      rw [fails.startCall_eq]
      exact ⟨[_], rfl, List.forall_mem_singleton.mpr (ordinary.ended _ _)⟩

/-- Entering a call records nothing else than that its identifier is in use. -/
theorem adds_enroll (session : Session) (number : Nat) (request : Request) (terms : CallTerms)
    (fine : allowed (.drewTwice number request.id)) :
    Adds allowed session (session.enroll number request terms) := by
  unfold enroll
  split
  · exact ⟨[_], rfl, List.forall_mem_singleton.mpr fine⟩
  · exact .refl session

theorem adds_failReading (ordinary : Ordinary allowed) (session : Session) (line : LogLine) :
    Adds allowed session (session.failReading line) := by
  have logged := session.adds_record (ordinary.logged line)
  unfold failReading
  dsimp only
  split <;> exact logged

theorem adds_receive (ordinary : Ordinary allowed) (session : Session) (incoming : Incoming) :
    Adds allowed session (session.receive incoming) := by
  unfold receive
  split
  · exact .refl session
  · cases incoming with
    | control => exact .refl session
    | broken => exact adds_failReading ordinary session _
    | ended => exact session.adds_record (ordinary.logged _)
    | farewell => exact session.adds_record (ordinary.logged _)
    | data frame =>
        dsimp only
        split
        · exact adds_failReading ordinary session _
        · exact .refl session
        · exact .refl session

theorem adds_cancel (ordinary : Ordinary allowed) (session : Session) (token : Token) :
    Adds allowed session (session.cancel token) := by
  have noted : Adds allowed session { session with cancelled := token :: session.cancelled } :=
    .refl session
  unfold cancel
  dsimp only
  refine noted.trans (adds_foldl (fun session call => ?_) _ _)
  split
  · exact adds_finish ordinary session _ _
  · exact .refl session

theorem adds_close (ordinary : Ordinary allowed) (session : Session) :
    Adds allowed session session.close := by
  cases closed : session.isClosed with
  | true =>
      rw [close_of_closed closed]
      exact session.adds_record (ordinary.closed _ _)
  | false =>
      rw [close_eq closed]
      exact adds_settleCloser ordinary session.withCloser

/-- A step adds what is allowed if the call that it enters, if any, does. -/
theorem adds_act (ordinary : Ordinary allowed) (session : Session) (next : Step)
    (entered : ∀ method params terms issue, next = .call method params terms →
      session.issue? next = some issue →
      Adds allowed session.withDrawn
        (session.withDrawn.enroll session.callCount issue.letter.request terms)) :
    Adds allowed session (session.act next).2 := by
  cases next with
  | call method params terms =>
      refine adds_startCall ordinary session method params terms fun issue issued => ?_
      exact entered method params terms issue rfl issued
  | abandonCall number =>
      simp only [act, abandonCall]
      split <;> exact .refl session
  | cancel token => exact adds_cancel ordinary session token
  | receive incoming => exact adds_receive ordinary session incoming
  | resume =>
      have noted := adds_noteAll ordinary (session.withLine session.outbound.line.resume.2)
        (session.outbound.line.resume.1.map .arrived)
      exact noted
  | vanish =>
      have received :=
        adds_receive ordinary (session.withLine session.outbound.line.vanish) .broken
      exact received
  | openStream kind token =>
      simp only [act, openStream]
      split <;> exact .refl session
  | readStream stream =>
      simp only [act, readStream]
      split <;> exact .refl session
  | close => exact adds_close ordinary session
  | abandonClose number =>
      simp only [act, abandonClose]
      split
      · split <;> exact .refl session
      · exact .refl session
  | setCallTimeout | advance | pause | subscribe | unsubscribe | readMailbox | abandonMailbox
  | abandonStream | release | linger => exact .refl session

end Ordinary

/-! ## Steps -/

theorem extends_step (session : Session) (next : Step) :
    Extends session (session.step next).2 := by
  have ordinary : Occurrence.Ordinary fun _ => True :=
    ⟨fun _ => trivial, fun _ => trivial, fun _ _ => trivial, fun _ _ => trivial, fun _ => trivial⟩
  have acted := adds_act ordinary session next fun _ _ terms _ _ _ =>
    adds_enroll session.withDrawn _ _ terms trivial
  exact (acted.trans (adds_settle ordinary _)).extends

theorem history_step (session : Session) (next : Step) :
    (session.step next).2.history = session.history ++ (session.sight next).news :=
  List.prefix_iff_eq_append.mp (session.extends_step next) |>.symm

end Session

end ServerManagement
