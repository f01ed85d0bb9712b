import ServerManagement.Proofs.Session.CallEnding
import ServerManagement.Proofs.Session.CloserCourse
import ServerManagement.Proofs.Session.DrainSteps
import ServerManagement.Proofs.Session.History
import ServerManagement.Proofs.Session.Replies

/-!
The first time that a connection is closed. Whoever closes it is told in time that it is closed,
those who wait for room in the queue are turned away or get in before it is closed, and what is in
the queue is sent before the closing frame, if the peer reads in time.
-/

set_option autoImplicit false

namespace ServerManagement

namespace Session

structure Standing (session : Session) : Prop where
  sound : session.Sound
  still : session.Still
  flowing : session.Flowing
  regular : ∃ capacity, session.outbound.Regular capacity
  calm : session.Calm
  closing : session.Closing
  opened : session.isClosed = false
  runs : session.outbound.isStopping = false
  untold : ∀ number, session.closings number = []

variable {session later : Session} {call : Call} {steps after : List Step}

/-- Letters that are told apart by their calls are found again by their calls. -/
theorem filter_of_sublist {late waiting : List Letter} (within : late.Sublist waiting)
    (apart : (waiting.map Letter.call).Nodup) :
    (waiting.filter fun letter => (late.map Letter.call).contains letter.call) = late := by
  induction within with
  | slnil => rfl
  | @cons late waiting letter within ih =>
      obtain ⟨other, apart⟩ := List.nodup_cons.mp apart
      have absent : letter.call ∉ late.map Letter.call :=
        fun member => other ((within.map _).subset member)
      rw [List.filter_cons_of_neg (by simpa using absent), ih apart]
  | @cons_cons late waiting letter within ih =>
      obtain ⟨other, apart⟩ := List.nodup_cons.mp apart
      have same : ∀ follower ∈ waiting, ((letter :: late).map Letter.call).contains follower.call =
          (late.map Letter.call).contains follower.call := by
        intro follower member
        have differs : follower.call ≠ letter.call :=
          fun same => other (same ▸ List.mem_map_of_mem member)
        simp [differs]
      rw [List.filter_cons_of_pos (by simp), List.filter_congr same, ih apart]

/-- The time at which the tasks of a connection that is closed now are cut off. -/
def limit (session : Session) : Nat := session.now + session.ioTimeout

/-- The letters that wait for room and get into the queue in the course of the steps. -/
def latecomers (session : Session) (steps : List Step) : List Letter :=
  session.outbound.waiting.filter fun letter => (session.admissions steps).contains letter.call

namespace Standing

variable {number : Nat} {stays : Prop} {during : List Step}

/-! ### Sending -/

theorem working (standing : session.Standing) (healthy : session.outbound.Healthy) :
    session.outbound.Working :=
  standing.flowing.governed.working ⟨standing.runs, healthy.present, healthy.unclosed⟩

theorem winding (standing : session.Standing) : session.withCloser.Winding session.limit := by
  obtain ⟨capacity, regular⟩ := standing.regular
  refine ⟨rfl, ?_, ?_, Nat.le_refl _⟩
  · refine ⟨rfl, standing.flowing.orderly, fun _ _ closing => regular.closing closing,
      fun healthy _ _ closing => ?_⟩
    have working := standing.working ⟨healthy.present, healthy.unclosed⟩
    exact absurd closing working.not_closing
  · intro closer waits
    exact Nat.le_of_eq (congrArg Closer.deadline (Option.some.inj waits))

theorem drains (standing : session.Standing) (steps : List Step) :
    Drains session.limit (session.latecomers (.close :: steps)) session.withCloser
      (session.run (.close :: steps)) := by
  have served := drains_settleCloser standing.winding
  have acted : (session.act .close).2 = session.withCloser.settleCloser :=
    close_eq standing.opened
  rw [← acted] at served
  obtain ⟨late, admitted, settled⟩ := drains_settle served.winding
  obtain ⟨more, others, rest⟩ := drains_run settled.winding steps
  have drains := served.trans (settled.trans rest)
  have numbers : (late ++ more).map Letter.call = session.admissions (.close :: steps) := by
    rw [List.map_append, admitted, others]
    rfl
  -- Who gets in is among those who waited, and is told apart by the call.
  have within : (late ++ more).Sublist session.outbound.waiting :=
    (List.sublist_append_left _ _).trans drains.enters.waiting
  have found := filter_of_sublist within standing.sound.apart
  rw [numbers] at found
  rw [latecomers, found]
  exact drains

theorem shut (standing : session.Standing)
    (remains : stays → ∀ next ∈ after, next ≠ .abandonClose session.closerCount) :
    Shut session.closerCount session.limit stays (session.run (.close :: after)) := by
  have waits : Shut session.closerCount session.limit stays session.withCloser :=
    ⟨⟨standing.calm.logger, standing.calm.writer, standing.calm.reader⟩, rfl, Nat.lt_succ_self _,
      .waits rfl (standing.untold _)⟩
  have closed : (session.step .close).2 = session.withCloser.settleCloser.settle :=
    congrArg settle (close_eq standing.opened)
  rw [run_cons, closed]
  exact waits.settleCloser.settle.run remains

end Standing

end Session

end ServerManagement
