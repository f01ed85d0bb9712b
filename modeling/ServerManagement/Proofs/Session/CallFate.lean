import ServerManagement.Proofs.Session.CallCourse

/-!
The result of a call is decided by what comes first: its token is cancelled, its caller goes, its
letter is in the queue and its response at hand, or its time is up. Nothing else ends a call whose
letter enters the queue.
-/

set_option autoImplicit false

namespace ServerManagement

/-- What becomes of a call. -/
inductive Fate where
  | ended (result : Except Failure Response)
  /-- Its caller goes without waiting for the result. -/
  | dropped

def Fate.result? : Fate → Option (Except Failure Response)
  | .ended result => some result
  | .dropped => none

/-- The fate of a call over the steps to come, by the first of them that decides it. A reply that
comes while the letter waits for room is kept until the letter is admitted. -/
def Issue.fate (issue : Issue) (session : Session) (isQueued : Bool) (reply : Option Response) :
    List Session.Step → Option Fate
  | [] => none
  | next :: steps =>
    let later := (session.step next).2
    let isQueued := isQueued || (session.admits next).contains issue.number
    let reply := reply.or (session.reply? issue.id next)
    if next.cancels issue.token then some (.ended (.error (.cancelled issue.method)))
    else if next.abandons issue.number then some .dropped
    else
      match isQueued, reply with
      | true, some response => some (.ended (.ok response))
      | _, _ =>
        if issue.deadline ≤ later.now then
          some (.ended (.error (.timeout issue.method issue.limit)))
        else issue.fate later isQueued reply steps

namespace Session

variable {session : Session} {next : Step} {steps : List Step} {issue : Issue} {ticket : Nat}
  {isQueued : Bool} {reply : Option Response}

/-- The results over all steps, from what the first makes of the call and what follows if it goes
on. -/
theorem outcomes_of_course (sound : session.Sound)
    (few : (session.run (next :: steps)).callCount < 2 ^ 64)
    (old : issue.number < (session.step next).2.callCount)
    (course : Course (issue.call ticket) isQueued reply session next (session.step next).2)
    (queues : isQueued = true ∨ issue.number ∈ session.admissions (next :: steps))
    (onwards : ∀ isQueued reply, Stands (issue.call ticket) isQueued reply (session.step next).2 →
      isQueued = true ∨ issue.number ∈ (session.step next).2.admissions steps →
      ((session.step next).2.run steps).outcomes issue.number =
        ((issue.fate (session.step next).2 isQueued reply steps).bind Fate.result?).toList) :
    (session.run (next :: steps)).outcomes issue.number =
      ((issue.fate session isQueued reply (next :: steps)).bind Fate.result?).toList := by
  have later := sound.step (Nat.lt_of_le_of_lt (callCount_run_le _ steps) few)
  have queued : (isQueued || (session.admits next).contains issue.number) = true ∨
      issue.number ∈ (session.step next).2.admissions steps := by
    rcases queues with queued | admitted
    · exact .inl (Bool.or_eq_true_iff.mpr (.inl queued))
    · rcases List.mem_append.mp admitted with now | rest
      · exact .inl (Bool.or_eq_true_iff.mpr (.inr (List.contains_iff_mem.mpr now)))
      · exact .inr rest
  unfold Issue.fate
  dsimp only
  cases course with
  | cancelled cancels gone =>
      rw [show next.cancels issue.token = true from cancels]
      exact (gone.run later few old).outcomes
  | abandoned abandons gone =>
      have uncancelled : next.cancels issue.token = false := by
        cases next <;> first | rfl | cases abandons
      rw [uncancelled, show next.abandons issue.number = true from abandons]
      exact (gone.run later few old).outcomes
  | turned uncancelled unabandoned waits result away gone =>
      -- A call that is turned away is never admitted, against what is given.
      have never := gone.not_mem_admissions later few old
      rcases queued with queued | admitted
      · rw [show (isQueued || (session.admits next).contains issue.number) = false from waits]
          at queued
        cases queued
      · exact absurd admitted never
  | answered uncancelled unabandoned queued response replied gone =>
      rw [show next.cancels issue.token = false from uncancelled,
        show next.abandons issue.number = false from unabandoned,
        show (isQueued || (session.admits next).contains issue.number) = true from queued,
        show reply.or (session.reply? issue.id next) = some response from replied]
      exact (gone.run later few old).outcomes
  | late uncancelled unabandoned queued unreplied late gone =>
      rw [show next.cancels issue.token = false from uncancelled,
        show next.abandons issue.number = false from unabandoned,
        show (isQueued || (session.admits next).contains issue.number) = true from queued,
        show reply.or (session.reply? issue.id next) = none from unreplied]
      have passed : issue.deadline ≤ (session.step next).2.now := late
      simp only [Bool.false_eq_true, if_false, if_pos passed]
      exact (gone.run later few old).outcomes
  | stands uncancelled unabandoned early patient stands =>
      rw [show next.cancels issue.token = false from uncancelled,
        show next.abandons issue.number = false from unabandoned]
      have waits : ¬issue.deadline ≤ (session.step next).2.now := Nat.not_le_of_lt early
      refine (onwards _ _ stands queued).trans ?_
      simp only [Bool.false_eq_true, if_false, if_neg waits]
      split
      · rename_i queuedNow replied
        exact absurd (replied.symm.trans (patient queuedNow)) nofun
      · rfl

theorem outcomes_of_stands (sound : session.Sound)
    (few : (session.run steps).callCount < 2 ^ 64)
    (stands : Stands (issue.call ticket) isQueued reply session)
    (queues : isQueued = true ∨ issue.number ∈ session.admissions steps) :
    (session.run steps).outcomes issue.number =
      ((issue.fate session isQueued reply steps).bind Fate.result?).toList := by
  induction steps generalizing session isQueued reply with
  | nil => exact stands.outcomes
  | cons next steps ih =>
      have early := Nat.lt_of_le_of_lt (callCount_run_le _ steps) few
      have old := sound.accounts.counted _ stands.mem
      refine outcomes_of_course sound few (lt_callCount_step next old)
        (stands.step sound early) queues ?_
      intro isQueued reply stands queues
      exact ih (sound.step early) few stands queues

/-- A call whose letter enters the queue has no result but the one that its fate gives it. -/
theorem outcomes_eq_fate (settings : Settings) (lineCapacity : Nat) (loggerPanics : Bool)
    (before : List Step) (next : Step) (after : List Step) (issue : Issue)
    (few : ((create settings lineCapacity loggerPanics).run
      (before ++ next :: after)).callCount < 2 ^ 64)
    (issued : ((create settings lineCapacity loggerPanics).run before).issue? next = some issue)
    (queues : issue.number ∈
      ((create settings lineCapacity loggerPanics).run before).admissions (next :: after)) :
    ((create settings lineCapacity loggerPanics).run (before ++ next :: after)).outcomes
        issue.number =
      ((issue.fate ((create settings lineCapacity loggerPanics).run before) false none
        (next :: after)).bind Fate.result?).toList := by
  rw [run_append] at few ⊢
  have started := Nat.lt_of_le_of_lt (callCount_run_le _ (next :: after)) few
  have sound := (Sound.create settings lineCapacity loggerPanics).run started
  generalize (create settings lineCapacity loggerPanics).run before = session at *
  have early := Nat.lt_of_le_of_lt (callCount_run_le _ after) few
  refine outcomes_of_course sound few (number_lt_step issued) (course_of_issue sound early issued)
    (.inr queues) ?_
  intro isQueued reply stands queues
  exact outcomes_of_stands (sound.step early) few stands queues

/-- The third call waits for room when its response comes, and gets it once its letter is
admitted. -/
theorem outcomes_eq_fate_of_early_response :
    let session := (create ⟨50, 10, 1, 8⟩ 0 false).run
      [.pause, .call "a" .none .standard, .call "b" .none .standard]
    let response := Json.bytesOf r#"{"id":3,"result":true}"#
    let after : List Step := [.receive (.data response), .resume, .advance 60]
    (session.run (.call "c" .none .standard :: after)).callCount < 2 ^ 64 ∧
      session.issue? (.call "c" .none .standard) = some ⟨⟨2, ⟨3, "c", none⟩⟩, 50, 50, none⟩ ∧
      2 ∈ session.admissions (.call "c" .none .standard :: after) ∧
      ((session.run (.call "c" .none .standard :: after)).outcomes 2).map Except.toOption =
        [some ⟨some 3, "", none, some (.bool true), none⟩] := by
  refine ⟨by decide +kernel, by decide +kernel, by decide +kernel, ?_⟩
  refine (congrArg (List.map Except.toOption) (outcomes_eq_fate ⟨50, 10, 1, 8⟩ 0 false
    [.pause, .call "a" .none .standard, .call "b" .none .standard] (.call "c" .none .standard)
    [.receive (.data (Json.bytesOf r#"{"id":3,"result":true}"#)), .resume, .advance 60]
    ⟨⟨2, ⟨3, "c", none⟩⟩, 50, 50, none⟩ (by decide +kernel) (by decide +kernel)
    (by decide +kernel))).trans ?_
  decide +kernel

end Session

end ServerManagement
