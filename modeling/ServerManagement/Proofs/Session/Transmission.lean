import ServerManagement.Proofs.Session.LetterSteps
import ServerManagement.Proofs.Session.PendingTable

/-!
The letters that the writer puts on the line, over whole runs: each is the letter of a call, written
once and in the order of the calls, and while letters are served all that entered the queue are
written.
-/

set_option autoImplicit false

namespace ServerManagement

namespace Session

def puts (session : Session) (next : Step) : List Letter :=
  let acted := (session.act next).2
  acted.outbound.puts acted.writeTerms

/-- The letters that the writer puts on the line, in order. -/
def transmissions (session : Session) : List Step → List Letter :=
  session.along fun session next _ => session.puts next

structure Flowing (session : Session) : Prop where
  orderly : session.outbound.Orderly
  governed : session.Governed

variable {session : Session} {next : Step} {steps : List Step} {issue : Issue}

theorem Flowing.create (settings : Settings) (lineCapacity : Nat) (loggerPanics : Bool) :
    (create settings lineCapacity loggerPanics).Flowing where
  orderly := fun _ => rfl
  governed := ⟨fun waits => absurd rfl waits, fun _ => ⟨rfl, .inl rfl⟩⟩

theorem Flowing.act (flowing : session.Flowing) (next : Step) : (session.act next).2.Flowing :=
  have carries := session.carries_act next
  ⟨carries.orderly flowing.orderly, carries.governed flowing.governed⟩

theorem Flowing.step (flowing : session.Flowing) (next : Step) : (session.step next).2.Flowing :=
  have acted := flowing.act next
  ⟨settle_orderly acted.orderly acted.governed, settle_governed acted.orderly acted.governed⟩

theorem Flowing.run (flowing : session.Flowing) (steps : List Step) :
    (session.run steps).Flowing :=
  run_invariant (fun _ next flowing => flowing.step next) flowing steps

/-! ## One step -/

theorem step_unwritten (flowing : session.Flowing) (next : Step) :
    (session.puts next ++ (session.step next).2.outbound.unwritten).Sublist
      (session.outbound.unwritten ++ (session.issue? next).toList.map Issue.letter) := by
  have acted := flowing.act next
  exact (settle_puts acted.orderly acted.governed).1.trans (session.carries_act next).unwritten

theorem step_passed (flowing : session.Flowing) (next : Step) :
    ((session.step next).2.delivered ++ (session.step next).2.outbound.line.letters).Sublist
      (session.delivered ++ session.outbound.line.letters ++ session.puts next) := by
  have acted := flowing.act next
  have same := (settle_puts acted.orderly acted.governed).2
  rw [step_eq_settle, same, ← List.append_assoc]
  exact (session.carries_act next).passed.append_right _

theorem step_serves (flowing : session.Flowing) (next : Step)
    (serving : (session.step next).2.outbound.Serving) :
    session.outbound.Serving ∧
      (session.puts next ++ ((session.step next).2.outbound.writer.letters ++
        (session.step next).2.outbound.queue)).map Letter.call =
        (session.outbound.writer.letters ++ session.outbound.queue).map Letter.call ++
          session.admits next := by
  have acted := flowing.act next
  have carries := session.carries_act next
  have before := (serving_of_settle acted.orderly acted.governed serving).2
  obtain ⟨writer, queue⟩ := carries.writer flowing.governed before
  have served := settle_serves acted.orderly acted.governed serving
  rw [writer, queue] at served
  exact ⟨carries.serving before, served⟩

/-! ## Runs -/

theorem run_unwritten (flowing : session.Flowing) (steps : List Step) :
    (session.transmissions steps ++ (session.run steps).outbound.unwritten).Sublist
      (session.outbound.unwritten ++ (session.issues steps).map Issue.letter) := by
  induction steps generalizing session with
  | nil => simp [transmissions, issues, along]
  | cons next steps ih =>
      have rest := ih (flowing.step next)
      have first := step_unwritten flowing next
      simp only [transmissions, issues, along, List.map_append, run_cons] at rest ⊢
      rw [List.append_assoc, ← List.append_assoc _ _ (List.map Issue.letter (along _ _ _))]
      refine (rest.append_left _).trans ?_
      rw [← List.append_assoc]
      exact first.append_right _

theorem run_passed (flowing : session.Flowing) (steps : List Step) :
    ((session.run steps).delivered ++ (session.run steps).outbound.line.letters).Sublist
      (session.delivered ++ session.outbound.line.letters ++ session.transmissions steps) := by
  induction steps generalizing session with
  | nil => simp [transmissions, along]
  | cons next steps ih =>
      refine (ih (flowing.step next)).trans ?_
      have first := step_passed flowing next
      simp only [transmissions, along]
      rw [← List.append_assoc]
      exact first.append_right _

theorem run_serves (flowing : session.Flowing) (steps : List Step)
    (serving : (session.run steps).outbound.Serving) :
    session.outbound.Serving ∧
      (session.transmissions steps ++ ((session.run steps).outbound.writer.letters ++
        (session.run steps).outbound.queue)).map Letter.call =
        (session.outbound.writer.letters ++ session.outbound.queue).map Letter.call ++
          session.admissions steps := by
  induction steps generalizing session with
  | nil => exact ⟨serving, by simp [transmissions, admissions, along]⟩
  | cons next steps ih =>
      -- Service is known of the end only, so it is led back from there one step at a time.
      obtain ⟨middle, rest⟩ := ih (flowing.step next) serving
      obtain ⟨before, first⟩ := step_serves flowing next middle
      refine ⟨before, ?_⟩
      simp only [transmissions, admissions, along, run_cons] at rest ⊢
      rw [List.append_assoc, List.map_append, rest, ← List.append_assoc, ← List.map_append, first,
        List.append_assoc]

def Rested (session : Session) : Prop :=
  session.outbound.Serving → session.outbound.line.peer = .reading →
    session.outbound.writer.letters ++ session.outbound.queue = []

theorem run_rested (flowing : session.Flowing) (rested : session.Rested) (steps : List Step) :
    (session.run steps).Rested := by
  have preserved : ∀ session next, Flowing session ∧ Rested session →
      (session.step next).2.Flowing ∧ (session.step next).2.Rested := by
    rintro session next ⟨flowing, _⟩
    have acted := flowing.act next
    exact ⟨flowing.step next, settle_empties acted.orderly acted.governed⟩
  exact (run_invariant preserved ⟨flowing, rested⟩ steps).2

/-- Calls are numbered in the order in which they are issued. -/
theorem issues_numbered (session : Session) (steps : List Step) :
    (∀ issue ∈ session.issues steps, session.callCount ≤ issue.number) ∧
      (session.issues steps).Pairwise fun issue other => issue.number < other.number := by
  induction steps generalizing session with
  | nil => exact ⟨nofun, .nil⟩
  | cons next steps ih =>
      obtain ⟨later, ascending⟩ := ih (session.step next).2
      have rest : ∀ issue ∈ (session.step next).2.issues steps, session.callCount ≤ issue.number :=
        fun issue member =>
          Nat.le_trans (session.callCount_run_le [next]) (later issue member)
      simp only [issues, along]
      cases issued : session.issue? next with
      | none => exact ⟨rest, ascending⟩
      | some first =>
          have number := (number_of_issue? issued).1
          constructor
          · intro issue member
            rcases List.mem_cons.mp member with rfl | member
            · exact Nat.le_of_eq number.symm
            · exact rest issue member
          · refine List.pairwise_cons.mpr ⟨?_, ascending⟩
            intro issue member
            exact Nat.lt_of_lt_of_le (number_lt_step issued) (later issue member)

/-- The letter of a call is made of the identifier drawn for it and of what it asks for. -/
theorem request_of_mem_issues (member : issue ∈ session.issues steps) :
    ∃ before method params terms after, steps = before ++ .call method params terms :: after ∧
      issue.letter.call = (session.run before).callCount ∧
      Request.create (session.run before).correlator.nextId.1 method params =
        .ok issue.letter.request := by
  obtain ⟨before, next, after, rfl, observed⟩ := mem_along_iff.mp member
  have issued : (session.run before).issue? next = some issue := Option.mem_toList.mp observed
  cases next with
  | call method params terms =>
      exact ⟨before, method, params, terms, after, rfl, (number_of_issue? issued).1,
        (issue?_eq_some issued).2.2.1⟩
  | _ => cases issued

/-- What the writer puts on the line, and so what reaches the peer, are letters of calls in the
order of the calls, none twice; while letters are served to a peer that reads, all that entered the
queue are written. -/
theorem transmissions_in_order (settings : Settings) (lineCapacity : Nat) (loggerPanics : Bool)
    (steps : List Step) :
    let start := create settings lineCapacity loggerPanics
    let session := start.run steps
    (start.transmissions steps).Sublist ((start.issues steps).map Issue.letter) ∧
      (∀ issue ∈ start.issues steps, ∃ before method params terms after,
        steps = before ++ .call method params terms :: after ∧
        issue.letter.call = (start.run before).callCount ∧
        Request.create (start.run before).correlator.nextId.1 method params =
          .ok issue.letter.request) ∧
      ((start.transmissions steps).Pairwise fun letter other => letter.call < other.call) ∧
      (session.callCount < 2 ^ 64 →
        (start.transmissions steps).Pairwise fun letter other =>
          letter.request.id < other.request.id) ∧
      (session.delivered ++ session.outbound.line.letters).Sublist (start.transmissions steps) ∧
      (session.outbound.Serving → session.outbound.line.peer = .reading →
        (start.transmissions steps).map Letter.call = start.admissions steps) := by
  intro start session
  have flowing : start.Flowing := .create settings lineCapacity loggerPanics
  have issued : (start.transmissions steps).Sublist ((start.issues steps).map Issue.letter) :=
    (List.sublist_append_left _ _).trans (run_unwritten flowing steps)
  refine ⟨issued, fun _ => request_of_mem_issues, ?_, ?_, run_passed flowing steps, ?_⟩
  · have numbered : ((start.issues steps).map Issue.letter).Pairwise fun letter other =>
        letter.call < other.call :=
      List.pairwise_map.mpr (start.issues_numbered steps).2
    exact numbered.sublist issued
  · intro few
    have identified : ((start.issues steps).map Issue.letter).Pairwise fun letter other =>
        letter.request.id < other.request.id :=
      List.pairwise_map.mpr (issues_ascending (.create settings lineCapacity loggerPanics) few)
    exact identified.sublist issued
  · intro serving reads
    have served := (run_serves flowing steps serving).2
    rw [run_rested flowing (fun _ _ => rfl) steps serving reads, List.append_nil] at served
    exact served

/-- The third of four letters is withdrawn while it waits for room; the first is written although
its call is left. -/
theorem transmissions_in_order_of_four :
    let steps : List Step := [.pause, .call "a" .none .standard, .call "b" .none .standard,
      .call "c" .none .standard, .abandonCall 0, .abandonCall 2, .call "d" .none .standard, .resume]
    let start := create ⟨50, 10, 1, 8⟩ 0 false
    (start.run steps).callCount < 2 ^ 64 ∧ (start.run steps).outbound.Serving ∧
      (start.run steps).outbound.line.peer = .reading ∧
      (start.transmissions steps).map Letter.call = [0, 1, 3] ∧
      (start.transmissions steps).Pairwise fun letter other =>
        letter.request.id < other.request.id := by
  intro steps start
  have few : (start.run steps).callCount < 2 ^ 64 := by decide +kernel
  have serving : (start.run steps).outbound.Serving :=
    ⟨by decide +kernel, by decide +kernel, by decide +kernel⟩
  have reads : (start.run steps).outbound.line.peer = .reading := by decide +kernel
  obtain ⟨_, _, _, identified, _, written⟩ := transmissions_in_order ⟨50, 10, 1, 8⟩ 0 false steps
  refine ⟨few, serving, reads, (written serving reads).trans ?_, identified few⟩
  decide +kernel

end Session

end ServerManagement
