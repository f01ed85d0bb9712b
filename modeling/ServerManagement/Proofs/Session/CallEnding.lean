import ServerManagement.Proofs.Session.CallCourse

/-!
What becomes of a call over many steps: it is still in progress, or one of the steps has ended it.
-/

set_option autoImplicit false

namespace ServerManagement

namespace Session

/-- The call is given up: its token is cancelled, or its caller goes. -/
def Step.givesUp (call : Call) (next : Step) : Bool :=
  next.cancels call.token || next.abandons call.number

inductive Ending (call : Call) (isQueued : Bool) (reply : Option Response) (session : Session)
    (steps : List Step) : Prop
  | stays (kept : ∀ next ∈ steps, Step.givesUp call next = false)
      (stands : Stands call (isQueued || (session.admissions steps).contains call.number)
        (reply.or ((session.heard steps).find? fun response => response.id == some call.id))
        (session.run steps))
  | cancelled (cancels : ∃ next ∈ steps, Step.cancels call.token next = true)
      (gone : Gone call.number [.error (.cancelled call.method)] (session.run steps))
  | abandoned (abandons : ∃ next ∈ steps, Step.abandons call.number next = true)
      (gone : Gone call.number [] (session.run steps))
  | answered (response : Response)
      (queued : (isQueued || (session.admissions steps).contains call.number) = true)
      (replied : reply.or ((session.heard steps).find? fun response =>
        response.id == some call.id) = some response)
      (gone : Gone call.number [.ok response] (session.run steps))
  | late (late : call.deadline ≤ (session.run steps).now)
      (gone : Gone call.number [.error (.timeout call.method call.limit)] (session.run steps))
  | turned (waits : isQueued = false) (never : call.number ∉ session.admissions steps)
      (gone : Gone call.number [.error .queueClosed] (session.run steps))

variable {session : Session} {next : Step} {steps : List Step} {call : Call} {issue : Issue}
  {isQueued : Bool} {reply : Option Response}

theorem find?_heard (session : Session) (next : Step) (steps : List Step) (id : UInt64) :
    (session.heard (next :: steps)).find? (fun response => response.id == some id) =
      (session.reply? id next).or
        (((session.step next).2.heard steps).find? fun response => response.id == some id) := by
  simp only [heard, along, List.find?_append]
  congr 1
  unfold reply?
  cases session.heard? next with
  | none => rfl
  | some response =>
      cases meant : response.id == some id <;> simp [Option.filter, meant]

theorem contains_admissions (session : Session) (next : Step) (steps : List Step) (number : Nat) :
    (session.admissions (next :: steps)).contains number =
      ((session.admits next).contains number ||
        ((session.step next).2.admissions steps).contains number) :=
  List.contains_append

theorem not_mem_admissions_cons {number : Nat}
    (unadmitted : (session.admits next).contains number = false)
    (never : number ∉ (session.step next).2.admissions steps) :
    number ∉ session.admissions (next :: steps) := by
  intro admitted
  rcases List.mem_append.mp admitted with now | rest
  · rw [List.contains_iff_mem.mpr now] at unadmitted
    cases unadmitted
  · exact never rest

theorem Ending.cons (kept : Step.givesUp call next = false)
    (ending : Ending call (isQueued || (session.admits next).contains call.number)
      (reply.or (session.reply? call.id next)) (session.step next).2 steps) :
    Ending call isQueued reply session (next :: steps) := by
  cases ending with
  | stays rest stands =>
      refine .stays (List.forall_mem_cons.mpr ⟨kept, rest⟩) ?_
      rw [contains_admissions, find?_heard, ← Bool.or_assoc, ← Option.or_assoc]
      exact stands
  | cancelled cancels gone =>
      obtain ⟨other, member, cancels⟩ := cancels
      exact .cancelled ⟨other, List.mem_cons_of_mem _ member, cancels⟩ gone
  | abandoned abandons gone =>
      obtain ⟨other, member, abandons⟩ := abandons
      exact .abandoned ⟨other, List.mem_cons_of_mem _ member, abandons⟩ gone
  | answered response queued replied gone =>
      refine .answered response ?_ ?_ gone
      · rw [contains_admissions, ← Bool.or_assoc]
        exact queued
      · rw [find?_heard, ← Option.or_assoc]
        exact replied
  | late late gone => exact .late late gone
  | turned waits never gone =>
      obtain ⟨unqueued, unadmitted⟩ := Bool.or_eq_false_iff.mp waits
      exact .turned unqueued (not_mem_admissions_cons unadmitted never) gone

/-- From what the first step makes of a call, and what becomes of it if it goes on. -/
theorem Course.ending (sound : session.Sound)
    (few : (session.run (next :: steps)).callCount < 2 ^ 64)
    (old : call.number < (session.step next).2.callCount)
    (course : Course call isQueued reply session next (session.step next).2)
    (onwards : ∀ isQueued reply, Stands call isQueued reply (session.step next).2 →
      Ending call isQueued reply (session.step next).2 steps) :
    Ending call isQueued reply session (next :: steps) := by
  have later := sound.step (Nat.lt_of_le_of_lt (callCount_run_le _ steps) few)
  have away : ∀ results, Gone call.number results (session.step next).2 →
      Gone call.number results ((session.step next).2.run steps) :=
    fun _ gone => gone.run later few old
  have passes := (session.step next).2.now_run_le steps
  cases course with
  | cancelled cancels gone =>
      exact .cancelled ⟨next, List.mem_cons_self .., cancels⟩ (away _ gone)
  | abandoned abandons gone =>
      exact .abandoned ⟨next, List.mem_cons_self .., abandons⟩ (away _ gone)
  | turned uncancelled unabandoned waits result turned gone =>
      cases turned with
      | late late => exact .late (Nat.le_trans late passes) (away _ gone)
      | closed =>
          obtain ⟨unqueued, unadmitted⟩ := Bool.or_eq_false_iff.mp waits
          have never := gone.not_mem_admissions later few old
          exact .turned unqueued (not_mem_admissions_cons unadmitted never) (away _ gone)
  | answered uncancelled unabandoned queued response replied gone =>
      refine .answered response ?_ ?_ (away _ gone)
      · rw [contains_admissions, ← Bool.or_assoc, queued, Bool.true_or]
      · rw [find?_heard, ← Option.or_assoc, replied]
        rfl
  | late uncancelled unabandoned queued unreplied late gone =>
      exact .late (Nat.le_trans late passes) (away _ gone)
  | stands uncancelled unabandoned early patient stands =>
      have kept : Step.givesUp call next = false := by
        simp [Step.givesUp, uncancelled, unabandoned]
      exact .cons kept (onwards _ _ stands)

theorem Stands.ending (sound : session.Sound) (few : (session.run steps).callCount < 2 ^ 64)
    (stands : Stands call isQueued reply session) : Ending call isQueued reply session steps := by
  induction steps generalizing session isQueued reply with
  | nil => exact .stays nofun (by simpa [heard, admissions, along] using stands)
  | cons next steps ih =>
      have early := Nat.lt_of_le_of_lt (callCount_run_le _ steps) few
      have old := lt_callCount_step next (sound.accounts.counted call stands.mem)
      refine (stands.step sound early).ending sound few old ?_
      intro isQueued reply stands
      exact ih (sound.step early) few stands

theorem ending_of_issue {after : List Step} (sound : session.Sound)
    (few : (session.run (next :: after)).callCount < 2 ^ 64)
    (issued : session.issue? next = some issue) :
    Ending (issue.call session.correlator.slots.length) false none session (next :: after) := by
  have early := Nat.lt_of_le_of_lt (callCount_run_le _ after) few
  refine (course_of_issue sound early issued).ending sound few (number_lt_step issued) ?_
  intro isQueued reply stands
  exact stands.ending (sound.step early) few

end Session

end ServerManagement
