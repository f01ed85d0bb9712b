import ServerManagement.Proofs.Session.AdmittedLetters
import ServerManagement.Proofs.Session.Replies

/-!
Calls that fail before their letters have entered the queue. Nothing of them is ever sent, and one
that fails at once leaves the session as it was, but for the identifier that it used up.
-/

set_option autoImplicit false

namespace ServerManagement

namespace Session

/-- The identifier that is drawn for a call, by its number. -/
def Draws (start : Session) (steps : List Step) (number : Nat) (id : UInt64) : Prop :=
  ∃ before next after, steps = before ++ next :: after ∧
    (start.run before).callCount = number ∧ (start.run before).draw? next = some id

/-- The ways in which a call ends before its letter has entered the queue. -/
inductive EndsUnsent (start : Session) (steps : List Step) (number : Nat) : Prop
  | unencodable (reason : String)
      (ended : .error (.encode reason) ∈ (start.run steps).outcomes number)
  | refused (ended : .error .queueClosed ∈ (start.run steps).outcomes number)
  /-- The token was cancelled before the call was made. -/
  | stillborn (before : List Step) (method : String) (params : Params) (terms : CallTerms)
      (after : List Step) (token : Token)
      (split : steps = before ++ .call method params terms :: after)
      (own : (start.run before).callCount = number) (wanted : terms.token = some token)
      (cancelled : (start.run before).isCancelled token = true)
  | cancelled (before : List Step) (token : Token) (after : List Step) (call : Call)
      (split : steps = before ++ .cancel token :: after)
      (member : call ∈ (start.run before).calls) (own : call.number = number)
      (wanted : call.token = some token)
      (waits : (start.run before).outbound.isWaiting number = true)
  | abandoned (before : List Step) (after : List Step)
      (split : steps = before ++ .abandonCall number :: after)
      (waits : (start.run before).outbound.isWaiting number = true)
  /-- The time is up in a step, perhaps in the one that starts the call, and the letter has not
  entered the queue by then. -/
  | late (before : List Step) (next : Step) (after : List Step) (method : String) (limit : Nat)
      (split : steps = before ++ next :: after)
      (ended : .error (.timeout method limit) ∈ (start.run (before ++ [next])).outcomes number)
      (waits : number ∉ start.admissions (before ++ [next]))

variable {session start : Session} {next : Step} {steps before after : List Step} {number : Nat}
  {method : String} {params : Params} {terms : CallTerms} {failure : Failure}

/-! ## Admissions -/

theorem not_mem_admissions_of_unmade (sound : session.Sound)
    (few : (session.run steps).callCount < 2 ^ 64)
    (unmade : (session.run steps).callCount ≤ number) : number ∉ session.admissions steps := by
  induction steps generalizing session with
  | nil => exact List.not_mem_nil
  | cons next steps ih =>
      have early := Nat.lt_of_le_of_lt (callCount_run_le _ steps) few
      have acted := sound.act early
      have counted : (session.act next).2.callCount ≤ number := by
        rw [← callCount_step]
        exact Nat.le_trans (callCount_run_le _ steps) unmade
      have absent : (session.act next).2.Absent number := fun call member same =>
        absurd (acted.accounts.counted call member) (Nat.not_lt.mpr (same ▸ counted))
      exact not_mem_admissions_cons
        (Bool.eq_false_iff.mpr fun admitted =>
          acted.unadmitted absent (List.contains_iff_mem.mp admitted))
        (ih (sound.step early) few unmade)

structure Missed (start : Session) (number : Nat) (steps : List Step) : Prop where
  made : number < (start.run steps).callCount
  absent : (start.run steps).Absent number
  unadmitted : number ∉ start.admissions steps

theorem Missed.never (missed : Missed start number before) (sound : start.Sound)
    (few : (start.run (before ++ after)).callCount < 2 ^ 64) :
    number ∉ start.admissions (before ++ after) := by
  rw [run_append] at few
  have early := Nat.lt_of_le_of_lt (callCount_run_le _ after) few
  have gone : Gone number _ (start.run before) := ⟨missed.absent, rfl⟩
  rw [admissions_append]
  intro admitted
  rcases List.mem_append.mp admitted with past | future
  · exact missed.unadmitted past
  · exact gone.not_mem_admissions (sound.run early) few missed.made future

/-! ## What ends before the queue -/

theorem Missed.of_act (sound : start.Sound)
    (few : ((start.run before).step next).2.callCount < 2 ^ 64)
    (made : number < ((start.run before).step next).2.callCount)
    (past : number ∉ start.admissions before)
    (absent : ((start.run before).act next).2.Absent number) :
    Missed start number (before ++ [next]) := by
  have early := Nat.lt_of_le_of_lt ((start.run before).callCount_run_le [next]) few
  have acted := (sound.run early).act few
  have gone : Gone number _ ((start.run before).act next).2 := ⟨absent, rfl⟩
  rw [← run_snoc] at made
  refine ⟨made, ?_, ?_⟩
  · rw [run_snoc]
    exact (gone.settle acted).absent
  · rw [admissions_append]
    intro admitted
    rcases List.mem_append.mp admitted with earlier | now
    · exact past earlier
    · exact acted.unadmitted absent (by simpa [admissions, along, admits] using now)

theorem missed_of_fails (sound : start.Sound)
    (few : ((start.run before).step (.call method params terms)).2.callCount < 2 ^ 64)
    (fails : (start.run before).FailsAtOnce method params terms failure) :
    Missed start (start.run before).callCount (before ++ [.call method params terms]) := by
  have counted : ((start.run before).step (.call method params terms)).2.callCount =
      (start.run before).callCount + 1 := callCount_step_eq _ _
  have early : (start.run before).callCount < 2 ^ 64 := by omega
  refine .of_act sound few (counted ▸ Nat.lt_succ_self _)
    (not_mem_admissions_of_unmade sound early (Nat.le_refl _)) ?_
  simp only [act, fails.startCall_eq]
  exact fun call member => Nat.ne_of_lt ((sound.run early).accounts.counted call member)

/-- A call of which one result is that the queue is closed, or that it cannot be encoded, has not
entered the queue. -/
theorem unadmitted_of_error (sound : start.Sound) (idle : start.callCount = 0)
    (few : (start.run steps).callCount < 2 ^ 64)
    (early : failure = .queueClosed ∨ ∃ reason, failure = .encode reason)
    (ended : .error failure ∈ (start.run steps).outcomes number) :
    number ∉ start.admissions steps := by
  have made : number < (start.run steps).callCount := by
    refine Nat.lt_of_not_le fun unmade => ?_
    rw [(sound.run few).fresh number unmade] at ended
    cases ended
  obtain ⟨before, method, params, terms, after, rfl, own, ⟨_, fails, _⟩ | ⟨issue, _, same, ending⟩⟩ :=
    made_cases sound idle few made
  · have counted := few
    rw [run_append, run_cons] at counted
    have missed := own ▸ missed_of_fails sound
      (Nat.lt_of_le_of_lt (callCount_run_le _ after) counted) fails
    rw [List.append_cons] at few ⊢
    exact missed.never sound few
  · have counted := few
    rw [run_append] at counted ended
    have unmade := not_mem_admissions_of_unmade sound
      (Nat.lt_of_le_of_lt (callCount_run_le _ _) counted) (Nat.le_of_eq own)
    rw [admissions_append, List.mem_append, not_or]
    refine ⟨unmade, ?_⟩
    subst same
    -- Of the endings only the first has such a failure, and it is one without an admission.
    cases ending with
    | turned waits never => exact never
    | stays kept stands =>
        have none : ((start.run before).run _).outcomes issue.number = [] := stands.outcomes
        rw [none] at ended
        cases ended
    | cancelled _ gone | abandoned _ gone | answered _ _ _ gone | late _ gone =>
        have results : ((start.run before).run _).outcomes issue.number = _ := gone.outcomes
        rw [results] at ended
        rcases early with rfl | ⟨reason, rfl⟩ <;> simp at ended

theorem unadmitted_of_waiting (sound : start.Sound) (idle : start.calls = [])
    (few : (start.run steps).callCount < 2 ^ 64)
    (waits : (start.run steps).outbound.isWaiting number = true) :
    number ∉ start.admissions steps ∧
      ∃ call ∈ (start.run steps).calls, call.number = number := by
  obtain ⟨letter, waiting, rfl⟩ := List.mem_map.mp (Outbound.isWaiting_eq_true_iff.mp waits)
  obtain ⟨call, member, own⟩ := (sound.run few).waiters letter waiting
  refine ⟨?_, call, member, own⟩
  rcases origin_run sound few member with
    old | ⟨before, next, after, issue, rfl, issued, rfl⟩
  · rw [idle] at old
    cases old
  · have ending := ending_in_run sound few issued
    have made : (start.run before).callCount ≤ letter.call :=
      Nat.le_of_eq ((number_of_issue? issued).1.symm.trans own)
    have counted := few
    rw [run_append] at counted waits member
    have counted := Nat.lt_of_le_of_lt (callCount_run_le _ (next :: after)) counted
    rw [admissions_append, List.mem_append, not_or]
    refine ⟨not_mem_admissions_of_unmade sound counted made, fun admitted => ?_⟩
    -- A call in progress that has been admitted waits no longer.
    cases ending with
    | stays kept stands =>
        have unqueued := stands.waiting
        rw [own, waits] at unqueued
        simp [admitted] at unqueued
    | cancelled _ gone | abandoned _ gone | answered _ _ _ gone | late _ gone
    | turned _ _ gone => exact gone.absent _ member rfl

theorem EndsUnsent.unadmitted (ends : start.EndsUnsent steps number) (sound : start.Sound)
    (idle : start.callCount = 0) (few : (start.run steps).callCount < 2 ^ 64) :
    number ∉ start.admissions steps := by
  have none : start.calls = [] := List.eq_nil_iff_forall_not_mem.mpr fun call member =>
    absurd (sound.accounts.counted call member) (idle ▸ Nat.not_lt_zero _)
  -- Each way but the first two leaves the call over after one more step than `before`.
  have never (before : List Step) (next : Step) (after : List Step)
      (split : steps = before ++ next :: after)
      (missed : ((start.run before).step next).2.callCount < 2 ^ 64 →
        Missed start number (before ++ [next])) : number ∉ start.admissions steps := by
    rw [split, List.append_cons] at few ⊢
    have counted := few
    rw [run_append, run_snoc] at counted
    exact (missed (Nat.lt_of_le_of_lt (callCount_run_le _ after) counted)).never sound few
  have sooner {before : List Step} {next : Step}
      (few : ((start.run before).step next).2.callCount < 2 ^ 64) :
      (start.run before).callCount < 2 ^ 64 :=
    Nat.lt_of_le_of_lt ((start.run before).callCount_run_le [next]) few
  cases ends with
  | unencodable reason ended =>
      exact unadmitted_of_error sound idle few (.inr ⟨reason, rfl⟩) ended
  | refused ended => exact unadmitted_of_error sound idle few (.inl rfl) ended
  | stillborn before method params terms after token split own wanted cancelled =>
      refine never before _ after split fun few => ?_
      have unissued : (start.run before).issue? (.call method params terms) = Option.none := by
        cases issued : (start.run before).issue? (.call method params terms) with
        | none => rfl
        | some issue =>
            have uncancelled := (issue?_eq_some issued).2.1
            rw [wanted] at uncancelled
            cases cancelled.symm.trans uncancelled
      obtain ⟨failure, fails⟩ := failsAtOnce_of_unissued unissued
      exact own ▸ missed_of_fails sound few fails
  | cancelled before token after call split member own wanted waits =>
      refine never before _ after split fun few => ?_
      have soundThen := sound.run (sooner few)
      have past := (unadmitted_of_waiting sound none (sooner few) waits).1
      have ended := (endsWhere_cancel soundThen token).ends call member _ (if_pos wanted)
      exact .of_act sound few
        (lt_callCount_step _ (own ▸ soundThen.accounts.counted call member)) past
        (own ▸ ended.absent)
  | abandoned before after split waits =>
      refine never before _ after split fun few => ?_
      have soundThen := sound.run (sooner few)
      obtain ⟨past, call, member, rfl⟩ := unadmitted_of_waiting sound none (sooner few) waits
      refine .of_act sound few (lt_callCount_step _ (soundThen.accounts.counted call member)) past ?_
      simp only [act, abandonCall, soundThen.call?_eq_some member]
      exact absent_dismiss _ call
  | late before next after method limit split ended waits =>
      refine never before next after split fun few => ?_
      rw [← run_snoc] at few
      cases told_run sound idle few number with
      | unmade unmade =>
          rw [(sound.run few).fresh number unmade] at ended
          cases ended
      | going call own isQueued reply stands =>
          rw [← own, stands.outcomes] at ended
          cases ended
      | ended made results gone => exact ⟨made, gone.absent, waits⟩

/-! ## Identifiers -/

/-- Of two calls the later one draws the higher identifier. -/
theorem draw_lt {between : List Step} {other : Step} {id later : UInt64} (sound : session.Sound)
    (drawn : session.draw? next = some id)
    (drawnLater : (session.run (next :: between)).draw? other = some later)
    (few : ((session.run (next :: between)).step other).2.callCount < 2 ^ 64) : id < later := by
  obtain ⟨rfl, counted⟩ := ((session.run (next :: between)).act_cases other).drawn drawnLater
  rw [← callCount_step] at counted
  have early : (session.run (next :: between)).callCount < 2 ^ 64 := by omega
  have below := (drawn_ascending sound early).2 id (by simp [Session.drawn, along, drawn])
  have above := (sound.run early).accounts.lt_nextId (counted ▸ few)
  exact UInt64.lt_of_le_of_lt below above

theorem Draws.unique {other : Nat} {id : UInt64} (draws : start.Draws steps number id)
    (again : start.Draws steps other id) (sound : start.Sound)
    (few : (start.run steps).callCount < 2 ^ 64) : number = other := by
  obtain ⟨before, next, after, rfl, rfl, drawn⟩ := draws
  obtain ⟨before', next', after', split, rfl, drawn'⟩ := again
  have apart {before between after : List Step} {next other : Step}
      (few : (start.run (before ++ next :: (between ++ other :: after))).callCount < 2 ^ 64)
      (drawn : (start.run before).draw? next = some id)
      (later : (start.run (before ++ next :: between)).draw? other = some id) : False := by
    rw [run_append, ← List.cons_append, run_append, run_cons] at few
    rw [run_append] at later
    have few := Nat.lt_of_le_of_lt (callCount_run_le _ after) few
    have early := Nat.lt_of_le_of_lt (Nat.le_trans (callCount_run_le _ (next :: between))
      (callCount_run_le _ [other])) few
    exact UInt64.lt_irrefl _ (draw_lt (sound.run early) drawn later few)
  rcases List.append_eq_append_iff.mp split with ⟨between, rfl, rest⟩ | ⟨between, rfl, rest⟩
  · cases between with
    | nil => rw [List.append_nil]
    | cons first between =>
        obtain ⟨rfl, rfl⟩ := List.cons.inj rest
        exact (apart few drawn drawn').elim
  · cases between with
    | nil => rw [List.append_nil]
    | cons first between =>
        obtain ⟨rfl, rfl⟩ := List.cons.inj rest
        rw [List.append_assoc] at few
        exact (apart few drawn' drawn).elim

theorem draws_of_mem_issues {issue : Issue} (member : issue ∈ start.issues steps) :
    start.Draws steps issue.number issue.id := by
  obtain ⟨before, next, after, rfl, observed⟩ := mem_along_iff.mp member
  have issued : (start.run before).issue? next = some issue := Option.mem_toList.mp observed
  exact ⟨before, next, after, rfl, (number_of_issue? issued).1.symm, draw_of_issue? issued⟩

theorem issues_prefix (session : Session) (before after : List Step) :
    session.issues before <+: session.issues (before ++ after) := by
  induction before generalizing session with
  | nil => exact List.nil_prefix
  | cons next before ih =>
      exact (List.prefix_append_right_inj _).mpr (ih (session.step next).2)

/-! ## Never sent -/

/-- Of a call that ends before its letter has entered the queue nothing is sent: at no time of the
run, before it ends or after, has a letter of the call, or one with its identifier, left the line of
those who wait for room. A call that fails at once changes nothing else either: it uses an
identifier up, and not even that when the connection is closed. -/
theorem failed_calls_unsent (settings : Settings) (lineCapacity : Nat) (loggerPanics : Bool)
    (steps : List Step)
    (few : ((create settings lineCapacity loggerPanics).run steps).callCount < 2 ^ 64) :
    let start := create settings lineCapacity loggerPanics
    let session := start.run steps
    (∀ number, start.EndsUnsent steps number →
      ∀ earlier later, steps = earlier ++ later → ∀ letter ∈ start.launched earlier,
        letter.call ≠ number ∧ ∀ id, start.Draws steps number id → letter.request.id ≠ id) ∧
      ∀ method params terms failure, session.FailsAtOnce method params terms failure →
        (session.step (.call method params terms)).2 =
          { session with
            callCount := session.callCount + 1
            correlator :=
              { session.correlator with
                lastId :=
                  if session.isClosed then session.correlator.lastId
                  else session.correlator.nextId.1 }
            history := session.history ++ [.ended session.callCount (.error failure)] } := by
  intro start session
  have sound : start.Sound := .create settings lineCapacity loggerPanics
  constructor
  · intro number ends earlier later split letter launched
    obtain ⟨admitted, issue, issued, rfl⟩ :=
      launched_admitted settings lineCapacity loggerPanics earlier letter launched
    have apart : issue.number ≠ number := by
      rintro rfl
      refine ends.unadmitted sound rfl few ?_
      rw [split, admissions_append]
      exact List.mem_append_left _ admitted
    refine ⟨apart, fun id draws same => apart ?_⟩
    have issued : issue ∈ start.issues steps :=
      split ▸ (start.issues_prefix earlier later).subset issued
    have own : start.Draws steps issue.number id := same ▸ draws_of_mem_issues issued
    exact own.unique draws sound few
  · intro method params terms failure fails
    exact fails.step_eq (still_run settings lineCapacity loggerPanics steps few)

/-- A line that holds nothing and a queue of one: the first letter is in the writer's hand, the
second in the queue, and the third is cancelled while it waits. A fourth call fails at once. -/
theorem failed_calls_unsent_of_cancelled :
    let before : List Step := [.pause, .call "a" .none .standard, .call "b" .none .standard,
      .call "c" .none ⟨none, some "t"⟩]
    let steps : List Step := before ++ [.cancel "t", .resume, .close, .advance 50]
    let start := create ⟨5000, 50, 1, 8⟩ 0 false
    let session := start.run steps
    session.callCount < 2 ^ 64 ∧ start.EndsUnsent steps 2 ∧ start.Draws steps 2 3 ∧
      (∀ letter ∈ start.launched steps, letter.call ≠ 2 ∧ letter.request.id ≠ 3) ∧
      (start.transmissions steps).map Letter.call = [0, 1] ∧
      session.FailsAtOnce "d" .none .standard .queueClosed ∧
      (session.step (.call "d" .none .standard)).2.correlator = session.correlator := by
  intro before steps start session
  have few : session.callCount < 2 ^ 64 := by decide +kernel
  have ends : start.EndsUnsent steps 2 :=
    .cancelled before "t" [.resume, .close, .advance 50]
      ⟨2, 3, "c", 2, 5000, 5000, some "t"⟩ rfl (by decide +kernel) rfl rfl (by decide +kernel)
  have draws : start.Draws steps 2 3 :=
    ⟨before.take 3, .call "c" .none ⟨none, some "t"⟩, _, rfl, by decide +kernel, by decide +kernel⟩
  have fails : session.FailsAtOnce "d" .none .standard .queueClosed := .closed (by decide +kernel)
  obtain ⟨unsent, alone⟩ := failed_calls_unsent ⟨5000, 50, 1, 8⟩ 0 false steps few
  refine ⟨few, ends, draws, fun letter launched => ?_, by decide +kernel, fails, ?_⟩
  · obtain ⟨apart, unlike⟩ := unsent 2 ends steps [] (List.append_nil _).symm letter launched
    exact ⟨apart, unlike 3 draws⟩
  · exact (congrArg Session.correlator (alone _ _ _ _ fails)).trans (by decide +kernel)

end Session

end ServerManagement
