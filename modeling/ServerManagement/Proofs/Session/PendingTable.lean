import ServerManagement.Proofs.Session.CallEnding

/-!
The table of the correlator lists exactly the calls whose responses are still to come, and
identifiers are drawn in ascending order.
-/

set_option autoImplicit false

namespace ServerManagement

/-- Over the steps from the one that starts it, the call has no result and its caller does not
go. -/
def Issue.isInProgress (issue : Issue) (session : Session) (steps : List Session.Step) : Bool :=
  ((session.run steps).outcomes issue.number).isEmpty &&
    !steps.any (Session.Step.abandons issue.number)

/-- The call is in progress and no response with its identifier is heard. -/
def Issue.isAwaited (issue : Issue) (session : Session) (steps : List Session.Step) : Bool :=
  issue.isInProgress session steps &&
    !(session.heard steps).any fun response => response.id == some issue.id

namespace Session

def inProgress (session : Session) : List Step → List Issue :=
  session.along fun session next after =>
    (session.issue? next).toList.filter (·.isInProgress session (next :: after))

/-- The calls in progress after the steps for which no response has come, in order. -/
def awaited (session : Session) : List Step → List Issue :=
  session.along fun session next after =>
    (session.issue? next).toList.filter (·.isAwaited session (next :: after))

variable {session later : Session} {next : Step} {steps : List Step} {issue : Issue}
  {call : Call} {ticket : Nat} {isQueued : Bool} {reply : Option Response}

/-! ## Identifiers -/

theorem lastId_resolve (correlator : Correlator) (response : Response) :
    (correlator.resolve response).2.lastId = correlator.lastId := by
  unfold Correlator.resolve
  split
  · rfl
  · split
    · rfl
    · dsimp only
      split <;> rfl

theorem lastId_enroll (session : Session) (number : Nat) (request : Request) (terms : CallTerms) :
    (session.enroll number request terms).correlator.lastId = session.correlator.lastId := by
  unfold enroll Correlator.register
  cases session.correlator.entries.find? request.id <;> rfl

theorem Act.lastId (act : Act session next later) :
    later.correlator.lastId = (session.draw? next).getD session.correlator.lastId := by
  cases act with
  | pass passive quiet =>
      rw [passive.undrawn, quiet.correlator]
      rfl
  | turnAway method params terms correlator failure drawn =>
      rw [drawn]
      simp only [draw?]
      split <;> rfl
  | start method params terms issue issued =>
      rw [lastId_enroll]
      simp only [draw?, (issue?_eq_some issued).1]
      rfl
  | leave number =>
      unfold abandonCall
      split
      · exact Correlator.lastId_remove_abandon
      · rfl
  | cancel token => exact (session.steady_cancel token).lastId
  | hear incoming response => exact lastId_resolve _ _
  | close opened =>
      rw [close_eq opened]
      exact (steady_settleCloser session.withCloser).lastId

/-- A step that draws an identifier draws the next one, for one more call. -/
theorem Act.drawn {id : UInt64} (act : Act session next later)
    (drawn : session.draw? next = some id) :
    id = session.correlator.nextId.1 ∧ later.callCount = session.callCount + 1 := by
  cases act with
  | pass passive =>
      rw [passive.undrawn] at drawn
      cases drawn
  | turnAway method params terms =>
      simp only [draw?] at drawn
      split at drawn
      · cases drawn
      · cases drawn
        exact ⟨rfl, rfl⟩
  | start method params terms issue issued =>
      simp only [draw?, (issue?_eq_some issued).1] at drawn
      cases drawn
      exact ⟨rfl, callCount_enroll ..⟩
  | leave | cancel | hear | close => cases drawn

theorem lastId_step (session : Session) (next : Step) :
    (session.step next).2.correlator.lastId =
      (session.draw? next).getD session.correlator.lastId :=
  (lastId_settle _).trans (session.act_cases next).lastId

/-- Identifiers ascend from the last one drawn before. -/
theorem drawn_ascending (sound : session.Sound) (few : (session.run steps).callCount < 2 ^ 64) :
    (session.correlator.lastId :: session.drawn steps).Pairwise (· < ·) ∧
      ∀ id ∈ session.correlator.lastId :: session.drawn steps,
        id ≤ (session.run steps).correlator.lastId := by
  induction steps generalizing session with
  | nil =>
      refine ⟨List.pairwise_singleton .., ?_⟩
      intro id member
      rw [List.mem_singleton.mp member]
      exact UInt64.le_refl _
  | cons next steps ih =>
      have early := Nat.lt_of_le_of_lt (callCount_run_le _ steps) few
      have rest := ih (sound.step early) few
      -- The last identifier of the step is the one it draws, or the one from before.
      rw [lastId_step] at rest
      rw [drawn, along]
      cases draws : session.draw? next with
      | none =>
          rw [draws] at rest
          exact rest
      | some id =>
          rw [draws] at rest
          obtain ⟨ascending, below⟩ := rest
          obtain ⟨rfl, counted⟩ := (session.act_cases next).drawn draws
          have first := sound.accounts.lt_nextId (by rw [← counted, ← callCount_step]; exact early)
          have above := List.pairwise_cons.mp ascending
          refine ⟨List.pairwise_cons.mpr ⟨?_, ascending⟩, ?_⟩
          · intro other member
            rcases List.mem_cons.mp member with rfl | member
            · exact first
            · exact UInt64.lt_trans first (above.1 other member)
          · intro other member
            rcases List.mem_cons.mp member with rfl | member
            · exact UInt64.le_of_lt (UInt64.lt_of_lt_of_le first (below _ (List.mem_cons_self ..)))
            · exact below other member

theorem draw_of_issue? (issued : session.issue? next = some issue) :
    session.draw? next = some issue.id := by
  cases next with
  | call method params terms =>
      rw [(number_of_issue? issued).2]
      simp only [draw?, (issue?_eq_some issued).1]
      rfl
  | _ => cases issued

theorem issues_sublist_drawn (session : Session) (steps : List Step) :
    ((session.issues steps).map Issue.id).Sublist (session.drawn steps) := by
  induction steps generalizing session with
  | nil => exact .slnil
  | cons next steps ih =>
      simp only [issues, drawn, along, List.map_append]
      refine List.Sublist.append ?_ (ih _)
      cases issued : session.issue? next with
      | none => exact List.nil_sublist _
      | some issue => simp [draw_of_issue? issued]

/-! ## Where calls come from -/

theorem Act.origin (act : Act session next later) (sound : session.Sound)
    (few : later.callCount < 2 ^ 64) (member : call ∈ later.calls) :
    call ∈ session.calls ∨
      ∃ issue, session.issue? next = some issue ∧
        call = issue.call session.correlator.slots.length := by
  cases act with
  | pass passive quiet =>
      rw [quiet.calls] at member
      exact .inl member
  | turnAway => exact .inl member
  | start method params terms issue issued =>
      rw [callCount_enroll] at few
      rw [enroll_eq sound few issued] at member
      rcases List.mem_append.mp member with old | new
      · exact .inl old
      · exact .inr ⟨issue, issued, List.mem_singleton.mp new⟩
  | leave number =>
      unfold abandonCall at member
      split at member
      · exact .inl (List.mem_filter.mp member).1
      · exact .inl member
  | cancel token => exact .inl ((endsWhere_cancel sound token).origin call member)
  | hear => exact .inl member
  | close opened =>
      obtain ⟨_, ended, _⟩ := endsWhere_close sound opened
      exact .inl (ended.origin call member)

theorem origin_step (sound : session.Sound) (few : (session.step next).2.callCount < 2 ^ 64)
    (member : call ∈ (session.step next).2.calls) :
    call ∈ session.calls ∨
      ∃ issue, session.issue? next = some issue ∧
        call = issue.call session.correlator.slots.length := by
  obtain ⟨_, ended, _⟩ := endsWhere_settle (sound.act few)
  exact (session.act_cases next).origin sound (session.callCount_step next ▸ few)
    (ended.origin call member)

/-- A call in progress was in progress before, or has been issued since. -/
theorem origin_run (sound : session.Sound) (few : (session.run steps).callCount < 2 ^ 64)
    (member : call ∈ (session.run steps).calls) :
    call ∈ session.calls ∨ ∃ before next after issue, steps = before ++ next :: after ∧
      (session.run before).issue? next = some issue ∧
      call = issue.call (session.run before).correlator.slots.length := by
  induction steps generalizing session with
  | nil => exact .inl member
  | cons next steps ih =>
      have early := Nat.lt_of_le_of_lt (callCount_run_le _ steps) few
      rcases ih (sound.step early) few member with
        old | ⟨before, later, after, issue, rfl, issued, same⟩
      · rcases origin_step sound early old with older | ⟨issue, issued, same⟩
        · exact .inl older
        · exact .inr ⟨[], next, steps, issue, rfl, issued, same⟩
      · exact .inr ⟨next :: before, later, after, issue, rfl, issued, same⟩

/-- The identifier of a call that is gone is never listed again. -/
theorem unlisted_of_gone (sound : session.Sound) (few : (session.run steps).callCount < 2 ^ 64)
    (member : call ∈ session.calls) (absent : (session.run steps).Absent call.number) :
    call.id ∉ (session.run steps).correlator.entries.keys := by
  intro listed
  obtain ⟨ticket, found⟩ := (Directory.mem_keys_iff ..).mp listed
  obtain ⟨other, among, same, _⟩ := ((sound.run few).accounts.listed _ _).mp found
  rcases origin_run sound few among with old | ⟨before, next, after, issue, rfl, issued, rfl⟩
  · exact absent other among (congrArg Call.number (sound.accounts.eq_of_id old member same))
  · -- Identifiers that are drawn are above those of the calls before.
    have drawn : issue.id ∈ session.drawn (before ++ next :: after) :=
      mem_along_iff.mpr ⟨before, next, after, rfl, by simp [draw_of_issue? issued]⟩
    have above := (List.pairwise_cons.mp (drawn_ascending sound few).1).1 _ drawn
    have same : issue.id = call.id := same
    rw [same] at above
    exact UInt64.lt_irrefl _
      (UInt64.lt_of_le_of_lt (sound.accounts.known call member).2 above)

/-! ## The table -/

/-- A call is awaited exactly as long as it is in progress and its slot awaits a response. -/
theorem Ending.isAwaited_iff (ending : Ending (issue.call ticket) false none session steps) :
    issue.isAwaited session steps = true ↔
      issue.call ticket ∈ (session.run steps).calls ∧
        (session.run steps).correlator.slot ticket = .awaiting := by
  have unawaited {results : List (Except Failure Response)}
      (ended : results ≠ [] ∨ ∃ next ∈ steps, Step.abandons issue.number next = true)
      (gone : Gone issue.number results (session.run steps)) :
      issue.isAwaited session steps = true ↔
        issue.call ticket ∈ (session.run steps).calls ∧
          (session.run steps).correlator.slot ticket = .awaiting := by
    constructor
    · intro awaited
      simp only [Issue.isAwaited, Issue.isInProgress, Bool.and_eq_true, List.isEmpty_iff]
        at awaited
      obtain ⟨⟨unended, unabandoned⟩, _⟩ := awaited
      rcases ended with ended | abandons
      · exact absurd (gone.outcomes.symm.trans unended) ended
      · rw [List.any_eq_true.mpr abandons] at unabandoned
        cases unabandoned
    · rintro ⟨member, _⟩
      exact absurd rfl (gone.absent _ member)
  cases ending with
  | stays kept stands =>
      have unended : (session.run steps).outcomes issue.number = [] := stands.outcomes
      have waits : steps.any (Step.abandons issue.number) = false :=
        List.any_eq_false.mpr fun next member =>
          Bool.eq_false_iff.mp (Bool.or_eq_false_iff.mp (kept next member)).2
      have slot := stands.slot
      simp only [Issue.isAwaited, Issue.isInProgress, unended, waits, ← List.isSome_find?]
      rw [Option.none_or] at slot
      change _ = Slot.holding
        ((session.heard steps).find? fun response => response.id == some issue.id) at slot
      cases found : (session.heard steps).find? fun response => response.id == some issue.id with
      | none =>
          rw [found] at slot
          simp [stands.mem, show (session.run steps).correlator.slot ticket = _ from slot,
            Slot.holding]
      | some response =>
          rw [found] at slot
          simp [show (session.run steps).correlator.slot ticket = _ from slot, Slot.holding]
  | abandoned abandons gone => exact unawaited (.inr abandons) gone
  | cancelled _ gone | answered _ _ _ gone | late _ gone | turned _ _ gone =>
      exact unawaited (.inl (List.cons_ne_nil _ _)) gone

theorem mem_awaited_iff {issue : Issue} :
    issue ∈ session.awaited steps ↔ ∃ before next after, steps = before ++ next :: after ∧
      (session.run before).issue? next = some issue ∧
      issue.isAwaited (session.run before) (next :: after) = true := by
  simp only [awaited, mem_along_iff, List.mem_filter, Option.mem_toList]

theorem ending_in_run {before after : List Step} (sound : session.Sound)
    (few : (session.run (before ++ next :: after)).callCount < 2 ^ 64)
    (issued : (session.run before).issue? next = some issue) :
    Ending (issue.call (session.run before).correlator.slots.length) false none
      (session.run before) (next :: after) := by
  rw [run_append] at few
  have started := Nat.lt_of_le_of_lt (callCount_run_le _ (next :: after)) few
  exact ending_of_issue (sound.run started) few issued

theorem mem_keys_run_iff (sound : session.Sound) (none : session.calls = [])
    (few : (session.run steps).callCount < 2 ^ 64) (id : UInt64) :
    id ∈ (session.run steps).correlator.entries.keys ↔
      id ∈ (session.awaited steps).map Issue.id := by
  simp only [Directory.mem_keys_iff, (sound.run few).accounts.listed, List.mem_map,
    mem_awaited_iff]
  constructor
  · rintro ⟨_, call, member, rfl, rfl, awaiting⟩
    rcases origin_run sound few member with
      old | ⟨before, next, after, issue, rfl, issued, rfl⟩
    · rw [none] at old
      cases old
    · have ending := ending_in_run sound few issued
      rw [run_append] at member awaiting
      exact ⟨issue, ⟨before, next, after, rfl, issued, ending.isAwaited_iff.mpr ⟨member, awaiting⟩⟩,
        rfl⟩
  · rintro ⟨issue, ⟨before, next, after, rfl, issued, awaited⟩, rfl⟩
    obtain ⟨member, awaiting⟩ := (ending_in_run sound few issued).isAwaited_iff.mp awaited
    rw [← run_append] at member awaiting
    exact ⟨_, _, member, rfl, rfl, awaiting⟩

theorem issues_ascending (sound : session.Sound) (few : (session.run steps).callCount < 2 ^ 64) :
    (session.issues steps).Pairwise fun issue other => issue.id < other.id := by
  have ascending := List.Pairwise.of_cons (drawn_ascending sound few).1
  exact List.pairwise_map.mp (ascending.sublist (session.issues_sublist_drawn steps))

theorem awaited_sublist_inProgress (session : Session) (steps : List Step) :
    (session.awaited steps).Sublist (session.inProgress steps) := by
  refine along_sublist ?_ session steps
  intro session next after
  simp only [Issue.isAwaited, ← List.filter_filter]
  exact List.filter_sublist.filter _

theorem inProgress_sublist_issues (session : Session) (steps : List Step) :
    (session.inProgress steps).Sublist (session.issues steps) :=
  along_sublist (fun _ _ _ => List.filter_sublist) session steps

/-- The table lists the identifiers of the calls in progress whose responses have not come, each
of one call; they are drawn in ascending order from one on and never come again. -/
theorem pending_eq_awaited (settings : Settings) (lineCapacity : Nat) (loggerPanics : Bool)
    (steps : List Step)
    (few : ((create settings lineCapacity loggerPanics).run steps).callCount < 2 ^ 64) :
    let start := create settings lineCapacity loggerPanics
    let session := start.run steps
    session.correlator.entries.keys.Perm ((start.awaited steps).map Issue.id) ∧
      session.pending = (start.awaited steps).length ∧
      (start.inProgress steps = [] → session.pending = 0) ∧
      (∀ issue ∈ start.issues steps, 0 < issue.id ∧ issue.id ≤ session.correlator.lastId) ∧
      ((start.issues steps).Pairwise fun issue other => issue.id < other.id) ∧
      ((start.issues steps).map Issue.id).Sublist (start.drawn steps) ∧
      (start.drawn steps).Pairwise (· < ·) := by
  intro start session
  have sound : start.Sound := .create settings lineCapacity loggerPanics
  obtain ⟨ascending, below⟩ := drawn_ascending sound few
  obtain ⟨positive, drawn⟩ := List.pairwise_cons.mp ascending
  have issues := issues_ascending sound few
  have listed : session.correlator.entries.keys.Perm ((start.awaited steps).map Issue.id) := by
    refine (List.perm_ext_iff_of_nodup (Directory.keys_nodup _) ?_).mpr
      (mem_keys_run_iff sound rfl few)
    have awaited := issues.sublist
      ((start.awaited_sublist_inProgress steps).trans (start.inProgress_sublist_issues steps))
    exact (List.pairwise_map.mpr awaited).imp UInt64.ne_of_lt
  have counted : session.pending = (start.awaited steps).length := by
    have length := listed.length_eq
    rwa [Directory.length_keys, List.length_map] at length
  refine ⟨listed, counted, ?_, ?_, issues, start.issues_sublist_drawn steps, drawn⟩
  · intro idle
    have none := start.awaited_sublist_inProgress steps
    rw [idle] at none
    rw [counted, List.sublist_nil.mp none]
    rfl
  · intro issue member
    have draws := (start.issues_sublist_drawn steps).subset (List.mem_map_of_mem member)
    exact ⟨positive _ draws, below _ (List.mem_cons_of_mem _ draws)⟩

/-- Of three calls one is answered and one left by its caller; the third stays. -/
theorem pending_eq_awaited_of_three :
    let steps : List Step := [.call "a" .none .standard, .call "b" .none .standard,
      .call "c" .none .standard, .receive (.data (Json.bytesOf r#"{"id":2}"#)), .abandonCall 0]
    let start := create .standard 1024 false
    (start.run steps).callCount < 2 ^ 64 ∧ (start.awaited steps).map Issue.id = [3] ∧
      (start.run steps).pending = 1 := by
  intro steps start
  have few : (start.run steps).callCount < 2 ^ 64 := by decide +kernel
  have awaited : (start.awaited steps).map Issue.id = [3] := by decide +kernel
  obtain ⟨_, counted, _⟩ := pending_eq_awaited .standard 1024 false steps few
  refine ⟨few, awaited, counted.trans ?_⟩
  rw [← List.length_map Issue.id, awaited]
  rfl

end Session

end ServerManagement
