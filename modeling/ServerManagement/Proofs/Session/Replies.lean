import ServerManagement.Proofs.Session.FailedCalls
import ServerManagement.Proofs.Session.PendingTable

/-!
Where results come from. Over a whole run a call is not made yet, in progress or over, and it ends
with a response only if the reader has dealt with that response while the call was in progress.
-/

set_option autoImplicit false

namespace ServerManagement

namespace Session

/-- In one of the steps the reader deals with the response, and the call with the number is in
progress then and has the response's identifier. -/
def RepliedIn (session : Session) (steps : List Step) (number : Nat) (response : Response) :
    Prop :=
  ∃ before next after, steps = before ++ next :: after ∧
    (session.run before).heard? next = some response ∧
    ∃ call ∈ (session.run before).calls, call.number = number ∧ response.id = some call.id

inductive Told (start : Session) (steps : List Step) (number : Nat) : Prop
  | unmade (unmade : (start.run steps).callCount ≤ number)
  | going (call : Call) (own : call.number = number) (isQueued : Bool) (reply : Option Response)
      (stands : Stands call isQueued reply (start.run steps))
      (replied : ∀ response, reply = some response → start.RepliedIn steps number response)
  | ended (made : number < (start.run steps).callCount) (results : List (Except Failure Response))
      (gone : Gone number results (start.run steps))
      (replied : ∀ response, .ok response ∈ results → start.RepliedIn steps number response)

variable {session start : Session} {next : Step} {steps : List Step} {call : Call} {number : Nat}
  {isQueued : Bool} {reply : Option Response} {response : Response} {issue : Issue}

theorem RepliedIn.snoc (replied : session.RepliedIn steps number response) (next : Step) :
    session.RepliedIn (steps ++ [next]) number response := by
  obtain ⟨before, heard, after, rfl, rest⟩ := replied
  exact ⟨before, heard, after ++ [next], by simp, rest⟩

theorem reply?_eq_some_iff {id : UInt64} : session.reply? id next = some response ↔
    session.heard? next = some response ∧ response.id = some id := by
  simp [reply?, Option.filter_eq_some_iff]

theorem run_snoc (session : Session) (steps : List Step) (next : Step) :
    session.run (steps ++ [next]) = ((session.run steps).step next).2 :=
  session.run_append steps [next]

theorem RepliedIn.of_reply? (stands : Stands call isQueued reply (start.run steps))
    (replied : (start.run steps).reply? call.id next = some response) :
    start.RepliedIn (steps ++ [next]) call.number response := by
  obtain ⟨heard, own⟩ := reply?_eq_some_iff.mp replied
  exact ⟨steps, next, [], rfl, heard, call, stands.mem, rfl, own⟩

theorem Course.told (course : Course call isQueued reply session next (session.step next).2)
    (same : session = start.run steps)
    (made : call.number < (session.step next).2.callCount)
    (replied : ∀ response, reply.or (session.reply? call.id next) = some response →
      start.RepliedIn (steps ++ [next]) call.number response) :
    Told start (steps ++ [next]) call.number := by
  subst same
  rw [← run_snoc] at course made
  cases course with
  | cancelled cancels gone => exact .ended made _ gone (by simp)
  | abandoned abandons gone => exact .ended made _ gone (by simp)
  | turned uncancelled unabandoned waits result away gone =>
      refine .ended made _ gone fun response answered => ?_
      cases away <;> simp at answered
  | answered uncancelled unabandoned queued response given gone =>
      refine .ended made _ gone fun other answered => ?_
      simp only [List.mem_singleton, Except.ok.injEq] at answered
      exact answered ▸ replied response given
  | late uncancelled unabandoned queued unreplied late gone => exact .ended made _ gone (by simp)
  | stands uncancelled unabandoned early patient stands =>
      exact .going call rfl _ _ stands replied

theorem Told.of_started (sound : (start.run steps).Sound)
    (few : ((start.run steps).step next).2.callCount < 2 ^ 64) (called : next.isCall = true) :
    Told start (steps ++ [next]) (start.run steps).callCount := by
  have made : (start.run steps).callCount < ((start.run steps).step next).2.callCount := by
    rw [callCount_step_eq, called]
    exact Nat.lt_succ_self _
  cases issued : (start.run steps).issue? next with
  | none =>
      cases next with
      | call method params terms =>
          obtain ⟨failure, fails⟩ := failsAtOnce_of_unissued issued
          have gone := fails.gone sound few
          rw [← run_snoc] at gone made
          exact .ended made _ gone (by simp)
      | _ => cases called
  | some issue =>
      have own : issue.number = (start.run steps).callCount := (number_of_issue? issued).1
      have unheard : (start.run steps).heard? next = none := by
        cases next <;> first | rfl | cases called
      rw [← own] at made ⊢
      refine (course_of_issue sound few issued).told rfl made fun response replied => ?_
      simp [reply?, unheard] at replied

theorem Told.snoc (told : Told start steps number) (sound : (start.run steps).Sound)
    (few : (start.run (steps ++ [next])).callCount < 2 ^ 64) :
    Told start (steps ++ [next]) number := by
  rw [run_snoc] at few
  cases told with
  | unmade unmade =>
      cases called : next.isCall with
      | false =>
          refine .unmade ?_
          rw [run_snoc, callCount_step_eq, called]
          exact unmade
      | true =>
          have counted : (start.run (steps ++ [next])).callCount =
              (start.run steps).callCount + 1 := by
            rw [run_snoc, callCount_step_eq, called]
            rfl
          rcases Nat.eq_or_lt_of_le unmade with rfl | later
          · exact .of_started sound few called
          · exact .unmade (counted ▸ later)
  | going call own isQueued reply stands replied =>
      subst own
      have made := lt_callCount_step next (sound.accounts.counted call stands.mem)
      refine (stands.step sound few).told rfl made fun response given => ?_
      cases reply with
      | none => exact .of_reply? stands (by simpa using given)
      | some earlier => exact (replied response (by simpa using given)).snoc next
  | ended made results gone replied =>
      have gone := gone.step sound few made
      have made := lt_callCount_step next made
      rw [← run_snoc] at gone made
      exact .ended made results gone fun response answered => (replied response answered).snoc next

theorem Told.run {before : List Step} (told : Told start before number) (sound : start.Sound)
    (few : (start.run (before ++ steps)).callCount < 2 ^ 64) :
    Told start (before ++ steps) number := by
  induction steps generalizing before with
  | nil => simpa using told
  | cons next steps ih =>
      rw [List.append_cons] at few ⊢
      have counted := few
      rw [run_append] at counted
      have early := Nat.lt_of_le_of_lt (callCount_run_le _ steps) counted
      refine ih (told.snoc (sound.run ?_) early) few
      rw [run_snoc] at early
      exact Nat.lt_of_le_of_lt (callCount_run_le _ [next]) early

theorem told_run (sound : start.Sound) (idle : start.callCount = 0)
    (few : (start.run steps).callCount < 2 ^ 64) (number : Nat) : Told start steps number := by
  have unmade : Told start [] number := .unmade (idle ▸ Nat.zero_le _)
  exact unmade.run sound few

/-- Some step made the call. -/
theorem started_of_lt (idle : start.callCount ≤ number) (made : number < (start.run steps).callCount) :
    ∃ before next after, steps = before ++ next :: after ∧ next.isCall = true ∧
      (start.run before).callCount = number := by
  induction steps generalizing start with
  | nil => exact absurd made (Nat.not_lt.mpr idle)
  | cons next steps ih =>
      have counted := start.callCount_step_eq next
      by_cases later : (start.step next).2.callCount ≤ number
      · obtain ⟨before, other, after, rfl, called, own⟩ := ih later made
        exact ⟨next :: before, other, after, rfl, called, own⟩
      · refine ⟨[], next, steps, rfl, ?_, ?_⟩
        · cases called : next.isCall with
          | true => rfl
          | false =>
              rw [called] at counted
              exact absurd (counted ▸ idle) later
        · have atMost : next.isCall.toNat ≤ 1 := Bool.toNat_le _
          simp only [run_nil]
          omega

/-- What becomes of a call that has been made: it fails at once, or it is issued and comes to one of
the endings. -/
theorem made_cases (sound : start.Sound) (idle : start.callCount = 0)
    (few : (start.run steps).callCount < 2 ^ 64) (made : number < (start.run steps).callCount) :
    ∃ before method params terms after, steps = before ++ .call method params terms :: after ∧
      (start.run before).callCount = number ∧
      ((∃ failure, (start.run before).FailsAtOnce method params terms failure ∧
        Gone number [.error failure] (start.run steps)) ∨
      ∃ issue, (start.run before).issue? (.call method params terms) = some issue ∧
        issue.number = number ∧
        Ending (issue.call (start.run before).correlator.slots.length) false none
          (start.run before) (.call method params terms :: after)) := by
  obtain ⟨before, next, after, rfl, called, own⟩ := started_of_lt (idle ▸ Nat.zero_le _) made
  cases next with
  | call method params terms =>
      refine ⟨before, method, params, terms, after, rfl, own, ?_⟩
      cases issued : (start.run before).issue? (.call method params terms) with
      | some issue =>
          have same := (number_of_issue? issued).1.trans own
          exact .inr ⟨issue, rfl, same, ending_in_run sound few issued⟩
      | none =>
          obtain ⟨failure, fails⟩ := failsAtOnce_of_unissued issued
          rw [run_append, run_cons] at few ⊢
          have early := Nat.lt_of_le_of_lt (callCount_run_le _ after) few
          have soundThen := sound.run (Nat.lt_of_le_of_lt (callCount_run_le _ [_]) early)
          have later : number < ((start.run before).step (.call method params terms)).2.callCount :=
            Nat.lt_of_lt_of_eq (own ▸ Nat.lt_succ_self _) (callCount_step_eq _ _).symm
          have gone := own ▸ fails.gone soundThen early
          exact .inl ⟨failure, fails, gone.run (soundThen.step early) few later⟩
  | _ => cases called

/-- A call that ends with a response was in progress when the reader dealt with it. -/
theorem repliedIn_of_ok (sound : start.Sound) (idle : start.callCount = 0)
    (few : (start.run steps).callCount < 2 ^ 64)
    (answered : .ok response ∈ (start.run steps).outcomes number) :
    start.RepliedIn steps number response := by
  cases told_run sound idle few number with
  | unmade unmade =>
      rw [(sound.run few).fresh number unmade] at answered
      cases answered
  | going call own isQueued reply stands =>
      rw [← own, stands.outcomes] at answered
      cases answered
  | ended made results gone replied => exact replied response (gone.outcomes ▸ answered)

theorem stands_of_mem (sound : start.Sound) (idle : start.callCount = 0)
    (few : (start.run steps).callCount < 2 ^ 64) (member : call ∈ (start.run steps).calls) :
    ∃ reply, Stands call (!(start.run steps).outbound.isWaiting call.number) reply
      (start.run steps) := by
  have later := sound.run few
  cases told_run sound idle few call.number with
  | unmade unmade => exact absurd (later.accounts.counted call member) (Nat.not_lt.mpr unmade)
  | ended made results gone => exact absurd rfl (gone.absent call member)
  | going other own isQueued reply stands =>
      obtain rfl := later.accounts.eq_of_number stands.mem member own
      exact ⟨reply, member, (Bool.not_not _).symm, stands.slot, stands.outcomes⟩

/-- A call in progress whose identifier is listed has no reply at hand. -/
theorem stands_of_listed (sound : start.Sound) (idle : start.callCount = 0)
    (few : (start.run steps).callCount < 2 ^ 64) (member : call ∈ (start.run steps).calls)
    (listed : call.id ∈ (start.run steps).correlator.entries.keys) :
    Stands call (!(start.run steps).outbound.isWaiting call.number) none (start.run steps) := by
  have accounts := (sound.run few).accounts
  obtain ⟨reply, stands⟩ := stands_of_mem sound idle few member
  obtain ⟨ticket, found⟩ := (Directory.mem_keys_iff ..).mp listed
  obtain rfl := accounts.ticket_of_listed member found
  have awaiting := (accounts.find?_eq_some_iff member).mp found
  exact ⟨member, stands.waiting, awaiting, stands.outcomes⟩

end Session

end ServerManagement
