import ServerManagement.Proofs.Session.CallSteps

/-!
The course of one call through a step. It goes on, perhaps with its letter admitted or its reply at
hand, or it goes: with its token cancelled, left by its caller, answered, late, or turned away.
-/

set_option autoImplicit false

namespace ServerManagement

def Slot.holding : Option Response → Slot
  | none => .awaiting
  | some response => .answered response

namespace Session

structure Stands (call : Call) (isQueued : Bool) (reply : Option Response) (session : Session) :
    Prop where
  mem : call ∈ session.calls
  waiting : session.outbound.isWaiting call.number = !isQueued
  slot : session.correlator.slot call.ticket = .holding reply
  outcomes : session.outcomes call.number = []

structure Gone (number : Nat) (results : List (Except Failure Response)) (session : Session) :
    Prop where
  absent : session.Absent number
  outcomes : session.outcomes number = results

variable {session later : Session} {next : Step} {call : Call} {number : Nat} {isQueued : Bool}
  {reply : Option Response} {result : Except Failure Response}
  {results : List (Except Failure Response)}

theorem Stands.gone_of_ends (stands : Stands call isQueued reply session)
    (ends : Ends call result session later) : Gone call.number [result] later :=
  ⟨ends.absent, by rw [ends.outcomes, stands.outcomes, List.nil_append]⟩

theorem Stands.keeps (stands : Stands call isQueued reply session)
    (keeps : Keeps call session later) : Stands call isQueued reply later where
  mem := keeps.mem
  waiting := keeps.waiting.trans stands.waiting
  slot := keeps.slot.trans stands.slot
  outcomes := keeps.outcomes.trans stands.outcomes

theorem Gone.misses (gone : Gone number results session) (misses : Misses number session later) :
    Gone number results later :=
  ⟨misses.absent, misses.outcomes.trans gone.outcomes⟩

inductive TurnedAway (call : Call) (now : Nat) : Except Failure Response → Prop
  | closed : TurnedAway call now (.error .queueClosed)
  | late (late : call.deadline ≤ now) :
      TurnedAway call now (.error (.timeout call.method call.limit))

/-! ## Acting -/

inductive Acted (call : Call) (isQueued : Bool) (reply : Option Response) (session : Session)
    (next : Step) (later : Session) : Prop
  | cancelled (cancels : next.cancels call.token = true)
      (gone : Gone call.number [.error (.cancelled call.method)] later)
  | abandoned (abandons : next.abandons call.number = true) (gone : Gone call.number [] later)
  | turned (uncancelled : next.cancels call.token = false)
      (unabandoned : next.abandons call.number = false) (waits : isQueued = false)
      (gone : Gone call.number [.error .queueClosed] later)
  | stands (uncancelled : next.cancels call.token = false)
      (unabandoned : next.abandons call.number = false)
      (stands : Stands call isQueued (reply.or (session.reply? call.id next)) later)

theorem Stands.start {method : String} {params : Params} {terms : CallTerms} {issue : Issue}
    (sound : session.Sound) (few : session.callCount + 1 < 2 ^ 64)
    (issued : session.issue? (.call method params terms) = some issue)
    (stands : Stands call isQueued reply session) :
    Stands call isQueued reply (session.withIssued issue) := by
  obtain ⟨number, id⟩ := number_of_issue? issued
  have older : issue.letter.call ≠ call.number := by
    have counted := sound.accounts.counted call stands.mem
    exact Ne.symm (Nat.ne_of_lt (Nat.lt_of_lt_of_eq counted number.symm))
  constructor
  case mem => exact List.mem_append_left _ stands.mem
  case waiting =>
    rw [outbound_withIssued, isWaiting_post, beq_eq_false_iff_ne.mpr older, Bool.or_false]
    exact stands.waiting
  case slot =>
    rw [correlator_withIssued, id]
    exact (Correlator.slot_register_of_lt (sound.accounts.find?_nextId few)
      (sound.accounts.placed call stands.mem)).trans stands.slot
  case outcomes => exact stands.outcomes

theorem Stands.hear (sound : session.Sound) (stands : Stands call isQueued reply session)
    (response : Response) :
    Stands call isQueued
      (reply.or ((some response).filter fun response => response.id == some call.id))
      { session with correlator := (session.correlator.resolve response).2 } := by
  refine ⟨stands.mem, stands.waiting, ?_, stands.outcomes⟩
  have before := stands.slot
  cases meant : response.id with
  | none =>
      simpa [Correlator.resolve, Option.filter, meant] using before
  | some id =>
      refine (sound.accounts.slot_resolve meant stands.mem).trans ?_
      rw [before]
      cases reply with
      | some earlier => simp [Slot.holding]
      | none =>
          by_cases same : call.id = id
          · simp [Slot.holding, Option.filter, meant, same]
          · simp [Slot.holding, Option.filter, meant, same, Ne.symm same]

theorem Sound.call?_eq_some (sound : session.Sound) (member : call ∈ session.calls) :
    session.call? call.number = some call := by
  cases found : session.call? call.number with
  | none => exact absurd rfl (absent_of_call? found call member)
  | some other =>
      obtain ⟨otherMember, same⟩ := Session.call?_eq_some found
      rw [sound.accounts.eq_of_number otherMember member same]

/-- In a step in which no response is heard, the reply at hand is the one from before. -/
theorem Acted.of_stands (uncancelled : next.cancels call.token = false)
    (unabandoned : next.abandons call.number = false) (unheard : session.heard? next = none)
    (stands : Stands call isQueued reply later) :
    Acted call isQueued reply session next later := by
  refine .stands uncancelled unabandoned ?_
  rw [reply?, unheard, Option.filter_none, Option.or_none]
  exact stands

theorem Stands.leave (sound : session.Sound) (stands : Stands call isQueued reply session)
    (number : Nat) :
    Acted call isQueued reply session (.abandonCall number) (session.abandonCall number) := by
  by_cases same : number = call.number
  · have found : session.call? number = some call := same ▸ sound.call?_eq_some stands.mem
    refine .abandoned (by simp [Step.abandons, same]) ?_
    simp only [abandonCall, found]
    exact ⟨session.absent_dismiss call, stands.outcomes⟩
  · refine .of_stands rfl (by simp [Step.abandons, same]) rfl ?_
    unfold abandonCall
    split
    · rename_i other found
      obtain ⟨otherMember, rfl⟩ := call?_eq_some found
      exact stands.keeps (Keeps.dismiss sound otherMember stands.mem (Ne.symm same))
    · exact stands

theorem Stands.cancel (sound : session.Sound) (stands : Stands call isQueued reply session)
    (token : Token) :
    Acted call isQueued reply session (.cancel token) (session.cancel token) := by
  have ended := endsWhere_cancel sound token
  by_cases same : call.token = some token
  · have ends := ended.ends call stands.mem _ (if_pos same)
    exact .cancelled (by simp [Step.cancels, same])
      (stands.gone_of_ends ⟨ends.absent, ends.outcomes⟩)
  · have kept := ended.keeps call stands.mem (if_neg same)
    exact .of_stands (by simpa [Step.cancels] using same) rfl rfl
      (stands.keeps ⟨kept.mem, kept.slot, kept.waiting, kept.outcomes⟩)

/-- Closing turns away no call whose letter is in the queue. -/
theorem Stands.close (sound : session.Sound) (stands : Stands call isQueued reply session)
    (opened : session.isClosed = false) :
    Acted call isQueued reply session .close session.close := by
  obtain ⟨verdict, ended, turns⟩ := endsWhere_close sound opened
  cases judged : verdict call with
  | none => exact .of_stands rfl rfl rfl (stands.keeps (ended.keeps call stands.mem judged))
  | some result =>
      obtain ⟨waits, rfl⟩ := turns call result judged
      have gone := stands.gone_of_ends (ended.ends call stands.mem _ judged)
      rw [stands.waiting] at waits
      exact .turned rfl rfl (by simpa using waits) gone

theorem Act.acted (act : Act session next later) (sound : session.Sound)
    (few : later.callCount < 2 ^ 64) (stands : Stands call isQueued reply session) :
    Acted call isQueued reply session next later := by
  cases act with
  | pass passive quiet =>
      exact .of_stands (passive.uncancelled _) (passive.unabandoned _) passive.unheard
        (stands.keeps (quiet.keeps stands.mem))
  | turnAway method params terms correlator failure drawn =>
      have older : session.callCount ≠ call.number :=
        Ne.symm (Nat.ne_of_lt (sound.accounts.counted call stands.mem))
      have slot : correlator.slot call.ticket = session.correlator.slot call.ticket := by
        rw [drawn]
        split <;> rfl
      exact .of_stands rfl rfl rfl ⟨stands.mem, stands.waiting, slot.trans stands.slot,
        (outcomes_record_ended _ _ older).trans stands.outcomes⟩
  | start method params terms issue issued =>
      rw [callCount_enroll] at few
      rw [enroll_eq sound few issued]
      exact .of_stands rfl rfl rfl (stands.start sound few issued)
  | leave number => exact stands.leave sound number
  | cancel token => exact stands.cancel sound token
  | hear incoming response heard =>
      refine .stands rfl rfl ?_
      rw [reply?, heard]
      exact stands.hear sound response
  | close opened => exact stands.close sound opened

/-! ## Settling -/

inductive Settled (call : Call) (isQueued : Bool) (reply : Option Response) (session : Session) :
    Prop
  | turned (waits : isQueued = false) (result : Except Failure Response)
      (away : TurnedAway call session.now result) (gone : Gone call.number [result] session.settle)
  | answered (queued : isQueued = true) (response : Response) (replied : reply = some response)
      (gone : Gone call.number [.ok response] session.settle)
  | late (queued : isQueued = true) (unreplied : reply = none) (late : call.deadline ≤ session.now)
      (gone : Gone call.number [.error (.timeout call.method call.limit)] session.settle)
  | stands (early : session.now < call.deadline) (patient : isQueued = true → reply = none)
      (stands : Stands call isQueued reply session.settle)

def admitsNow (session : Session) (number : Nat) : Bool :=
  ((session.outbound.settle session.writeTerms).1.filterMap Effect.admitted?).contains number

theorem Sound.apart (sound : session.Sound) : (session.outbound.waiting.map Letter.call).Nodup :=
  (List.pairwise_map.mpr sound.queuing).imp Nat.ne_of_lt

/-- Unless it is refused, a letter is in the queue exactly when it was there or is admitted now. -/
theorem Stands.withSettled (sound : session.Sound) (stands : Stands call isQueued reply session)
    (accepted : refusal (session.outbound.settle session.writeTerms).1 call = none) :
    Stands call (isQueued || session.admitsNow call.number) reply session.withSettled := by
  have turns := Outbound.turns_settle session.writeTerms session.outbound
  refine ⟨stands.mem, ?_, stands.slot, stands.outcomes⟩
  have waiting := stands.waiting
  cases isQueued with
  | true => exact (turns.of_queued waiting).2
  | false =>
      cases admitted : session.admitsNow call.number with
      | true =>
          exact (turns.of_admitted sound.apart (List.contains_iff_mem.mp admitted)).2
      | false =>
          refine turns.of_waiting waiting ?_ ?_
          · intro member
            rw [admitsNow, List.contains_iff_mem.mpr member] at admitted
            cases admitted
          · intro refused
            simp [refusal, refused] at accepted

theorem Stands.accepted (sound : session.Sound) (stands : Stands call isQueued reply session)
    (queued : (isQueued || session.admitsNow call.number) = true) :
    refusal (session.outbound.settle session.writeTerms).1 call = none := by
  have turns := Outbound.turns_settle session.writeTerms session.outbound
  refine if_neg ?_
  rcases Bool.or_eq_true_iff.mp queued with queued | admitted
  · exact (turns.of_queued (stands.waiting.trans (by rw [queued]; rfl))).1
  · exact (turns.of_admitted sound.apart (List.contains_iff_mem.mp admitted)).1

theorem Stands.settle (sound : session.Sound) (stands : Stands call isQueued reply session) :
    Settled call (isQueued || session.admitsNow call.number) reply session := by
  obtain ⟨verdict, ended, spares, judges, reasons⟩ := endsWhere_settle sound
  have gone : ∀ result, verdict call = some result →
      Gone call.number [result] session.settle := by
    intro result judged
    have ends := ended.ends call stands.mem result judged
    exact stands.gone_of_ends ⟨ends.absent, ends.outcomes⟩
  cases queued : isQueued || session.admitsNow call.number with
  | false =>
      cases judged : verdict call with
      | some result =>
          refine .turned rfl result ?_ (gone result judged)
          rcases reasons call stands.mem result judged with rfl | ⟨accepted, due⟩
          · exact .closed
          · have served := stands.withSettled sound accepted
            rw [queued] at served
            simp only [answer, served.waiting, Bool.not_false, if_true, Option.none_or] at due
            unfold lateness at due
            split at due
            · rename_i late
              exact Option.some.inj due ▸ .late late
            · cases due
      | none =>
          obtain ⟨accepted, early⟩ := spares call judged
          have served := stands.withSettled sound accepted
          rw [queued] at served
          have patient : false = true → reply = none := fun same => absurd same Bool.false_ne_true
          exact .stands early patient (served.keeps (ended.keeps call stands.mem judged))
  | true =>
      have accepted := stands.accepted sound queued
      have served := stands.withSettled sound accepted
      rw [queued] at served
      have judgement := judges call stands.mem served.waiting accepted
      simp only [answer, served.waiting, Bool.not_true, Bool.false_eq_true, if_false, served.slot]
        at judgement
      cases reply with
      | some response => exact .answered rfl response rfl (gone _ judgement)
      | none =>
          by_cases late : call.deadline ≤ session.now
          · exact .late rfl rfl late (gone _ (judgement.trans (if_pos late)))
          · have spared := judgement.trans (if_neg late)
            exact .stands (Nat.lt_of_not_le late) (fun _ => rfl)
              (served.keeps (ended.keeps call stands.mem spared))

/-! ## What is gone stays gone -/

theorem Gone.settle (sound : session.Sound) (gone : Gone number results session) :
    Gone number results session.settle := by
  obtain ⟨verdict, ended, _⟩ := endsWhere_settle sound
  have missed := ended.misses number gone.absent
  exact gone.misses ⟨missed.absent, missed.outcomes⟩

theorem Act.gone (act : Act session next later) (sound : session.Sound)
    (few : later.callCount < 2 ^ 64) (old : number < session.callCount)
    (gone : Gone number results session) : Gone number results later := by
  cases act with
  | pass passive quiet => exact gone.misses (quiet.misses gone.absent)
  | turnAway method params terms correlator failure =>
      have older : session.callCount ≠ number := Ne.symm (Nat.ne_of_lt old)
      exact ⟨gone.absent, (outcomes_record_ended _ _ older).trans gone.outcomes⟩
  | start method params terms issue issued =>
      rw [callCount_enroll] at few
      rw [enroll_eq sound few issued]
      refine ⟨?_, gone.outcomes⟩
      intro call member
      rcases List.mem_append.mp member with older | new
      · exact gone.absent call older
      · rw [List.mem_singleton.mp new]
        have same : issue.number = session.callCount := (number_of_issue? issued).1
        exact Ne.symm (Nat.ne_of_lt (Nat.lt_of_lt_of_eq old same.symm))
  | leave left =>
      unfold abandonCall
      split
      · exact gone.misses (Misses.dismiss gone.absent _)
      · exact gone
  | cancel token =>
      have missed := (endsWhere_cancel sound token).misses number gone.absent
      exact gone.misses ⟨missed.absent, missed.outcomes⟩
  | hear => exact ⟨gone.absent, gone.outcomes⟩
  | close opened =>
      obtain ⟨_, ended, _⟩ := endsWhere_close sound opened
      exact gone.misses (ended.misses number gone.absent)

theorem Gone.step (sound : session.Sound) (few : (session.step next).2.callCount < 2 ^ 64)
    (old : number < session.callCount) (gone : Gone number results session) :
    Gone number results (session.step next).2 :=
  ((session.act_cases next).gone sound (session.callCount_step next ▸ few) old gone).settle
    (sound.act few)

theorem lt_callCount_step (next : Step) (old : number < session.callCount) :
    number < (session.step next).2.callCount :=
  Nat.lt_of_lt_of_le old (session.callCount_run_le [next])

theorem Gone.run {steps : List Step} (sound : session.Sound)
    (few : (session.run steps).callCount < 2 ^ 64) (old : number < session.callCount)
    (gone : Gone number results session) : Gone number results (session.run steps) := by
  induction steps generalizing session with
  | nil => exact gone
  | cons next steps ih =>
      have early := Nat.lt_of_le_of_lt (callCount_run_le _ steps) few
      exact ih (sound.step early) few (lt_callCount_step next old) (gone.step sound early old)

/-- Only letters of calls in progress are admitted. -/
theorem Sound.unadmitted (sound : session.Sound) (absent : session.Absent number) :
    number ∉ (session.outbound.settle session.writeTerms).1.filterMap Effect.admitted? := by
  intro admitted
  have waits : number ∈ session.outbound.waiting.map Letter.call := by
    rw [(Outbound.turns_settle session.writeTerms session.outbound).split]
    exact List.mem_append_left _ admitted
  obtain ⟨letter, waiting, rfl⟩ := List.mem_map.mp waits
  obtain ⟨owner, member, same⟩ := sound.waiters letter waiting
  exact absent owner member same

/-- The letter of a call that is gone does not enter the queue any more. -/
theorem Gone.not_mem_admissions {steps : List Step} (sound : session.Sound)
    (few : (session.run steps).callCount < 2 ^ 64) (old : number < session.callCount)
    (gone : Gone number results session) : number ∉ session.admissions steps := by
  induction steps generalizing session with
  | nil => exact List.not_mem_nil
  | cons next steps ih =>
      have early := Nat.lt_of_le_of_lt (callCount_run_le _ steps) few
      have later := ih (sound.step early) few (lt_callCount_step next old)
        (gone.step sound early old)
      have acted :=
        (session.act_cases next).gone sound (session.callCount_step next ▸ early) old gone
      intro member
      rcases List.mem_append.mp member with now | rest
      · exact (sound.act early).unadmitted acted.absent now
      · exact later rest

/-! ## A step -/

inductive Course (call : Call) (isQueued : Bool) (reply : Option Response) (session : Session)
    (next : Step) (later : Session) : Prop
  | cancelled (cancels : next.cancels call.token = true)
      (gone : Gone call.number [.error (.cancelled call.method)] later)
  | abandoned (abandons : next.abandons call.number = true) (gone : Gone call.number [] later)
  | turned (uncancelled : next.cancels call.token = false)
      (unabandoned : next.abandons call.number = false)
      (waits : (isQueued || (session.admits next).contains call.number) = false)
      (result : Except Failure Response) (away : TurnedAway call later.now result)
      (gone : Gone call.number [result] later)
  | answered (uncancelled : next.cancels call.token = false)
      (unabandoned : next.abandons call.number = false)
      (queued : (isQueued || (session.admits next).contains call.number) = true)
      (response : Response) (replied : reply.or (session.reply? call.id next) = some response)
      (gone : Gone call.number [.ok response] later)
  | late (uncancelled : next.cancels call.token = false)
      (unabandoned : next.abandons call.number = false)
      (queued : (isQueued || (session.admits next).contains call.number) = true)
      (unreplied : reply.or (session.reply? call.id next) = none)
      (late : call.deadline ≤ later.now)
      (gone : Gone call.number [.error (.timeout call.method call.limit)] later)
  | stands (uncancelled : next.cancels call.token = false)
      (unabandoned : next.abandons call.number = false)
      (early : later.now < call.deadline)
      (patient : (isQueued || (session.admits next).contains call.number) = true →
        reply.or (session.reply? call.id next) = none)
      (stands : Stands call (isQueued || (session.admits next).contains call.number)
        (reply.or (session.reply? call.id next)) later)

/-- From what acting does to a call to what the whole step does. -/
theorem Acted.course (acted : Acted call isQueued reply session next (session.act next).2)
    (sound : (session.act next).2.Sound) :
    Course call isQueued reply session next (session.step next).2 := by
  cases acted with
  | cancelled cancels gone => exact .cancelled cancels (gone.settle sound)
  | abandoned abandons gone => exact .abandoned abandons (gone.settle sound)
  | turned uncancelled unabandoned waits gone =>
      refine .turned uncancelled unabandoned ?_ _ .closed (gone.settle sound)
      rw [waits, Bool.false_or]
      exact Bool.eq_false_iff.mpr fun admitted =>
        sound.unadmitted gone.absent (List.contains_iff_mem.mp admitted)
  | stands uncancelled unabandoned stands =>
      cases stands.settle sound with
      | turned waits result away gone =>
          exact .turned uncancelled unabandoned waits result ((now_settle _).symm ▸ away) gone
      | answered queued response replied gone =>
          exact .answered uncancelled unabandoned queued response replied gone
      | late queued unreplied late gone =>
          exact .late uncancelled unabandoned queued unreplied ((now_settle _).symm ▸ late) gone
      | stands early patient stands =>
          exact .stands uncancelled unabandoned ((now_settle _).symm ▸ early) patient stands

theorem Stands.step (sound : session.Sound) (few : (session.step next).2.callCount < 2 ^ 64)
    (stands : Stands call isQueued reply session) :
    Course call isQueued reply session next (session.step next).2 :=
  ((session.act_cases next).acted sound (session.callCount_step next ▸ few) stands).course
    (sound.act few)

theorem Act.started {issue : Issue} (act : Act session next later) (sound : session.Sound)
    (few : later.callCount < 2 ^ 64) (issued : session.issue? next = some issue) :
    Acted (issue.call session.correlator.slots.length) false none session next later := by
  cases act with
  | pass passive =>
      rw [passive.unissued] at issued
      cases issued
  | turnAway method params terms correlator failure _ unissued =>
      rw [unissued] at issued
      cases issued
  | start method params terms other starts =>
      obtain rfl : other = issue := Option.some.inj (starts.symm.trans issued)
      obtain ⟨number, id⟩ := number_of_issue? starts
      rw [callCount_enroll] at few
      rw [enroll_eq sound few starts]
      refine .of_stands rfl rfl rfl ⟨?_, ?_, ?_, ?_⟩
      · exact List.mem_append_right _ (List.mem_singleton.mpr rfl)
      · have own : (other.letter.call == (other.call session.correlator.slots.length).number) =
            true := beq_self_eq_true _
        rw [outbound_withIssued, isWaiting_post, own]
        exact Bool.or_true _
      · rw [correlator_withIssued, id]
        exact Correlator.slot_register_self (sound.accounts.find?_nextId few)
      · exact sound.fresh _ (Nat.le_of_eq number.symm)
  | leave | cancel | hear | close => cases issued

/-- The step that starts a call is the first of its course. -/
theorem course_of_issue {issue : Issue} (sound : session.Sound)
    (few : (session.step next).2.callCount < 2 ^ 64)
    (issued : session.issue? next = some issue) :
    Course (issue.call session.correlator.slots.length) false none session next
      (session.step next).2 :=
  ((session.act_cases next).started sound (session.callCount_step next ▸ few) issued).course
    (sound.act few)

end Session

end ServerManagement
