import ServerManagement.Proofs.Session.Accounts
import ServerManagement.Proofs.Session.Trace

/-!
The life of a call between two states of a session: it is kept as it is, it ends with a result, or
it is missing from both. Lives are composed from those of small moves.
-/

set_option autoImplicit false

namespace ServerManagement

namespace Session

/-- The calls in progress agree with the correlator, letters wait in the order of their calls, each
for a call in progress, and calls that have not been made have no results. -/
structure Sound (session : Session) : Prop where
  accounts : Accounts session.calls session.callCount session.correlator
  queuing : session.outbound.waiting.Pairwise fun letter other => letter.call < other.call
  waiters : ∀ letter ∈ session.outbound.waiting, ∃ call ∈ session.calls, call.number = letter.call
  fresh : ∀ number, session.callCount ≤ number → session.outcomes number = []

def Absent (number : Nat) (session : Session) : Prop :=
  ∀ call ∈ session.calls, call.number ≠ number

structure Quiet (session later : Session) : Prop where
  calls : later.calls = session.calls
  callCount : later.callCount = session.callCount
  correlator : later.correlator = session.correlator
  waiting : later.outbound.waiting = session.outbound.waiting
  outcomes : ∀ number, later.outcomes number = session.outcomes number

structure Keeps (call : Call) (session later : Session) : Prop where
  mem : call ∈ later.calls
  slot : later.correlator.slot call.ticket = session.correlator.slot call.ticket
  waiting : later.outbound.isWaiting call.number = session.outbound.isWaiting call.number
  outcomes : later.outcomes call.number = session.outcomes call.number

structure Ends (call : Call) (result : Except Failure Response) (session later : Session) :
    Prop where
  absent : later.Absent call.number
  outcomes : later.outcomes call.number = session.outcomes call.number ++ [result]

structure Misses (number : Nat) (session later : Session) : Prop where
  absent : later.Absent number
  outcomes : later.outcomes number = session.outcomes number

variable {session middle later : Session} {call : Call} {number : Nat}
  {result : Except Failure Response}

/-! ## Composition -/

theorem Quiet.refl (session : Session) : Quiet session session :=
  ⟨rfl, rfl, rfl, rfl, fun _ => rfl⟩

theorem Quiet.trans (first : Quiet session middle) (second : Quiet middle later) :
    Quiet session later where
  calls := second.calls.trans first.calls
  callCount := second.callCount.trans first.callCount
  correlator := second.correlator.trans first.correlator
  waiting := second.waiting.trans first.waiting
  outcomes number := (second.outcomes number).trans (first.outcomes number)

theorem Quiet.sound (quiet : Quiet session later) (sound : session.Sound) : later.Sound := by
  constructor
  · rw [quiet.calls, quiet.callCount, quiet.correlator]
    exact sound.accounts
  · rw [quiet.waiting]
    exact sound.queuing
  · rw [quiet.calls, quiet.waiting]
    exact sound.waiters
  · intro number unused
    rw [quiet.outcomes]
    exact sound.fresh number (quiet.callCount ▸ unused)

theorem Quiet.keeps (quiet : Quiet session later) (member : call ∈ session.calls) :
    Keeps call session later where
  mem := by rwa [quiet.calls]
  slot := by rw [quiet.correlator]
  waiting := by simp only [Outbound.isWaiting, quiet.waiting]
  outcomes := quiet.outcomes call.number

theorem Quiet.misses (quiet : Quiet session later) (absent : session.Absent number) :
    Misses number session later where
  absent := by
    intro call member
    rw [quiet.calls] at member
    exact absent call member
  outcomes := quiet.outcomes number

theorem Keeps.trans (first : Keeps call session middle) (second : Keeps call middle later) :
    Keeps call session later where
  mem := second.mem
  slot := second.slot.trans first.slot
  waiting := second.waiting.trans first.waiting
  outcomes := second.outcomes.trans first.outcomes

theorem Keeps.ends (first : Keeps call session middle) (second : Ends call result middle later) :
    Ends call result session later where
  absent := second.absent
  outcomes := by rw [second.outcomes, first.outcomes]

theorem Ends.misses (first : Ends call result session middle)
    (second : Misses call.number middle later) : Ends call result session later where
  absent := second.absent
  outcomes := by rw [second.outcomes, first.outcomes]

theorem Misses.trans (first : Misses number session middle) (second : Misses number middle later) :
    Misses number session later where
  absent := second.absent
  outcomes := second.outcomes.trans first.outcomes

/-! ## Recording -/

theorem outcomes_record (session : Session) (occurrence : Occurrence) (number : Nat) :
    (session.record occurrence).outcomes number =
      session.outcomes number ++ (occurrence.outcome? number).toList := by
  simp only [record, outcomes, List.filterMap_append, List.filterMap_cons, List.filterMap_nil]
  cases occurrence.outcome? number <;> rfl

theorem outcomes_record_ended {number other : Nat} (session : Session)
    (result : Except Failure Response) (differs : other ≠ number) :
    (session.record (.ended other result)).outcomes number = session.outcomes number := by
  rw [outcomes_record]
  simp only [Occurrence.outcome?, if_neg differs, Option.toList_none, List.append_nil]

theorem Quiet.record (session : Session) (occurrence : Occurrence)
    (silent : ∀ number, occurrence.outcome? number = none) :
    Quiet session (session.record occurrence) :=
  ⟨rfl, rfl, rfl, rfl, fun number => by simp [outcomes_record, silent]⟩

/-! ## One call goes -/

theorem isWaiting_withdraw (outbound : Outbound) {number other : Nat} (differs : number ≠ other) :
    (outbound.withdraw other).isWaiting number = outbound.isWaiting number := by
  simp only [Outbound.isWaiting, Outbound.withdraw, List.any_filter]
  congr 1
  funext letter
  by_cases same : letter.call = number
  · simp [same, differs]
  · simp [same]

theorem Sound.dismiss (sound : session.Sound) (member : call ∈ session.calls) :
    (session.dismiss call).Sound where
  accounts := sound.accounts.dismiss member
  queuing := sound.queuing.filter _
  waiters := by
    intro letter waits
    obtain ⟨waiting, apart⟩ := List.mem_filter.mp waits
    obtain ⟨other, otherMember, same⟩ := sound.waiters letter waiting
    exact ⟨other, List.mem_filter.mpr ⟨otherMember, by simpa [same] using apart⟩, same⟩
  fresh := sound.fresh

theorem absent_dismiss (session : Session) (call : Call) :
    (session.dismiss call).Absent call.number := by
  intro other member
  simpa using (List.mem_filter.mp member).2

theorem Keeps.dismiss (sound : session.Sound) {other : Call} (otherMember : other ∈ session.calls)
    (member : call ∈ session.calls) (differs : call.number ≠ other.number) :
    Keeps call session (session.dismiss other) where
  mem := List.mem_filter.mpr ⟨member, by simpa using differs⟩
  slot := sound.accounts.slot_dismiss otherMember member differs
  waiting := isWaiting_withdraw _ differs
  outcomes := rfl

theorem Misses.dismiss (absent : session.Absent number) (call : Call) :
    Misses number session (session.dismiss call) where
  absent := fun other member => absent other (List.mem_filter.mp member).1
  outcomes := rfl

theorem outcomes_finish (session : Session) (call : Call) (result : Except Failure Response)
    (number : Nat) :
    (session.finish call result).outcomes number =
      session.outcomes number ++ if call.number = number then [result] else [] := by
  rw [finish, outcomes_record]
  simp only [Occurrence.outcome?]
  split <;> rfl

theorem Sound.finish (sound : session.Sound) (member : call ∈ session.calls)
    (result : Except Failure Response) : (session.finish call result).Sound := by
  have dismissed := sound.dismiss member
  refine ⟨dismissed.accounts, dismissed.queuing, dismissed.waiters, ?_⟩
  intro number unused
  have old : call.number ≠ number :=
    Nat.ne_of_lt (Nat.lt_of_lt_of_le (sound.accounts.counted call member) unused)
  rw [outcomes_finish, if_neg old, List.append_nil]
  exact sound.fresh number unused

theorem Ends.finish (session : Session) (call : Call) (result : Except Failure Response) :
    Ends call result session (session.finish call result) where
  absent := session.absent_dismiss call
  outcomes := by simp [outcomes_finish]

theorem Keeps.finish (sound : session.Sound) {other : Call} (otherMember : other ∈ session.calls)
    (member : call ∈ session.calls) (differs : call.number ≠ other.number)
    (result : Except Failure Response) : Keeps call session (session.finish other result) :=
  have dismissed := Keeps.dismiss sound otherMember member differs
  ⟨dismissed.mem, dismissed.slot, dismissed.waiting, by
    rw [outcomes_finish, if_neg (Ne.symm differs), List.append_nil]⟩

theorem Misses.finish (absent : session.Absent number) (member : call ∈ session.calls)
    (result : Except Failure Response) : Misses number session (session.finish call result) :=
  ⟨(Misses.dismiss absent call).absent, by
    rw [outcomes_finish, if_neg (absent call member), List.append_nil]⟩

/-! ## Several calls end -/

structure EndsWhere (verdict : Call → Option (Except Failure Response))
    (session later : Session) : Prop where
  sound : later.Sound
  callCount : later.callCount = session.callCount
  origin : ∀ call ∈ later.calls, call ∈ session.calls
  keeps : ∀ call ∈ session.calls, verdict call = none → Keeps call session later
  ends : ∀ call ∈ session.calls, ∀ result, verdict call = some result →
    Ends call result session later
  misses : ∀ number, session.Absent number → Misses number session later

variable {verdict other : Call → Option (Except Failure Response)}

theorem EndsWhere.congr (ended : EndsWhere verdict session later)
    (same : ∀ call ∈ session.calls, verdict call = other call) :
    EndsWhere other session later :=
  { ended with
    keeps := fun call member spared => ended.keeps call member ((same call member).trans spared)
    ends := fun call member result judged =>
      ended.ends call member result ((same call member).trans judged) }

theorem EndsWhere.of_quiet (sound : session.Sound) (quiet : Quiet session later) :
    EndsWhere (fun _ => none) session later where
  sound := quiet.sound sound
  callCount := quiet.callCount
  origin := by simp [quiet.calls]
  keeps := fun _ member _ => quiet.keeps member
  ends := by simp
  misses := fun _ absent => quiet.misses absent

theorem EndsWhere.finish (sound : session.Sound) (member : call ∈ session.calls)
    (result : Except Failure Response) :
    EndsWhere (fun other => if other.number = call.number then some result else none) session
      (session.finish call result) where
  sound := sound.finish member result
  callCount := rfl
  origin := fun other kept => (List.mem_filter.mp kept).1
  keeps := by
    intro other otherMember spared
    have differs : other.number ≠ call.number := by simpa using spared
    exact Keeps.finish sound member otherMember differs result
  ends := by
    intro other otherMember given judged
    split at judged
    · rename_i same
      cases judged
      rw [sound.accounts.eq_of_number otherMember member same]
      exact Ends.finish session call result
    · cases judged
  misses := fun _ absent => Misses.finish absent member result

theorem EndsWhere.trans (first : EndsWhere verdict session middle)
    (second : EndsWhere other middle later) :
    EndsWhere (fun call => (verdict call).or (other call)) session later where
  sound := second.sound
  callCount := second.callCount.trans first.callCount
  origin := fun call kept => first.origin call (second.origin call kept)
  keeps := by
    intro call member spared
    obtain ⟨here, there⟩ := Option.or_eq_none_iff.mp spared
    have kept := first.keeps call member here
    exact kept.trans (second.keeps call kept.mem there)
  ends := by
    intro call member result judged
    cases here : verdict call with
    | some given =>
        obtain rfl : given = result := by simpa [here] using judged
        have ended := first.ends call member given here
        exact ended.misses (second.misses call.number ended.absent)
    | none =>
        have kept := first.keeps call member here
        exact kept.ends (second.ends call kept.mem result (by simpa [here] using judged))
  misses := by
    intro number absent
    have missed := first.misses number absent
    exact missed.trans (second.misses number missed.absent)

/-- A pass over calls in which each may end. The verdict on a call must not depend on which others
have ended before it in the pass. -/
theorem endsWhere_pass {move : Session → Call → Session}
    {judge : Session → Call → Option (Except Failure Response)}
    (moves : ∀ session call, move session call =
      match judge session call with
      | some result => session.finish call result
      | none => session)
    (stable : ∀ session : Session, session.Sound → ∀ gone ∈ session.calls,
      ∀ call ∈ session.calls, call.number ≠ gone.number → ∀ result,
      judge (session.finish gone result) call = judge session call)
    (sound : session.Sound) {calls : List Call} (included : ∀ call ∈ calls, call ∈ session.calls)
    (ascending : calls.Pairwise fun call other => call.number < other.number) :
    EndsWhere (fun call => if call ∈ calls then judge session call else none) session
      (calls.foldl move session) := by
  induction calls generalizing session with
  | nil => exact (EndsWhere.of_quiet sound (Quiet.refl session)).congr fun _ _ => by simp
  | cons head calls ih =>
      obtain ⟨below, ascending⟩ := List.pairwise_cons.mp ascending
      have headMember := included head (by simp)
      have tailMember : ∀ call ∈ calls, call ∈ session.calls ∧ call.number ≠ head.number :=
        fun call member =>
          ⟨included call (by simp [member]), Ne.symm (Nat.ne_of_lt (below call member))⟩
      rw [List.foldl_cons, moves]
      cases judged : judge session head with
      | none =>
          refine (ih sound (fun call member => (tailMember call member).1) ascending).congr ?_
          intro call _
          by_cases same : call = head
          · simp [same, judged]
          · simp [same]
      | some result =>
          have first := EndsWhere.finish sound headMember result
          -- Only the head goes, so the calls that are still to be visited are in progress.
          have kept : ∀ call ∈ calls, call ∈ (session.finish head result).calls := by
            intro call member
            obtain ⟨callMember, differs⟩ := tailMember call member
            exact (first.keeps call callMember (by simp [differs])).mem
          refine (first.trans (ih first.sound kept ascending)).congr fun call member => ?_
          by_cases same : call = head
          · simp [same, judged]
          · have differs : call.number ≠ head.number :=
              fun equal => same (sound.accounts.eq_of_number member headMember equal)
            simp [same, differs, stable session sound head headMember call member differs]

theorem endsWhere_foldl {move : Session → Call → Session}
    (judge : Session → Call → Option (Except Failure Response))
    (moves : ∀ session call, move session call =
      match judge session call with
      | some result => session.finish call result
      | none => session)
    (stable : ∀ session : Session, session.Sound → ∀ gone ∈ session.calls,
      ∀ call ∈ session.calls, call.number ≠ gone.number → ∀ result,
      judge (session.finish gone result) call = judge session call)
    (sound : session.Sound) :
    EndsWhere (judge session) session (session.calls.foldl move session) := by
  have pass := endsWhere_pass moves stable sound (fun _ member => member) sound.accounts.numbered
  exact pass.congr fun call member => if_pos member

end Session

end ServerManagement
