import Mathlib.Data.List.Sort
import ServerManagement.Client.Exchange
import ServerManagement.Proofs.Session.Transmission

/-!
Exchanges as they are performed on a session, whatever else happens to it: each call is made when the
one before it has ended, and what goes out for it is a letter made of its method and its parameters.
-/

set_option autoImplicit false

namespace ServerManagement

open Session (Step)
open Wire (Decoder)

/-- A call that an exchange has made, by its number, with its outcome once it has ended. -/
structure Turn where
  number : Nat
  method : String
  params : Params
  outcome : Option (Except Failure Response)

namespace Session

variable {session start : Session} {steps : List Step} {method other : String}
  {params others : Params} {terms more : CallTerms} {earlier sooner later rest : List Step}
  {letter : Letter} {turns : List Turn}

theorem callCount_lt_run_call (session : Session) (method : String) (params : Params)
    (terms : CallTerms) (later : List Step) :
    session.callCount < (session.run (.call method params terms :: later)).callCount := by
  refine Nat.lt_of_lt_of_le ?_ (callCount_run_le _ later)
  rw [callCount_step_eq]
  exact Nat.lt_succ_self _

/-- The number of a call tells its step. -/
theorem call_eq_of_callCount
    (split : earlier ++ .call method params terms :: later =
      sooner ++ .call other others more :: rest)
    (number : (session.run earlier).callCount = (session.run sooner).callCount) :
    method = other ∧ params = others := by
  -- Were one of the calls made in front of the other, the other would have a higher number.
  have apart {front back : List Step} {method : String} {params : Params} {terms : CallTerms} :
      (session.run front).callCount <
        (session.run (front ++ .call method params terms :: back)).callCount := by
    rw [run_append]
    exact callCount_lt_run_call ..
  rcases List.append_eq_append_iff.mp split with ⟨gap, rfl, tail⟩ | ⟨gap, rfl, tail⟩
  · cases gap with
    | nil =>
        obtain ⟨rfl, rfl, _⟩ := Step.call.inj (List.cons.inj tail).1
        exact ⟨rfl, rfl⟩
    | cons first gap =>
        obtain ⟨rfl, _⟩ := List.cons.inj tail
        exact absurd number (Nat.ne_of_lt apart)
  · cases gap with
    | nil =>
        obtain ⟨rfl, rfl, _⟩ := Step.call.inj (List.cons.inj tail).1
        exact ⟨rfl, rfl⟩
    | cons first gap =>
        obtain ⟨rfl, _⟩ := List.cons.inj tail
        exact absurd number.symm (Nat.ne_of_lt apart)

/-! ## Letters -/

/-- The letters that the writer puts on the line for some calls. -/
def lettersFor (session : Session) (turns : List Turn) (steps : List Step) : List Letter :=
  (session.transmissions steps).filter fun letter => turns.any (·.number == letter.call)

theorem mem_lettersFor_iff :
    letter ∈ start.lettersFor turns steps ↔
      letter ∈ start.transmissions steps ∧ ∃ turn ∈ turns, turn.number = letter.call := by
  simp [lettersFor]

theorem transmissions_sublist_issues (flowing : start.Flowing)
    (blank : start.outbound.unwritten = []) (steps : List Step) :
    (start.transmissions steps).Sublist ((start.issues steps).map Issue.letter) := by
  have written := (List.sublist_append_left _ _).trans (run_unwritten flowing steps)
  rwa [blank, List.nil_append] at written

/-- The letter that is put on the line for a call is made of what the call asks for. -/
theorem request_of_transmitted (flowing : start.Flowing) (blank : start.outbound.unwritten = [])
    (sent : letter ∈ start.transmissions (earlier ++ .call method params terms :: later))
    (number : (start.run earlier).callCount = letter.call) :
    ∃ id, Request.create id method params = .ok letter.request := by
  obtain ⟨issue, issued, rfl⟩ :=
    List.mem_map.mp ((transmissions_sublist_issues flowing blank _).subset sent)
  obtain ⟨sooner, other, others, more, rest, split, counted, created⟩ :=
    request_of_mem_issues issued
  obtain ⟨rfl, rfl⟩ := call_eq_of_callCount split (number.trans counted)
  exact ⟨_, created⟩

theorem transmissions_ascending (flowing : start.Flowing) (blank : start.outbound.unwritten = [])
    (steps : List Step) :
    ((start.transmissions steps).map Letter.call).Pairwise (· < ·) := by
  have ascending : ((start.issues steps).map Issue.number).Pairwise (· < ·) :=
    List.pairwise_map.mpr (start.issues_numbered steps).2
  refine ascending.sublist ?_
  have same : (start.issues steps).map Issue.number =
      ((start.issues steps).map Issue.letter).map Letter.call := by
    rw [List.map_map]
    rfl
  exact same ▸ (transmissions_sublist_issues flowing blank steps).map Letter.call

end Session

namespace Exchange

variable {ρ : Type} {limit : Nat} {terms : CallTerms} {exchange : Exchange ρ limit}
  {session start : Session} {before steps : List Step} {turns : List Turn} {result : Option ρ}
  {letter : Letter} {turn : Turn}

/-- An exchange is performed on a session in some steps, with the calls that it makes and the result
that it comes to. Its first call is the first step. When that has ended, perhaps some steps later, it
goes on with the outcome; until then it waits and has no result. All other steps are arbitrary. -/
inductive Performs {ρ : Type} (terms : CallTerms) :
    {limit : Nat} → Exchange ρ limit → Session → List Step → List Turn → Option ρ → Prop
  | done {limit : Nat} {result : ρ} {session : Session} {steps : List Step} :
      Performs terms (.done result : Exchange ρ limit) session steps [] (some result)
  | waiting {limit number : Nat} {method : String} {params : Params}
      {next : Except Failure Response → Exchange ρ limit} {session : Session}
      {meanwhile : List Step} (counted : session.callCount = number)
      (unanswered : (session.run (.call method params terms :: meanwhile)).outcomes number = []) :
      Performs terms (.call method params next) session (.call method params terms :: meanwhile)
        [⟨number, method, params, none⟩] none
  | answered {limit number : Nat} {method : String} {params : Params}
      {next : Except Failure Response → Exchange ρ limit} {session : Session}
      {meanwhile later : List Step} {outcome : Except Failure Response} {turns : List Turn}
      {result : Option ρ} (counted : session.callCount = number)
      (ended : ((session.run (.call method params terms :: meanwhile)).outcomes number).head? =
        some outcome)
      (rest : Performs terms (next outcome)
        (session.run (.call method params terms :: meanwhile)) later turns result) :
      Performs terms (.call method params next) session
        (.call method params terms :: meanwhile ++ later)
        (⟨number, method, params, some outcome⟩ :: turns) result

/-- Whatever else is to happen to a session, an exchange is performed in it. -/
theorem exists_performs (terms : CallTerms) (exchange : Exchange ρ limit) (session : Session)
    (others : List Step) :
    ∃ steps turns result, exchange.Performs terms session steps turns result ∧
      others.Sublist steps := by
  induction exchange generalizing session others with
  | done result => exact ⟨others, [], some result, .done, .refl others⟩
  | call method params next ih =>
      -- All that happens otherwise happens during the first call; the exchange goes on if that is
      -- enough to end it.
      cases found : (session.run (.call method params terms :: others)).outcomes
          session.callCount with
      | nil => exact ⟨_, _, none, .waiting rfl found, List.sublist_cons_self ..⟩
      | cons outcome more =>
          obtain ⟨later, turns, result, performs, _⟩ := ih outcome
            (session.run (.call method params terms :: others)) []
          refine ⟨_, _, result, .answered rfl (by rw [found]; rfl) performs, ?_⟩
          exact (List.sublist_append_left others later).cons _

/-- Each turn is the step of a call, at a place where as many calls have been made as its number
says. -/
theorem Performs.made (performs : exchange.Performs terms session steps turns result)
    (member : turn ∈ turns) :
    ∃ earlier later, steps = earlier ++ .call turn.method turn.params terms :: later ∧
      (session.run earlier).callCount = turn.number := by
  induction performs with
  | done => exact absurd member List.not_mem_nil
  | waiting counted =>
      obtain rfl := List.mem_singleton.mp member
      exact ⟨[], _, rfl, counted⟩
  | @answered _ _ method params _ _ meanwhile _ _ _ _ counted _ _ ih =>
      rcases List.mem_cons.mp member with rfl | member
      · exact ⟨[], _, rfl, counted⟩
      · obtain ⟨earlier, later, rfl, number⟩ := ih member
        refine ⟨.call method params terms :: meanwhile ++ earlier, later, by simp, ?_⟩
        rw [Session.run_append, number]

/-- An exchange of one call makes that call and has its outcome, decoded, as the result. -/
theorem Performs.single {α : Type} {method : String} {params : Params} {decoder : Decoder α}
    {outcome : Option (Except Failure α)}
    (performs : (Exchange.single method params decoder).Performs terms session steps turns outcome) :
    ∃ turn, turns = [turn] ∧ turn.method = method ∧ turn.params = params ∧
      outcome = turn.outcome.map (decodeOutcome decoder) := by
  cases performs with
  | waiting => exact ⟨_, rfl, rfl, rfl, rfl⟩
  | answered _ _ rest =>
      cases rest with
      | done => exact ⟨_, rfl, rfl, rfl, rfl⟩

theorem Performs.number_le (performs : exchange.Performs terms session steps turns result)
    (member : turn ∈ turns) : session.callCount ≤ turn.number := by
  obtain ⟨earlier, _, _, number⟩ := performs.made member
  exact number ▸ session.callCount_run_le earlier

theorem Performs.ascending (performs : exchange.Performs terms session steps turns result) :
    (turns.map Turn.number).Pairwise (· < ·) := by
  induction performs with
  | done => exact .nil
  | waiting => exact List.pairwise_singleton ..
  | @answered _ _ _ _ _ session _ _ _ _ _ counted _ rest ih =>
      refine List.pairwise_cons.mpr ⟨fun number member => ?_, ih⟩
      obtain ⟨turn, made, rfl⟩ := List.mem_map.mp member
      exact Nat.lt_of_lt_of_le (counted ▸ session.callCount_lt_run_call ..) (rest.number_le made)

/-- What is put on the line for a call of an exchange is a letter made of the method and of the
parameters of that call. -/
theorem Performs.request_of_letter (flowing : start.Flowing)
    (blank : start.outbound.unwritten = [])
    (performs : exchange.Performs terms (start.run before) steps turns result)
    (member : turn ∈ turns) (sent : letter ∈ start.transmissions (before ++ steps))
    (same : turn.number = letter.call) :
    ∃ id, Request.create id turn.method turn.params = .ok letter.request := by
  obtain ⟨earlier, later, rfl, number⟩ := performs.made member
  rw [← List.append_assoc] at sent
  refine Session.request_of_transmitted flowing blank sent ?_
  rw [Session.run_append, number, same]

/-- Letters go out in the order of the calls, at most one for each. -/
theorem Performs.letters_in_order (flowing : start.Flowing)
    (blank : start.outbound.unwritten = [])
    (performs : exchange.Performs terms (start.run before) steps turns result) :
    ((start.lettersFor turns (before ++ steps)).map Letter.call).Sublist
      (turns.map Turn.number) := by
  have ascending : ((start.lettersFor turns (before ++ steps)).map Letter.call).Pairwise (· < ·) :=
    (Session.transmissions_ascending flowing blank _).sublist (List.filter_sublist.map _)
  refine List.sublist_of_subperm_of_pairwise ?_ ascending performs.ascending
  refine List.subperm_of_subset (ascending.imp Nat.ne_of_lt) fun number member => ?_
  obtain ⟨letter, sent, rfl⟩ := List.mem_map.mp member
  obtain ⟨_, turn, called, same⟩ := Session.mem_lettersFor_iff.mp sent
  exact same ▸ List.mem_map_of_mem called

end Exchange

end ServerManagement
