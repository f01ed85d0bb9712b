import ServerManagement.Session.Step

/-!
Sessions as seen from their steps: which calls were issued, which identifiers were drawn, which
letters entered the queue and which responses were heard.
-/

set_option autoImplicit false

namespace ServerManagement

/-- A call that passed the checks made when it starts. -/
structure Issue where
  letter : Letter
  limit : Nat
  deadline : Nat
  token : Option Token
deriving DecidableEq

namespace Issue

def number (issue : Issue) : Nat := issue.letter.call

def id (issue : Issue) : UInt64 := issue.letter.request.id

def method (issue : Issue) : String := issue.letter.request.method

/-- The call in progress, when it holds a ticket. -/
def call (issue : Issue) (ticket : Nat) : Call :=
  ⟨issue.number, issue.id, issue.method, ticket, issue.limit, issue.deadline, issue.token⟩

end Issue

def Arrival.letter? : Arrival → Option Letter
  | .letter arrived => some arrived
  | .close => none

def Effect.admitted? : Effect → Option Nat
  | .admitted number => some number
  | .arrived _ | .logged _ | .refused _ => none

def Effect.refused? : Effect → Option Nat
  | .refused number => some number
  | .arrived _ | .logged _ | .admitted _ => none

namespace Session

def Step.abandons (number : Nat) : Step → Bool
  | .abandonCall other => other == number
  | _ => false

def Step.cancels (token : Option Token) : Step → Bool
  | .cancel other => token == some other
  | _ => false

def outcomes (session : Session) (number : Nat) : List (Except Failure Response) :=
  session.history.filterMap (Occurrence.outcome? number)

/-- The letters that have reached the peer, in the order in which it reads them. -/
def delivered (session : Session) : List Letter :=
  session.history.filterMap fun occurrence => occurrence.arrival?.bind Arrival.letter?

/-- The call that a step starts, if it passes the checks. It is given the time that its caller asks
for, but at most the connection's limit at that moment. -/
def issue? (session : Session) : Step → Option Issue
  | .call method params terms =>
    if session.isClosed then none
    else
      match Request.create session.correlator.nextId.1 method params with
      | .error _ => none
      | .ok request =>
        if terms.token.any session.isCancelled then none
        else
          some ⟨⟨session.callCount, request⟩, session.timeFor terms,
            session.now + session.timeFor terms, terms.token⟩
  | _ => none

/-- The identifier that a step draws. Calls that fail a check after the first draw one too. -/
def draw? (session : Session) : Step → Option UInt64
  | .call _ _ _ => if session.isClosed then none else some session.correlator.nextId.1
  | _ => none

def heard? (session : Session) : Step → Option Response
  | .receive (.data frame) =>
    if session.reader = .running then
      match decodeFrame frame with
      | .ok (.response response) => some response
      | .ok (.notification _) | .error _ => none
    else none
  | _ => none

/-- The response with exactly the identifier that the reader deals with in a step. -/
def reply? (session : Session) (id : UInt64) (next : Step) : Option Response :=
  (session.heard? next).filter fun response => response.id == some id

def admits (session : Session) (next : Step) : List Nat :=
  let acted := (session.act next).2
  (acted.outbound.settle acted.writeTerms).1.filterMap Effect.admitted?

/-- What is observed at each step, which may depend on the steps that follow. -/
def along {α : Type} (observe : Session → Step → List Step → List α) (session : Session) :
    List Step → List α
  | [] => []
  | next :: steps => observe session next steps ++ along observe (session.step next).2 steps

def issues (session : Session) : List Step → List Issue :=
  session.along fun session next _ => (session.issue? next).toList

def drawn (session : Session) : List Step → List UInt64 :=
  session.along fun session next _ => (session.draw? next).toList

/-- The calls whose letters entered the queue, in order. -/
def admissions (session : Session) : List Step → List Nat :=
  session.along fun session next _ => session.admits next

def heard (session : Session) : List Step → List Response :=
  session.along fun session next _ => (session.heard? next).toList

variable {session : Session} {next : Step} {steps : List Step}

@[simp] theorem run_nil (session : Session) : session.run [] = session := rfl

@[simp] theorem run_cons (session : Session) (next : Step) (steps : List Step) :
    session.run (next :: steps) = (session.step next).2.run steps := rfl

theorem run_append (session : Session) (before after : List Step) :
    session.run (before ++ after) = (session.run before).run after :=
  List.foldl_append ..

theorem step_eq_settle (session : Session) (next : Step) :
    (session.step next).2 = (session.act next).2.settle := rfl

/-- What every step preserves holds after every run. -/
theorem run_invariant {holds : Session → Prop}
    (preserved : ∀ session next, holds session → holds (session.step next).2)
    (start : holds session) (steps : List Step) : holds (session.run steps) := by
  induction steps generalizing session with
  | nil => exact start
  | cons next steps ih => exact ih (preserved session next start)

theorem mem_along_iff {α : Type} {observe : Session → Step → List Step → List α} {seen : α} :
    seen ∈ session.along observe steps ↔
      ∃ before next after, steps = before ++ next :: after ∧
        seen ∈ observe (session.run before) next after := by
  induction steps generalizing session with
  | nil => simp [along]
  | cons first steps ih =>
      rw [along, List.mem_append, ih]
      constructor
      · rintro (here | ⟨before, next, after, rfl, later⟩)
        · exact ⟨[], first, steps, rfl, here⟩
        · exact ⟨first :: before, next, after, rfl, later⟩
      · rintro ⟨before, next, after, split, observed⟩
        cases before with
        | nil =>
            obtain ⟨rfl, rfl⟩ := List.cons.inj split
            exact .inl observed
        | cons head before =>
            obtain ⟨rfl, rfl⟩ := List.cons.inj split
            exact .inr ⟨before, next, after, rfl, observed⟩

theorem admissions_append (session : Session) (before after : List Step) :
    session.admissions (before ++ after) =
      session.admissions before ++ (session.run before).admissions after := by
  induction before generalizing session with
  | nil => rfl
  | cons next before ih =>
      have rest := ih (session.step next).2
      simp only [admissions] at rest
      simp only [admissions, List.cons_append, along, rest, List.append_assoc, run_cons]

theorem along_sublist {α : Type} {observe glimpse : Session → Step → List Step → List α}
    (fewer : ∀ session next steps,
      (glimpse session next steps).Sublist (observe session next steps))
    (session : Session) (steps : List Step) :
    (session.along glimpse steps).Sublist (session.along observe steps) := by
  induction steps generalizing session with
  | nil => exact .slnil
  | cons next steps ih => exact (fewer session next steps).append (ih _)

end Session

end ServerManagement
