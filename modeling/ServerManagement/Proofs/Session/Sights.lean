import ServerManagement.Proofs.Session.Stillness

/-!
What can be seen of the steps of a session: the answer that each gets, what occurs in it, and how
many calls are pending after it. A step that changes nothing shows nothing.
-/

set_option autoImplicit false

namespace ServerManagement

namespace Session

structure Sight where
  answer : Answer
  news : List Occurrence
  pending : Nat

/-- What can be seen of a step that does nothing and answers nothing. -/
def Sight.silent (pending : Nat) : Sight := ⟨.done, [], pending⟩

def sight (session : Session) (next : Step) : Sight :=
  let (answer, later) := session.step next
  ⟨answer, later.history.drop session.history.length, later.pending⟩

def sights (session : Session) : List Step → List Sight :=
  session.along fun session next _ => [session.sight next]

variable {session : Session} {next : Step}

@[simp] theorem sights_nil (session : Session) : session.sights [] = [] := rfl

@[simp] theorem sights_cons (session : Session) (next : Step) (steps : List Step) :
    session.sights (next :: steps) =
      session.sight next :: (session.step next).2.sights steps := rfl

theorem sights_append (session : Session) (before after : List Step) :
    session.sights (before ++ after) =
      session.sights before ++ (session.run before).sights after := by
  induction before generalizing session with
  | nil => rfl
  | cons next before ih => simp [ih]

theorem step_answer (session : Session) (next : Step) :
    (session.step next).1 = (session.act next).1 := rfl

/-- A step that does nothing to a still session shows nothing but its answer. -/
theorem Still.sight_eq (still : session.Still) (unchanged : (session.act next).2 = session) :
    session.sight next = ⟨(session.act next).1, [], session.pending⟩ := by
  have same := still.step_eq unchanged
  unfold sight
  rw [← step_answer]
  generalize session.step next = stepped at same
  obtain ⟨answer, later⟩ := stepped
  dsimp only at same ⊢
  rw [same, List.drop_length]

end Session

end ServerManagement
