import Mathlib.Data.List.TakeWhile
import ServerManagement.Correlation.Named

/-!
Registrations as the operations tell of them. From the operations alone it can be said of every
registration whether its entry is still in the table, whether its receiver is still held, and which
response was the first that was resolved for it.
-/

set_option autoImplicit false

namespace ServerManagement

namespace NamedCorrelator

def run (state : NamedCorrelator) (steps : List Step) : NamedCorrelator :=
  steps.foldl (fun state next => (state.step next).2) state

namespace Step

/-- A response for the identifier is resolved, or the identifier is removed. -/
def settles (id : UInt64) : Step → Bool
  | .resolve response => response.id == some id
  | .remove other => other == id
  | .nextId | .register _ _ | .take _ | .drop _ => false

/-- The receiver that is held under the name goes, perhaps because another takes its place. -/
def surrenders (name : String) : Step → Bool
  | .register _ other | .drop other => other == name
  | .nextId | .resolve _ | .remove _ | .take _ => false

def takes (name : String) : Step → Bool
  | .take other => other == name
  | .nextId | .register _ _ | .resolve _ | .remove _ | .drop _ => false

def response? : Step → Option Response
  | .resolve response => some response
  | .nextId | .register _ _ | .remove _ | .take _ | .drop _ => none

end Step

/-- A registration, with the name under which its receiver is held at first and the operations that
came after it. -/
structure Registered where
  id : UInt64
  name : String
  later : List Step

def firstDelivery (id : UInt64) (name : String) : List Step → Option Response
  | [] => none
  | next :: steps =>
    if next.settles id then next.response?
    else if next.surrenders name then none
    else firstDelivery id name steps

namespace Registered

/-- Nothing has been resolved for the registration, and it was not removed. -/
def isListed (registered : Registered) : Bool :=
  !registered.later.any (Step.settles registered.id)

def isHeld (registered : Registered) : Bool :=
  !registered.later.any (Step.surrenders registered.name)

def life (registered : Registered) : List Step :=
  registered.later.takeWhile fun next => !next.surrenders registered.name

def delivery? (registered : Registered) : Option Response :=
  firstDelivery registered.id registered.name registered.later

/-- Someone looked at the receiver, while it was held, after the registration had left the table. -/
def isTaken (registered : Registered) : Bool :=
  (registered.life.dropWhile fun next => !next.settles registered.id).any
    (Step.takes registered.name)

/-- What the receiver gives to whom looks at it. -/
def receipt (registered : Registered) : Receipt Response :=
  if registered.isListed then .empty
  else
    match registered.delivery? with
    | some response => if registered.isTaken then .closed else .value response
    | none => .closed

def after (registered : Registered) (next : Step) : Registered :=
  { registered with later := registered.later ++ [next] }

variable {registered : Registered} {next : Step}

@[simp] theorem id_after : (registered.after next).id = registered.id := rfl

@[simp] theorem name_after : (registered.after next).name = registered.name := rfl

theorem isListed_after :
    (registered.after next).isListed = (registered.isListed && !next.settles registered.id) := by
  simp [isListed, after]

theorem isHeld_after :
    (registered.after next).isHeld = (registered.isHeld && !next.surrenders registered.name) := by
  simp [isHeld, after]

theorem not_surrenders_of_settles {id : UInt64} (settles : next.settles id = true)
    (name : String) : next.surrenders name = false := by
  cases next with
  | resolve | remove => rfl
  | nextId | register | take | drop => cases settles

theorem not_takes_of_settles {id : UInt64} (settles : next.settles id = true)
    (name : String) : next.takes name = false := by
  cases next with
  | resolve | remove => rfl
  | nextId | register | take | drop => cases settles

theorem not_takes_of_surrenders {name : String} (surrenders : next.surrenders name = true)
    (other : String) : next.takes other = false := by
  cases next with
  | register | drop => rfl
  | nextId | resolve | remove | take => cases surrenders

theorem not_surrenders_of_takes {name : String} (takes : next.takes name = true)
    (other : String) : next.surrenders other = false := by
  cases next with
  | take => rfl
  | nextId | register | resolve | remove | drop => cases takes

/-- Only an operation on a listed registration whose receiver is held can deliver. -/
theorem delivery?_after :
    (registered.after next).delivery? =
      if registered.isListed && registered.isHeld && next.settles registered.id then next.response?
      else registered.delivery? := by
  obtain ⟨id, name, later⟩ := registered
  simp only [delivery?, after, isListed, isHeld]
  induction later with
  | nil =>
      cases settles : next.settles id <;> simp [firstDelivery, settles]
  | cons first later ih =>
      cases settles : first.settles id with
      | true => simp [firstDelivery, settles]
      | false =>
          cases surrenders : first.surrenders name with
          | true => simp [firstDelivery, settles, surrenders]
          | false => simpa [firstDelivery, settles, surrenders] using ih

theorem delivery?_of_listed (listed : registered.isListed = true) : registered.delivery? = none := by
  obtain ⟨id, name, later⟩ := registered
  simp only [isListed, delivery?] at *
  induction later with
  | nil => rfl
  | cons first later ih =>
      simp only [List.any_cons, Bool.not_or, Bool.and_eq_true, Bool.not_eq_eq_eq_not,
        Bool.not_true] at listed ih
      simp only [firstDelivery, listed.1, Bool.false_eq_true, if_false]
      split
      · rfl
      · exact ih listed.2

theorem life_after :
    (registered.after next).life =
      if registered.isHeld && !next.surrenders registered.name then registered.life ++ [next]
      else registered.life := by
  obtain ⟨id, name, later⟩ := registered
  simp only [life, after, isHeld]
  induction later with
  | nil => cases surrenders : next.surrenders name <;> simp [surrenders]
  | cons first later ih =>
      cases surrenders : first.surrenders name with
      | true => simp [surrenders]
      | false =>
          simp only [List.cons_append, List.takeWhile_cons, surrenders, Bool.not_false, if_true, ih,
            List.any_cons, Bool.false_or]
          split <;> simp_all

/-- While the receiver is held, its life is all that came after the registration. -/
theorem life_of_held (held : registered.isHeld = true) : registered.life = registered.later := by
  refine List.takeWhile_eq_self_iff.mpr fun next member => ?_
  simp only [isHeld, Bool.not_eq_eq_eq_not, Bool.not_true, List.any_eq_false] at held
  simpa using held next member

theorem not_isTaken_of_listed (listed : registered.isListed = true) : registered.isTaken = false := by
  have settled : ∀ step ∈ registered.later, step.settles registered.id = false := by
    simpa [isListed] using listed
  have never : (registered.life.dropWhile fun next => !next.settles registered.id) = [] := by
    refine List.dropWhile_eq_nil_iff.mpr fun step member => ?_
    simp [settled step ((List.takeWhile_prefix _).subset member)]
  simp [isTaken, never]

theorem isTaken_after :
    (registered.after next).isTaken =
      (registered.isTaken ||
        registered.isHeld && !registered.isListed && next.takes registered.name) := by
  have life : (registered.after next).life = _ := life_after
  unfold isTaken
  rw [life, id_after, name_after]
  cases held : registered.isHeld with
  | false => simp
  | true =>
      cases surrenders : next.surrenders registered.name with
      | true => simp [not_takes_of_surrenders surrenders]
      | false =>
          simp only [Bool.not_false, Bool.and_self, if_true, Bool.true_and, List.dropWhile_append]
          have settled : (registered.life.dropWhile fun next => !next.settles registered.id).isEmpty =
              registered.isListed := by
            rw [life_of_held held, isListed, Bool.eq_iff_iff]
            simp [List.dropWhile_eq_nil_iff]
          rw [settled]
          cases listed : registered.isListed with
          | false => simp
          | true =>
              rw [listed, List.isEmpty_iff] at settled
              cases settles : next.settles registered.id with
              | true => simp [settled, settles, not_takes_of_settles settles]
              | false => simp [settled, settles]

end Registered

/-! ## All registrations -/

def registrations : List Step → List Registered
  | [] => []
  | .register id name :: steps => ⟨id, name, steps⟩ :: registrations steps
  | .nextId :: steps | .resolve _ :: steps | .remove _ :: steps | .take _ :: steps
  | .drop _ :: steps => registrations steps

def Step.registered? : Step → Option Registered
  | .register id name => some ⟨id, name, []⟩
  | .nextId | .resolve _ | .remove _ | .take _ | .drop _ => none

theorem registrations_snoc (steps : List Step) (next : Step) :
    registrations (steps ++ [next]) =
      (registrations steps).map (Registered.after · next) ++ next.registered?.toList := by
  induction steps with
  | nil => cases next <;> rfl
  | cons first steps ih =>
      cases first with
      | register id name =>
          rw [List.cons_append, registrations, registrations, ih]
          rfl
      | nextId | resolve | remove | take | drop => exact ih

/-- No identifier is registered while an entry for it is in the table. -/
def Proper (steps : List Step) : Prop :=
  ∀ before id name after, steps = before ++ .register id name :: after →
    ∀ registered ∈ registrations before, registered.isListed = true → registered.id ≠ id

def Step.isFresh (known : List Registered) : Step → Bool
  | .register id _ => known.all fun registered => !registered.isListed || registered.id != id
  | .nextId | .resolve _ | .remove _ | .take _ | .drop _ => true

theorem proper_iff {steps : List Step} :
    Proper steps ↔ ∀ place : Fin steps.length,
      steps[place].isFresh (registrations (steps.take place)) = true := by
  constructor
  · intro proper place
    cases made : steps[place] with
    | nextId | resolve | remove | take | drop => rfl
    | register id name =>
        have split : steps = steps.take place ++ .register id name :: steps.drop (place + 1) := by
          rw [← made, Fin.getElem_fin, List.getElem_cons_drop, List.take_append_drop]
        refine List.all_eq_true.mpr fun registered member => ?_
        cases listed : registered.isListed with
        | false => rfl
        | true =>
            simpa [listed] using proper _ id name _ split registered member listed
  · rintro fresh before id name after rfl registered member listed
    have here := fresh ⟨before.length, by simp⟩
    simp only [Fin.getElem_fin, List.getElem_append_right, Nat.le_refl, Nat.sub_self,
      List.getElem_cons_zero, List.take_left', Step.isFresh, List.all_eq_true] at here
    simpa [listed] using here registered member

instance (steps : List Step) : Decidable (Proper steps) := decidable_of_iff _ proper_iff.symm

theorem Proper.init {steps : List Step} {next : Step} (proper : Proper (steps ++ [next])) :
    Proper steps := by
  intro before id name after split
  refine proper before id name (after ++ [next]) ?_
  rw [split, List.append_assoc, List.cons_append]

theorem Proper.last {steps : List Step} {id : UInt64} {name : String}
    (proper : Proper (steps ++ [.register id name])) :
    ∀ registered ∈ registrations steps, registered.isListed = true → registered.id ≠ id :=
  proper steps id name [] rfl

end NamedCorrelator

end ServerManagement
