import ServerManagement.Proofs.Correlation.SlotProperties

/-!
Tables in which one entry is forgotten and its slot given up. What other holders do to the table is
the same with and without the entry.
-/

set_option autoImplicit false

namespace ServerManagement

namespace Correlator

/-- The table without an entry and with its slot given up. -/
def forget (correlator : Correlator) (id : UInt64) (ticket : Nat) : Correlator :=
  { correlator with
    entries := correlator.entries.erase id
    slots := correlator.slots.set ticket .abandoned }

def Pairs (correlator : Correlator) (id : UInt64) (ticket : Nat) : Prop :=
  ∀ other place, correlator.entries.find? other = some place → (other = id ↔ place = ticket)

variable {correlator later : Correlator} {id other : UInt64} {ticket place : Nat}

@[simp] theorem nextId_forget : (correlator.forget id ticket).nextId =
    (correlator.nextId.1, correlator.nextId.2.forget id ticket) := rfl

theorem slot_forget_of_ne (differs : place ≠ ticket) :
    (correlator.forget id ticket).slot place = correlator.slot place := by
  simp [forget, slot, List.getD_eq_getElem?_getD, Ne.symm differs]

theorem find?_forget_of_ne (differs : other ≠ id) :
    (correlator.forget id ticket).entries.find? other = correlator.entries.find? other :=
  correlator.entries.find?_erase_of_ne differs

theorem Pairs.fewer (pairs : correlator.Pairs id ticket)
    (fewer : ∀ other place, later.entries.find? other = some place →
      correlator.entries.find? other = some place) : later.Pairs id ticket :=
  fun other place found => pairs other place (fewer other place found)

theorem Pairs.remove_abandon (pairs : correlator.Pairs id ticket) (other : UInt64)
    (place : Nat) : ((correlator.remove other).2.abandon place).Pairs id ticket := by
  refine pairs.fewer fun key target found => ?_
  rw [find?_remove_abandon] at found
  split at found
  · cases found
  · exact found

theorem Pairs.register (pairs : correlator.Pairs id ticket)
    (placed : ticket < correlator.slots.length) (differs : other ≠ id) :
    (correlator.register other).2.Pairs id ticket := by
  intro key target found
  rw [find?_register] at found
  split at found
  · rename_i here
    cases found
    exact iff_of_false (here ▸ differs) (Ne.symm (Nat.ne_of_lt placed))
  · exact pairs key target found

theorem Pairs.resolve (pairs : correlator.Pairs id ticket) (response : Response) :
    (correlator.resolve response).2.Pairs id ticket := by
  refine pairs.fewer fun key target found => ?_
  unfold Correlator.resolve at found
  split at found
  · exact found
  · rename_i meant _
    split at found
    · exact found
    · have erased : (correlator.entries.erase meant).find? key = some target := by
        dsimp only at found
        split at found <;> exact found
      rw [Directory.find?_erase] at erased
      split at erased
      · cases erased
      · exact erased

theorem length_resolve (correlator : Correlator) (response : Response) :
    (correlator.resolve response).2.slots.length = correlator.slots.length := by
  unfold resolve
  split
  · rfl
  · split
    · rfl
    · dsimp only
      split <;> simp

/-- Places may be given up in any order. -/
theorem set_abandoned_comm (slots : List Slot) (ticket place : Nat) :
    (slots.set ticket .abandoned).set place .abandoned =
      (slots.set place .abandoned).set ticket .abandoned := by
  by_cases same : ticket = place
  · rw [same]
  · exact List.set_comm _ _ same

theorem modify_set_abandoned (slots : List Slot) (ticket target : Nat) :
    (slots.set ticket .abandoned).modify target Slot.unlisted =
      (slots.modify target Slot.unlisted).set ticket .abandoned := by
  apply List.ext_getElem?
  intro index
  by_cases first : ticket = index <;> by_cases second : target = index <;>
    simp [List.getElem?_set, first, second, Slot.unlisted]

/-- What another holder takes back when it goes is the same with and without the entry. -/
theorem remove_abandon_forget (differs : other ≠ id) :
    ((correlator.forget id ticket).remove other).2.abandon place =
      ((correlator.remove other).2.abandon place).forget id ticket := by
  simp only [remove, find?_forget_of_ne differs]
  cases correlator.entries.find? other with
  | none => simp only [forget, abandon, set_abandoned_comm]
  | some target =>
      simp only [forget, abandon, modify_set_abandoned, set_abandoned_comm _ ticket,
        Directory.erase_comm _ id]

/-- The holder of the entry takes nothing else back. -/
theorem forget_remove_abandon (pairs : correlator.Pairs id ticket) :
    ((correlator.remove id).2.abandon ticket).forget id ticket = correlator.forget id ticket := by
  have once : (correlator.entries.erase id).erase id = correlator.entries.erase id :=
    Directory.erase_of_absent (Directory.find?_erase_self ..)
  simp only [remove]
  cases found : correlator.entries.find? id with
  | none => simp only [forget, abandon, List.set_set]
  | some target =>
      obtain rfl := (pairs id target found).mp rfl
      have given : (correlator.slots.modify target Slot.unlisted).set target .abandoned =
          correlator.slots.set target .abandoned := by
        apply List.ext_getElem?
        intro index
        by_cases here : target = index <;> simp [List.getElem?_set, here]
      simp only [forget, abandon, once, List.set_set, given]

theorem resolve_forget (pairs : correlator.Pairs id ticket) (response : Response) :
    ((correlator.forget id ticket).resolve response).2 =
      (correlator.resolve response).2.forget id ticket := by
  cases meant : response.id with
  | none => simp only [resolve, meant]
  | some other =>
      by_cases same : other = id
      · subst same
        have gone : (correlator.forget other ticket).entries.find? other = none :=
          correlator.entries.find?_erase_self other
        rw [resolve_of_unlisted meant gone]
        have once : (correlator.entries.erase other).erase other =
            correlator.entries.erase other :=
          Directory.erase_of_absent (Directory.find?_erase_self ..)
        simp only [resolve, meant]
        cases found : correlator.entries.find? other with
        | none => rfl
        | some target =>
            obtain rfl := (pairs other target found).mp rfl
            dsimp only
            split <;> simp only [forget, once, List.set_set]
      · simp only [resolve, meant, find?_forget_of_ne same]
        cases found : correlator.entries.find? other with
        | none => rfl
        | some target =>
            have differs : target ≠ ticket := fun here => same ((pairs other target found).mpr here)
            dsimp only
            rw [slot_forget_of_ne differs]
            split
            · simp only [forget, Directory.erase_comm _ id, List.set_comm _ _ differs]
            · simp only [forget, Directory.erase_comm _ id]

theorem register_forget (placed : ticket < correlator.slots.length) (differs : other ≠ id)
    (unlisted : correlator.entries.find? other = none) :
    (correlator.forget id ticket).register other =
      ((correlator.register other).1, (correlator.register other).2.forget id ticket) := by
  have unlistedToo : (correlator.forget id ticket).entries.find? other = none :=
    (find?_forget_of_ne differs).trans unlisted
  rw [register_of_unlisted unlisted, register_of_unlisted unlistedToo]
  simp only [forget, List.length_set, List.set_append_left _ _ placed,
    Directory.erase_insert_of_ne _ _ differs]

end Correlator

end ServerManagement
