import ServerManagement.Correlation.Basic
import ServerManagement.Proofs.DirectoryProperties

/-! What the operations of the correlator do to its entries and to its slots. -/

set_option autoImplicit false

namespace ServerManagement

namespace Correlator

variable {correlator : Correlator} {id : UInt64} {ticket : Nat}

theorem slot_set (slots : List Slot) (lastId : UInt64) (entries : Directory UInt64 Nat)
    (ticket other : Nat) (slot : Slot) (present : ticket < slots.length) :
    Correlator.slot ⟨lastId, entries, slots.set ticket slot⟩ other =
      if other = ticket then slot else Correlator.slot ⟨lastId, entries, slots⟩ other := by
  simp only [Correlator.slot, List.getD_eq_getElem?_getD, List.getElem?_set]
  by_cases same : other = ticket
  · subst same
    simp [present]
  · simp [same, Ne.symm same]

theorem register_of_unlisted (unlisted : correlator.entries.find? id = none) :
    correlator.register id =
      (.fresh correlator.slots.length,
        { correlator with
          entries := correlator.entries.insert id correlator.slots.length
          slots := correlator.slots ++ [.awaiting] }) := by
  simp [register, unlisted]

theorem find?_register (correlator : Correlator) (id other : UInt64) :
    (correlator.register id).2.entries.find? other =
      if other = id then some correlator.slots.length else correlator.entries.find? other := by
  rw [← Directory.find?_insert]
  unfold register
  split <;> rfl

theorem slot_register_of_lt (unlisted : correlator.entries.find? id = none)
    (present : ticket < correlator.slots.length) :
    (correlator.register id).2.slot ticket = correlator.slot ticket := by
  rw [register_of_unlisted unlisted]
  simp [slot, List.getD_eq_getElem?_getD, List.getElem?_append_left present]

theorem slot_register_self (unlisted : correlator.entries.find? id = none) :
    (correlator.register id).2.slot correlator.slots.length = .awaiting := by
  rw [register_of_unlisted unlisted]
  simp [slot]

theorem resolve_of_unlisted {response : Response} (meant : response.id = some id)
    (unlisted : correlator.entries.find? id = none) :
    correlator.resolve response = (false, correlator) := by
  simp [resolve, meant, unlisted]

theorem resolve_of_awaiting {response : Response} (meant : response.id = some id)
    (listed : correlator.entries.find? id = some ticket)
    (awaiting : correlator.slot ticket = .awaiting) :
    correlator.resolve response =
      (true,
        { correlator with
          entries := correlator.entries.erase id
          slots := correlator.slots.set ticket (.answered response) }) := by
  simp [resolve, meant, listed, awaiting]

/-! What a holder does who goes: withdraw the registration, then give the ticket up. -/

@[simp] theorem lastId_remove_abandon :
    ((correlator.remove id).2.abandon ticket).lastId = correlator.lastId := by
  simp only [remove]
  split <;> rfl

@[simp] theorem length_remove_abandon :
    ((correlator.remove id).2.abandon ticket).slots.length = correlator.slots.length := by
  simp only [remove, abandon]
  split <;> simp

theorem find?_remove_abandon (other : UInt64) :
    ((correlator.remove id).2.abandon ticket).entries.find? other =
      if other = id then none else correlator.entries.find? other := by
  simp only [remove, abandon]
  split
  · rename_i unlisted
    by_cases same : other = id
    · simp [same, unlisted]
    · simp [same]
  · exact Directory.find?_erase ..

/-- A holder who goes touches no slot but its own. -/
theorem slot_remove_abandon_of_ne {other : Nat}
    (leads : ∀ target, correlator.entries.find? id = some target → target = ticket)
    (differs : other ≠ ticket) :
    ((correlator.remove id).2.abandon ticket).slot other = correlator.slot other := by
  simp only [remove, abandon, slot, List.getD_eq_getElem?_getD]
  split
  · simp [Ne.symm differs]
  · rename_i target listed
    simp [leads target listed, Ne.symm differs]

/-- To take a response before going makes no difference to what is left. -/
theorem remove_abandon_take (id : UInt64) (ticket : Nat) :
    ((correlator.take ticket).2.remove id).2.abandon ticket =
      (correlator.remove id).2.abandon ticket := by
  unfold take
  split
  · rfl
  · simp only [remove, abandon]
    split
    · simp
    · rename_i target listed
      by_cases same : target = ticket
      · subst same
        simp only [Correlator.mk.injEq, true_and]
        apply List.ext_getElem?
        intro index
        by_cases here : target = index <;> simp [List.getElem?_set, here]
      · simp only [Correlator.mk.injEq, true_and]
        apply List.ext_getElem?
        intro index
        by_cases here : ticket = index
        · subst here
          simp [List.getElem?_set]
        · simp [List.getElem?_modify, here]
  · rfl
  · rfl

/-- A response that reaches the slot of a holder who then goes makes no difference either. -/
theorem remove_abandon_resolve {response : Response} (meant : response.id = some id)
    (listed : correlator.entries.find? id = some ticket)
    (awaiting : correlator.slot ticket = .awaiting) :
    (((correlator.resolve response).2.remove id).2.abandon ticket) =
      (correlator.remove id).2.abandon ticket := by
  rw [resolve_of_awaiting meant listed awaiting]
  simp only [remove, listed, Directory.find?_erase_self, abandon, Correlator.mk.injEq, true_and]
  apply List.ext_getElem?
  intro index
  by_cases here : ticket = index
  · subst here
    simp [List.getElem?_set]
  · simp [here]

end Correlator

end ServerManagement
