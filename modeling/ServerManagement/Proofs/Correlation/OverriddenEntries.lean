import Mathlib.Data.List.Nodup
import ServerManagement.Proofs.Correlation.SlotProperties

/-!
Tables in which entries have been overridden. A table to which identifiers were entered twice stands
beside the one that was spared this: each slot of the spared table has its place among those of the
other, where it is closed if its entry was overridden, and the entry leads to a slot of nobody.
-/

set_option autoImplicit false

namespace ServerManagement

/-! ## Slots -/

namespace Slot

def forsaken : Slot → Slot
  | .abandoned => .abandoned
  | .awaiting | .answered _ | .closed => .closed

structure Shows (lost : Prop) (slot other : Slot) : Prop where
  gone : lost → slot = other.forsaken
  same : ¬lost → slot = other

inductive Leads (places : List Nat) (lost : Nat → Prop) (slot : Nat → Slot) :
    Option Nat → Option Nat → Prop
  | absent : Leads places lost slot none none
  | same {place ticket : Nat} (sound : ¬lost ticket) (here : places[ticket]? = some place) :
      Leads places lost slot (some place) (some ticket)
  | nobody {place ticket : Nat} (gone : lost ticket) (apart : place ∉ places)
      (abandoned : slot place = .abandoned) : Leads places lost slot (some place) (some ticket)

variable {lost : Prop} {slot other : Slot}

theorem forsaken_unlisted (slot : Slot) : slot.unlisted.forsaken = slot.forsaken := by
  cases slot <;> rfl

theorem Shows.of_sound (sound : ¬lost) : Shows lost slot slot :=
  ⟨fun gone => absurd gone sound, fun _ => rfl⟩

theorem Shows.of_gone (gone : lost) (closed : slot = other.forsaken) : Shows lost slot other :=
  ⟨fun _ => closed, fun sound => absurd gone sound⟩

theorem Shows.of_iff {after : Prop} (seen : Shows lost slot other) (same : lost ↔ after) :
    Shows after slot other :=
  propext same ▸ seen

theorem Leads.mono {places : List Nat} {lost : Nat → Prop} {slot later : Nat → Slot}
    {old new : Option Nat} (leads : Leads places lost slot old new)
    (kept : ∀ place ∉ places, slot place = .abandoned → later place = .abandoned) :
    Leads places lost later old new := by
  cases leads with
  | absent => exact .absent
  | same sound here => exact .same sound here
  | nobody gone apart abandoned => exact .nobody gone apart (kept _ apart abandoned)

/-- A new place is none of those to which lost entries lead. -/
theorem Leads.grow {places : List Nat} {lost : Nat → Prop} {slot : Nat → Slot} {added : Nat}
    {old new : Option Nat} (leads : Leads places lost slot old new)
    (unused : slot added ≠ .abandoned) : Leads (places ++ [added]) lost slot old new := by
  cases leads with
  | absent => exact .absent
  | same sound here =>
      have inside := (List.getElem?_eq_some_iff.mp here).1
      exact .same sound ((List.getElem?_append_left inside).trans here)
  | nobody gone apart abandoned =>
      refine .nobody gone (fun member => ?_) abandoned
      rcases List.mem_append.mp member with member | member
      · exact apart member
      · exact unused (List.mem_singleton.mp member ▸ abandoned)

end Slot

open Slot (Leads Shows)

namespace Correlator

variable {correlator : Correlator} {places : List Nat} {lost : Nat → Prop}
  {actual spared : Correlator} {id : UInt64} {ticket place : Nat}

theorem modify_slots (correlator : Correlator) (ticket : Nat) (change : Slot → Slot) :
    correlator.slots.modify ticket change =
      correlator.slots.set ticket (change (correlator.slot ticket)) := by
  -- the slot beyond the last one is closed
  let _ : Inhabited Slot := ⟨.closed⟩
  rw [List.modify_eq_set, slot, List.getD_eq_getElem?_getD]
  rfl

theorem set_slot (correlator : Correlator) (ticket : Nat) :
    correlator.slots.set ticket (correlator.slot ticket) = correlator.slots :=
  (modify_slots correlator ticket id).symm.trans (List.modify_id ..)

theorem slot_of_le (beyond : correlator.slots.length ≤ ticket) :
    correlator.slot ticket = .closed := by
  simp [slot, List.getD_eq_getElem?_getD, beyond]

theorem lt_of_abandoned (abandoned : correlator.slot ticket = .abandoned) :
    ticket < correlator.slots.length := by
  by_contra beyond
  cases (slot_of_le (Nat.le_of_not_lt beyond)).symm.trans abandoned

theorem resolve_of_unheld {response : Response} (meant : response.id = some id)
    (listed : correlator.entries.find? id = some ticket)
    (unheld : correlator.slot ticket ≠ .awaiting) :
    correlator.resolve response =
      (false, { correlator with entries := correlator.entries.erase id }) := by
  cases content : correlator.slot ticket with
  | awaiting => exact absurd content unheld
  | answered | closed | abandoned => simp only [resolve, meant, listed, content]

/-- The second registration of an identifier closes the slot of the first. -/
theorem slot_register_of_listed (listed : correlator.entries.find? id = some ticket)
    (present : place < correlator.slots.length) :
    (correlator.register id).2.slot place =
      if place = ticket then (correlator.slot place).unlisted else correlator.slot place := by
  simp only [register, listed, slot, List.getD_eq_getElem?_getD]
  rw [List.getElem?_append_left (by simpa using present), List.getElem?_modify]
  by_cases same : place = ticket
  · subst same
    simp [present]
  · simp [same, Ne.symm same]

theorem slot_register_of_refused (listed : correlator.entries.find? id = some ticket) :
    (correlator.register id).2.slot correlator.slots.length = .abandoned := by
  simp [register, listed, slot, List.getD_eq_getElem?_getD]

/-! ## Tables with overridden entries -/

/-- A table beside the one that was spared all second registrations of identifiers. The slots of the
spared one have the given places, and the entries that lead to the lost ones are overridden. -/
structure Follows (places : List Nat) (lost : Nat → Prop) (actual spared : Correlator) : Prop where
  lastId : actual.lastId = spared.lastId
  length : places.length = spared.slots.length
  distinct : places.Nodup
  within : ∀ place ∈ places, place < actual.slots.length
  known : ∀ ticket, lost ticket → ticket < spared.slots.length
  entries : ∀ id,
    Leads places lost actual.slot (actual.entries.find? id) (spared.entries.find? id)
  slots : ∀ ticket place, places[ticket]? = some place →
    Shows (lost ticket) (actual.slot place) (spared.slot ticket)

namespace Follows

theorem unlisted (follows : Follows places lost actual spared) :
    actual.entries.find? id = none ↔ spared.entries.find? id = none := by
  have leads := follows.entries id
  generalize actual.entries.find? id = entry at leads
  generalize spared.entries.find? id = other at leads
  cases leads <;> simp

theorem nextId (follows : Follows places lost actual spared) :
    Follows places lost actual.nextId.2 spared.nextId.2 :=
  { follows with lastId := congrArg (· + 1) follows.lastId }

theorem erase (follows : Follows places lost actual spared) (id : UInt64) :
    Follows places lost { actual with entries := actual.entries.erase id }
      { spared with entries := spared.entries.erase id } := by
  refine { follows with entries := fun other => ?_ }
  rw [Directory.find?_erase, Directory.find?_erase]
  split
  · exact .absent
  · exact follows.entries other

/-- To write into a slot of the one table and into its place in the other. -/
theorem write (follows : Follows places lost actual spared) {slot other : Slot}
    (here : places[ticket]? = some place) (seen : Shows (lost ticket) slot other) :
    Follows places lost { actual with slots := actual.slots.set place slot }
      { spared with slots := spared.slots.set ticket other } := by
  have member : place ∈ places := List.mem_of_getElem? here
  have present : place < actual.slots.length := follows.within place member
  have inside : ticket < places.length := (List.getElem?_eq_some_iff.mp here).1
  refine ⟨follows.lastId, ?_, follows.distinct, ?_, ?_, fun id => ?_, fun another spot there => ?_⟩
  · simpa using follows.length
  · simpa using follows.within
  · simpa using follows.known
  · refine (follows.entries id).mono fun spot apart abandoned => ?_
    have differs : spot ≠ place := fun same => apart (same ▸ member)
    rw [slot_set _ _ _ _ _ _ present, if_neg differs]
    exact abandoned
  · rw [slot_set _ _ _ _ _ _ present, slot_set _ _ _ _ _ _ (follows.length ▸ inside)]
    by_cases same : another = ticket
    · subst same
      obtain rfl := Option.some.inj (here.symm.trans there)
      simpa using seen
    · have differs : spot ≠ place := by
        intro again
        have equal := here.trans (again ▸ there.symm)
        exact same ((List.getElem?_inj inside follows.distinct).mp equal).symm
      rw [if_neg differs, if_neg same]
      exact follows.slots another spot there

theorem exists_place (follows : Follows places lost actual spared) (gone : lost ticket) :
    ∃ place, places[ticket]? = some place :=
  ⟨_, List.getElem?_eq_getElem (follows.length ▸ follows.known ticket gone)⟩

/-- What is written for a lost registration is not seen. -/
theorem overwrite (follows : Follows places lost actual spared) (gone : lost ticket) {other : Slot}
    (same : other.forsaken = (spared.slot ticket).forsaken) :
    Follows places lost actual { spared with slots := spared.slots.set ticket other } := by
  obtain ⟨place, here⟩ := follows.exists_place gone
  have content := (follows.slots ticket place here).gone gone
  have written := follows.write here (.of_gone gone (content.trans same.symm))
  rwa [set_slot] at written

theorem abandon (follows : Follows places lost actual spared)
    (here : places[ticket]? = some place) :
    Follows places lost (actual.abandon place) (spared.abandon ticket) :=
  follows.write here ⟨fun _ => rfl, fun _ => rfl⟩

/-- A response leads to a receiver if it would without overridden entries and the entry is not
lost. -/
theorem resolve (follows : Follows places lost actual spared) (response : Response) :
    ((actual.resolve response).1 = true ↔ (spared.resolve response).1 = true ∧
      ∀ id ticket, response.id = some id → spared.entries.find? id = some ticket → ¬lost ticket) ∧
    Follows places lost (actual.resolve response).2 (spared.resolve response).2 := by
  cases meant : response.id with
  | none => simpa [Correlator.resolve, meant] using follows
  | some id =>
      have leads := follows.entries id
      generalize entered : actual.entries.find? id = entry at leads
      generalize found : spared.entries.find? id = other at leads
      cases leads with
      | absent =>
          rw [resolve_of_unlisted meant entered, resolve_of_unlisted meant found]
          exact ⟨by simp, follows⟩
      | @same place ticket sound here =>
          have content := (follows.slots ticket place here).same sound
          have kept : ∀ key ticket, some id = some key → spared.entries.find? key = some ticket →
              ¬lost ticket := by
            rintro _ _ ⟨⟩ again
            exact Option.some.inj (found.symm.trans again) ▸ sound
          by_cases awaiting : spared.slot ticket = .awaiting
          · rw [resolve_of_awaiting meant entered (content.trans awaiting),
              resolve_of_awaiting meant found awaiting]
            exact ⟨by simpa using kept, (follows.erase id).write here (.of_sound sound)⟩
          · rw [resolve_of_unheld meant entered (content ▸ awaiting),
              resolve_of_unheld meant found awaiting]
            exact ⟨by simp, follows.erase id⟩
      | @nobody place ticket gone apart abandoned =>
          rw [resolve_of_unheld meant entered (by simp [abandoned])]
          refine ⟨iff_of_false (by simp) fun both => both.2 id ticket rfl found gone, ?_⟩
          by_cases awaiting : spared.slot ticket = .awaiting
          · rw [resolve_of_awaiting meant found awaiting]
            refine (follows.erase id).overwrite gone ?_
            change Slot.closed = (spared.slot ticket).forsaken
            rw [awaiting]
            rfl
          · rw [resolve_of_unheld meant found awaiting]
            exact follows.erase id

theorem remove (follows : Follows places lost actual spared) (id : UInt64) :
    (actual.remove id).1 = (spared.remove id).1 ∧
      Follows places lost (actual.remove id).2 (spared.remove id).2 := by
  have leads := follows.entries id
  unfold Correlator.remove
  generalize actual.entries.find? id = entry at leads
  generalize spared.entries.find? id = other at leads
  cases leads with
  | absent => exact ⟨rfl, follows⟩
  | @same place ticket sound here =>
      refine ⟨rfl, ?_⟩
      simp only [modify_slots, (follows.slots ticket place here).same sound]
      exact (follows.erase id).write here (.of_sound sound)
  | @nobody place ticket gone apart abandoned =>
      refine ⟨rfl, ?_⟩
      have unchanged : actual.slots.set place (actual.slot place).unlisted = actual.slots := by
        have same := actual.set_slot place
        rwa [abandoned] at same ⊢
      simp only [modify_slots, unchanged]
      exact (follows.erase id).overwrite gone (Slot.forsaken_unlisted _)

theorem take_of_forsaken {slot : Slot} (content : correlator.slot ticket = slot.forsaken) :
    correlator.take ticket = (.closed, correlator) := by
  unfold Correlator.take
  cases slot <;> simp [content, Slot.forsaken]

/-- A look at a receiver shows what it would show, or that the registration was closed. -/
theorem take (follows : Follows places lost actual spared) (here : places[ticket]? = some place) :
    (lost ticket → (actual.take place).1 = .closed) ∧
      (¬lost ticket → (actual.take place).1 = (spared.take ticket).1) ∧
      Follows places lost (actual.take place).2 (spared.take ticket).2 := by
  by_cases gone : lost ticket
  · have content := (follows.slots ticket place here).gone gone
    rw [take_of_forsaken content]
    refine ⟨fun _ => rfl, fun sound => absurd gone sound, ?_⟩
    unfold Correlator.take
    split
    · exact follows
    · rename_i answered
      refine follows.overwrite gone ?_
      rw [answered]
      rfl
    · exact follows
    · exact follows
  · have content := (follows.slots ticket place here).same gone
    refine ⟨fun lost => absurd lost gone, fun _ => ?_, ?_⟩
    · unfold Correlator.take
      rw [content]
      split <;> rfl
    · unfold Correlator.take
      rw [content]
      split
      · exact follows
      · exact follows.write here (.of_sound gone)
      · exact follows
      · exact follows

/-- A registration that is not refused. -/
theorem register_of_unlisted (follows : Follows places lost actual spared)
    (unlisted : actual.entries.find? id = none) (unlistedToo : spared.entries.find? id = none) :
    Follows (places ++ [actual.slots.length]) lost (actual.register id).2
      (spared.register id).2 := by
  have unknown : ¬lost spared.slots.length := fun gone =>
    Nat.lt_irrefl _ (follows.known _ gone)
  have fresh : actual.slots.length ∉ places := fun member =>
    Nat.lt_irrefl _ (follows.within _ member)
  have last : (places ++ [actual.slots.length])[spared.slots.length]? =
      some actual.slots.length := by
    simp [← follows.length]
  have grown : (actual.register id).2.slots.length = actual.slots.length + 1 := by
    simp [Correlator.register_of_unlisted unlisted]
  have grownToo : (spared.register id).2.slots.length = spared.slots.length + 1 := by
    simp [Correlator.register_of_unlisted unlistedToo]
  refine ⟨?_, ?_, ?_, ?_, ?_, fun other => ?_, fun ticket place there => ?_⟩
  · simpa [Correlator.register_of_unlisted unlisted,
      Correlator.register_of_unlisted unlistedToo] using follows.lastId
  · simpa [grownToo] using follows.length
  · simpa [List.nodup_append, follows.distinct] using
      fun place member => Nat.ne_of_lt (follows.within place member)
  · intro place member
    rw [grown]
    rcases List.mem_append.mp member with member | member
    · exact Nat.lt_succ_of_lt (follows.within place member)
    · exact List.mem_singleton.mp member ▸ Nat.lt_succ_self _
  · intro ticket gone
    rw [grownToo]
    exact Nat.lt_succ_of_lt (follows.known ticket gone)
  · rw [find?_register, find?_register]
    split
    · exact .same unknown last
    · have unused : actual.slot actual.slots.length ≠ .abandoned := by
        simp [slot_of_le (Nat.le_refl _)]
      refine ((follows.entries other).grow unused).mono fun place _ abandoned => ?_
      rw [slot_register_of_lt unlisted (lt_of_abandoned abandoned)]
      exact abandoned
  · rcases Nat.lt_or_ge ticket places.length with inside | beyond
    · rw [List.getElem?_append_left inside] at there
      rw [slot_register_of_lt unlisted (follows.within _ (List.mem_of_getElem? there)),
        slot_register_of_lt unlistedToo (follows.length ▸ inside)]
      exact follows.slots ticket place there
    · obtain ⟨within, _⟩ := List.getElem?_eq_some_iff.mp there
      have only : ticket = spared.slots.length := by
        rw [List.length_append, List.length_singleton] at within
        have := follows.length
        omega
      subst only
      obtain rfl := Option.some.inj (last.symm.trans there)
      rw [slot_register_self unlisted, slot_register_self unlistedToo]
      exact .of_sound unknown

/-- A second registration of an identifier closes the slot of the first, which may have been lost
before, and no other that somebody holds. -/
theorem overridden (follows : Follows places lost actual spared)
    (listed : spared.entries.find? id = some ticket)
    (unanswered : (spared.slot ticket).unlisted = (spared.slot ticket).forsaken) :
    ∃ older, actual.entries.find? id = some older ∧ ∀ other place, places[other]? = some place →
      (other = ticket → (actual.register id).2.slot place = (spared.slot ticket).forsaken) ∧
        (other ≠ ticket → (actual.register id).2.slot place = actual.slot place) := by
  have leads := follows.entries id
  rw [listed] at leads
  generalize entered : actual.entries.find? id = entry at leads
  cases leads with
  | @same older _ sound here =>
      refine ⟨older, rfl, fun other place there => ?_⟩
      have present := follows.within place (List.mem_of_getElem? there)
      rw [slot_register_of_listed entered present]
      refine ⟨fun same => ?_, fun differs => if_neg fun again => ?_⟩
      · subst same
        obtain rfl := Option.some.inj (here.symm.trans there)
        rw [if_pos rfl, (follows.slots other older here).same sound, unanswered]
      · have inside := (List.getElem?_eq_some_iff.mp there).1
        have equal := there.trans (again ▸ here.symm)
        exact differs ((List.getElem?_inj inside follows.distinct).mp equal)
  | @nobody older _ gone apart abandoned =>
      refine ⟨older, rfl, fun other place there => ?_⟩
      have member := List.mem_of_getElem? there
      have differs : place ≠ older := fun same => apart (same ▸ member)
      rw [slot_register_of_listed entered (follows.within place member), if_neg differs]
      refine ⟨fun same => ?_, fun _ => rfl⟩
      subst same
      exact (follows.slots other place there).gone gone

/-- A registration that is refused. The entry of the identifier is overridden, and so the
registration that it led to is lost. -/
theorem register_of_listed (follows : Follows places lost actual spared) {after : Nat → Prop}
    (listed : spared.entries.find? id = some ticket)
    (single : ∀ other, spared.entries.find? other = some ticket → other = id)
    (unanswered : (spared.slot ticket).unlisted = (spared.slot ticket).forsaken)
    (present : ticket < spared.slots.length)
    (grows : ∀ other, after other ↔ lost other ∨ other = ticket) :
    Follows places after (actual.register id).2 spared := by
  have stays {other : Nat} (differs : other ≠ ticket) : lost other ↔ after other := by
    simp [grows, differs]
  obtain ⟨older, entered, slots⟩ := follows.overridden listed unanswered
  have last := slot_register_of_refused entered
  have lastId : (actual.register id).2.lastId = actual.lastId := by
    simp [Correlator.register, entered]
  have length : (actual.register id).2.slots.length = actual.slots.length + 1 := by
    simp [Correlator.register, entered]
  refine ⟨lastId.trans follows.lastId, follows.length, follows.distinct, ?_, ?_, ?_, ?_⟩
  case refine_1 =>
    intro place member
    rw [length]
    exact Nat.lt_succ_of_lt (follows.within place member)
  case refine_2 =>
    intro other gone
    rcases (grows other).mp gone with gone | rfl
    · exact follows.known other gone
    · exact present
  case refine_3 =>
    intro other
    rw [find?_register]
    split
    · rename_i same
      have fresh : actual.slots.length ∉ places := fun member =>
        Nat.lt_irrefl _ (follows.within _ member)
      rw [same, listed]
      exact .nobody ((grows ticket).mpr (.inr rfl)) fresh last
    · rename_i differs
      have leads := follows.entries other
      generalize actual.entries.find? other = entry at leads
      generalize found : spared.entries.find? other = target at leads
      cases leads with
      | absent => exact .absent
      | @same place another sound here =>
          have apart : another ≠ ticket := fun same => differs (single other (same ▸ found))
          exact .same (fun gone => sound ((stays apart).mpr gone)) here
      | @nobody place another gone apart abandoned =>
          refine .nobody ((grows another).mpr (.inl gone)) apart ?_
          rw [slot_register_of_listed entered (lt_of_abandoned abandoned), abandoned]
          exact ite_self _
  case refine_4 =>
    intro other place here
    obtain ⟨closed, kept⟩ := slots other place here
    by_cases same : other = ticket
    · exact .of_gone ((grows other).mpr (.inr same)) (same ▸ closed same)
    · rw [kept same]
      exact (follows.slots other place here).of_iff (stays same)

/-- As many entries are in the one table as in the other. -/
theorem size_eq (follows : Follows places lost actual spared) : actual.size = spared.size := by
  have same : actual.entries.keys.Perm spared.entries.keys := by
    apply (List.perm_ext_iff_of_nodup actual.entries.keys_nodup spared.entries.keys_nodup).mpr
    intro id
    rw [Directory.mem_keys_iff, Directory.mem_keys_iff, ← Option.ne_none_iff_exists',
      ← Option.ne_none_iff_exists']
    exact follows.unlisted.not
  simpa [size] using same.length_eq

end Follows

end Correlator

end ServerManagement
