/-!
Taking items away from a list. Marks say which places stay; an item that stays is found at the rank
of its place among those that stay.
-/

set_option autoImplicit false

namespace ServerManagement

def pick {α : Type} : List Bool → List α → List α
  | [], items => items
  | _ :: _, [] => []
  | true :: marks, item :: items => item :: pick marks items
  | false :: marks, _ :: items => pick marks items

def rank : List Bool → Nat → Nat
  | [], place => place
  | _ :: _, 0 => 0
  | true :: marks, place + 1 => rank marks place + 1
  | false :: marks, place + 1 => rank marks place

def Stays (marks : List Bool) (place : Nat) : Prop := marks[place]? ≠ some false

variable {α β : Type} {marks : List Bool} {items : List α} {place other : Nat}

theorem stays_of_mark (mark : marks[place]? = some true) : Stays marks place := by
  rw [Stays, mark]
  exact nofun

theorem getElem?_pick (stays : Stays marks place) :
    (pick marks items)[rank marks place]? = items[place]? := by
  induction marks generalizing items place with
  | nil => rfl
  | cons mark marks ih =>
      cases items with
      | nil => simp [pick]
      | cons item items =>
          cases place with
          | zero =>
              cases mark with
              | true => rfl
              | false => exact absurd rfl stays
          | succ place =>
              have stays : Stays marks place := stays
              cases mark with
              | true => exact ih stays
              | false => exact ih stays

theorem pick_modify (stays : Stays marks place) (change : α → α) :
    pick marks (items.modify place change) =
      (pick marks items).modify (rank marks place) change := by
  induction marks generalizing items place with
  | nil => rfl
  | cons mark marks ih =>
      cases items with
      | nil => simp [pick]
      | cons item items =>
          cases place with
          | zero =>
              cases mark with
              | true => rfl
              | false => exact absurd rfl stays
          | succ place =>
              have stays : Stays marks place := stays
              cases mark with
              | true => exact congrArg (item :: ·) (ih stays)
              | false => exact ih stays

/-- What happens at a place that is taken away is not seen. -/
theorem pick_modify_of_gone (gone : marks[place]? = some false) (change : α → α) :
    pick marks (items.modify place change) = pick marks items := by
  induction marks generalizing items place with
  | nil => cases gone
  | cons mark marks ih =>
      cases items with
      | nil => simp [pick]
      | cons item items =>
          cases place with
          | zero =>
              obtain rfl : mark = false := Option.some.inj gone
              rfl
          | succ place =>
              cases mark with
              | true => exact congrArg (item :: ·) (ih gone)
              | false => exact ih gone

theorem set_eq_modify (items : List α) (place : Nat) (item : α) :
    items.set place item = items.modify place fun _ => item := by
  refine List.ext_getElem? fun index => ?_
  rw [List.getElem?_set, List.getElem?_modify]
  by_cases same : place = index
  · subst same
    by_cases within : place < items.length <;> simp [within]
  · simp [same]

/-- To change an item is to put the changed one in its place. -/
theorem set_eq_modify_of_present {item : α} (present : items[place]? = some item)
    (change : α → α) : items.set place (change item) = items.modify place change := by
  refine List.ext_getElem? fun index => ?_
  rw [List.getElem?_set, List.getElem?_modify]
  by_cases same : place = index
  · subst same
    obtain ⟨within, rfl⟩ := List.getElem?_eq_some_iff.mp present
    simp [within]
  · simp [same]

theorem map_modify {change : α → β} {first : α → α} {second : β → β}
    (same : ∀ item, change (first item) = second (change item)) (items : List α) (place : Nat) :
    (items.modify place first).map change = (items.map change).modify place second := by
  refine List.ext_getElem? fun index => ?_
  simp only [List.getElem?_map, List.getElem?_modify]
  cases items[index]? with
  | none => rfl
  | some item => by_cases here : place = index <;> simp [here, same]

theorem pick_set (stays : Stays marks place) (item : α) :
    pick marks (items.set place item) = (pick marks items).set (rank marks place) item := by
  rw [set_eq_modify, pick_modify stays, ← set_eq_modify]

theorem pick_set_of_gone (gone : marks[place]? = some false) (item : α) :
    pick marks (items.set place item) = pick marks items := by
  rw [set_eq_modify, pick_modify_of_gone gone]

theorem pick_map_eq_filter (stays : α → Bool) (items : List α) :
    pick (items.map stays) items = items.filter stays := by
  induction items with
  | nil => rfl
  | cons item items ih => cases mark : stays item <;> simp [pick, mark, ih]

/-- The last item stays or is taken away like any other. -/
theorem pick_append (length : marks.length = items.length) (mark : Bool) (item : α) :
    pick (marks ++ [mark]) (items ++ [item]) =
      pick marks items ++ if mark then [item] else [] := by
  induction marks generalizing items with
  | nil =>
      obtain rfl := List.length_eq_zero_iff.mp length.symm
      cases mark <;> rfl
  | cons first marks ih =>
      cases items with
      | nil => cases length
      | cons head items =>
          have rest := ih (Nat.succ.inj length)
          cases first <;> simp [pick, rest]

theorem length_pick (length : marks.length = items.length) :
    (pick marks items).length = rank marks items.length := by
  induction marks generalizing items with
  | nil => rfl
  | cons mark marks ih =>
      cases items with
      | nil => cases length
      | cons item items =>
          have rest := ih (Nat.succ.inj length)
          cases mark <;> simp [pick, rank, rest]

theorem rank_append (within : place ≤ marks.length) (more : List Bool) :
    rank (marks ++ more) place = rank marks place := by
  induction marks generalizing place with
  | nil =>
      obtain rfl := Nat.le_zero.mp within
      cases more <;> rfl
  | cons mark marks ih =>
      cases place with
      | zero => cases mark <;> rfl
      | succ place =>
          have rest := ih (Nat.le_of_succ_le_succ within)
          cases mark <;> simp [rank, rest]

theorem rank_lt_rank (stays : Stays marks place) (before : place < other) :
    rank marks place < rank marks other := by
  induction marks generalizing place other with
  | nil => exact before
  | cons mark marks ih =>
      cases other with
      | zero => cases before
      | succ other =>
          cases place with
          | zero =>
              cases mark with
              | true => exact Nat.succ_pos _
              | false => exact absurd rfl stays
          | succ place =>
              have stays : Stays marks place := stays
              have rest := ih stays (Nat.lt_of_succ_lt_succ before)
              cases mark with
              | true => exact Nat.succ_lt_succ rest
              | false => exact rest

/-- Places that stay are told apart by their ranks. -/
theorem rank_eq_rank_iff (stays : Stays marks place) (alsoStays : Stays marks other) :
    rank marks place = rank marks other ↔ place = other := by
  refine ⟨fun same => ?_, congrArg _⟩
  rcases Nat.lt_trichotomy place other with before | equal | after
  · exact absurd same (Nat.ne_of_lt (rank_lt_rank stays before))
  · exact equal
  · exact absurd same.symm (Nat.ne_of_lt (rank_lt_rank alsoStays after))

end ServerManagement
