import ServerManagement.Directory

/-! Directories by their keys and entries, and lists whose members are told apart by a key. -/

set_option autoImplicit false

namespace ServerManagement

/-- In a list whose members have different keys, members with equal keys are equal. -/
theorem eq_of_separate {α κ : Type} {key : α → κ} {items : List α}
    (separate : items.Pairwise fun item other => key item ≠ key other) {item other : α}
    (member : item ∈ items) (otherMember : other ∈ items) (same : key item = key other) :
    item = other := by
  induction items with
  | nil => cases member
  | cons head items ih =>
      obtain ⟨first, rest⟩ := List.pairwise_cons.mp separate
      rcases List.mem_cons.mp member with rfl | inRest
      · rcases List.mem_cons.mp otherMember with rfl | otherInRest
        · rfl
        · exact absurd same (first other otherInRest)
      · rcases List.mem_cons.mp otherMember with rfl | otherInRest
        · exact absurd same.symm (first item inRest)
        · exact ih rest inRest otherInRest

/-! ## Views of lists -/

/-- Two changes that agree except at one position. -/
theorem map_eq_set {α β : Type} (change other : α → β) {items : List α} {position : Nat} {item : α}
    (here : items[position]? = some item)
    (elsewhere : ∀ place item, items[place]? = some item → place ≠ position →
      change item = other item) :
    items.map change = (items.map other).set position (change item) := by
  refine List.ext_getElem? fun place => ?_
  rw [List.getElem?_set]
  simp only [List.getElem?_map, List.length_map]
  by_cases same : position = place
  · subst same
    obtain ⟨within, rfl⟩ := List.getElem?_eq_some_iff.mp here
    simp [within]
  · rw [if_neg same]
    cases there : items[place]? with
    | none => rfl
    | some found => exact congrArg some (elsewhere place found there (Ne.symm same))

/-- What is seen of a list does not change when one item is replaced by one that looks the same. -/
theorem map_set_eq_self {α β : Type} {items : List α} {view : α → β} {position : Nat}
    {item after : α} (here : items[position]? = some item) (same : view after = view item) :
    (items.set position after).map view = items.map view := by
  obtain ⟨within, rfl⟩ := List.getElem?_eq_some_iff.mp here
  rw [List.map_set, same, ← List.map_set, List.set_getElem_self]

/-- A change that shows in a view as a change of what is seen. -/
theorem map_eq_map {α β : Type} {items : List α} {change : α → α} {view : α → β} {shift : β → β}
    (seen : ∀ item ∈ items, view (change item) = shift (view item)) :
    (items.map change).map view = (items.map view).map shift := by
  rw [List.map_map, List.map_map]
  exact List.map_congr_left seen

/-- A change that a view does not show. -/
theorem map_eq_self {α β : Type} {items : List α} {change : α → α} {view : α → β}
    (unseen : ∀ item ∈ items, view (change item) = view item) :
    (items.map change).map view = items.map view := by
  rw [List.map_map]
  exact List.map_congr_left unseen

namespace Directory

variable {κ α : Type}

theorem keys_nodup (directory : Directory κ α) : directory.keys.Nodup :=
  List.pairwise_map.mpr directory.distinct

@[simp] theorem length_keys (directory : Directory κ α) :
    directory.keys.length = directory.size := by
  simp [keys, size]

variable [DecidableEq κ]

theorem find?_erase (directory : Directory κ α) (key other : κ) :
    (directory.erase key).find? other = if other = key then none else directory.find? other := by
  by_cases same : other = key
  · subst same
    simp
  · rw [find?_erase_of_ne directory same, if_neg same]

theorem find?_insert (directory : Directory κ α) (key other : κ) (value : α) :
    (directory.insert key value).find? other =
      if other = key then some value else directory.find? other := by
  by_cases same : other = key
  · subst same
    simp
  · rw [find?_insert_of_ne directory value same, if_neg same]

theorem erase_of_absent {directory : Directory κ α} {key : κ}
    (absent : directory.find? key = none) : directory.erase key = directory := by
  have kept : directory.entries.filter (fun entry => entry.1 ≠ key) = directory.entries := by
    refine List.filter_eq_self.mpr fun entry member => ?_
    have differs := List.lookup_eq_none_iff.mp absent entry member
    simpa using Ne.symm (by simpa using differs)
  simp only [erase, kept]

theorem insert_erase (directory : Directory κ α) (key : κ) (value : α) :
    (directory.erase key).insert key value = directory.insert key value := by
  have once : (directory.erase key).erase key = directory.erase key :=
    erase_of_absent (directory.find?_erase_self key)
  simp only [insert, once]

theorem find?_eq_some_iff (directory : Directory κ α) (key : κ) (value : α) :
    directory.find? key = some value ↔ (key, value) ∈ directory.entries := by
  rw [find?, List.lookup_eq_some_iff]
  constructor
  · rintro ⟨earlier, rest, split, _⟩
    rw [split]
    exact List.mem_append_right _ (List.mem_cons_self ..)
  · intro member
    obtain ⟨earlier, rest, split⟩ := List.append_of_mem member
    refine ⟨earlier, rest, split, fun entry before => ?_⟩
    have distinct := directory.distinct
    rw [split] at distinct
    have differs := (List.pairwise_append.mp distinct).2.2 entry before _ (List.mem_cons_self ..)
    simpa using Ne.symm differs

theorem mem_keys_iff (directory : Directory κ α) (key : κ) :
    key ∈ directory.keys ↔ ∃ value, directory.find? key = some value := by
  simp only [find?_eq_some_iff, keys, List.mem_map]
  constructor
  · rintro ⟨⟨_, value⟩, member, rfl⟩
    exact ⟨value, member⟩
  · rintro ⟨value, member⟩
    exact ⟨(key, value), member, rfl⟩

theorem mem_entries_erase (directory : Directory κ α) (key : κ) (entry : κ × α) :
    entry ∈ (directory.erase key).entries ↔ entry ∈ directory.entries ∧ entry.1 ≠ key := by
  simp [erase, List.mem_filter]

theorem erase_comm (directory : Directory κ α) (key other : κ) :
    (directory.erase key).erase other = (directory.erase other).erase key := by
  simp only [erase, List.filter_filter, Bool.and_comm]

theorem erase_insert_self (directory : Directory κ α) (key : κ) (value : α) :
    (directory.insert key value).erase key = directory.erase key := by
  simp [erase, insert]

theorem erase_insert_of_ne (directory : Directory κ α) {key other : κ} (value : α)
    (differs : key ≠ other) :
    (directory.insert key value).erase other = (directory.erase other).insert key value := by
  have kept : decide (key ≠ other) = true := decide_eq_true differs
  have swapped := congrArg entries (directory.erase_comm key other)
  simp only [erase] at swapped
  simp only [erase, insert, List.filter_cons, kept, if_true, swapped]

/-! ## Directories with other values -/

def map {κ α β : Type} (change : α → β) (directory : Directory κ α) : Directory κ β :=
  ⟨directory.entries.map fun entry => (entry.1, change entry.2),
    List.pairwise_map.mpr directory.distinct⟩

variable {β : Type}

omit [DecidableEq κ] in
theorem map_congr {directory : Directory κ α} {change other : α → β}
    (same : ∀ entry ∈ directory.entries, change entry.2 = other entry.2) :
    directory.map change = directory.map other := by
  have equal : directory.entries.map (fun entry => (entry.1, change entry.2)) =
      directory.entries.map fun entry => (entry.1, other entry.2) :=
    List.map_congr_left fun entry member => by rw [same entry member]
  simp only [map, equal]

theorem find?_map (change : α → β) (directory : Directory κ α) (key : κ) :
    (directory.map change).find? key = (directory.find? key).map change := by
  obtain ⟨entries, distinct⟩ := directory
  simp only [find?, map]
  clear distinct
  induction entries with
  | nil => rfl
  | cons entry entries ih =>
      obtain ⟨present, value⟩ := entry
      cases same : key == present <;> simp [List.lookup_cons, same, ih]

theorem map_erase (change : α → β) (directory : Directory κ α) (key : κ) :
    (directory.erase key).map change = (directory.map change).erase key := by
  simp only [map, erase, List.filter_map]
  rfl

theorem map_insert (change : α → β) (directory : Directory κ α) (key : κ) (value : α) :
    (directory.insert key value).map change = (directory.map change).insert key (change value) := by
  have rest := congrArg entries (map_erase change directory key)
  simp only [map, erase] at rest
  simp only [map, insert, erase, List.map_cons, rest]

/-! ## Directories of positions -/

def Indexes (directory : Directory κ Nat) (keys : List (Option κ)) : Prop :=
  ∀ key position, directory.find? key = some position ↔ keys[position]? = some (some key)

def vacate (key : κ) (held : Option κ) : Option κ := if held = some key then none else held

variable {directory : Directory κ Nat} {keys : List (Option κ)} {key other : κ} {position : Nat}

theorem vacate_eq_some_iff {held : Option κ} :
    vacate key held = some other ↔ held = some other ∧ other ≠ key := by
  unfold vacate
  by_cases same : held = some key
  · subst same
    simpa using Eq.symm
  · rw [if_neg same]
    refine ⟨fun found => ⟨found, ?_⟩, And.left⟩
    rintro rfl
    exact same found

theorem Indexes.erase (indexes : directory.Indexes keys) (key : κ) :
    (directory.erase key).Indexes (keys.map (vacate key)) := by
  intro other position
  rw [find?_erase, List.getElem?_map]
  by_cases same : other = key
  · subst same
    cases keys[position]? <;> simp [vacate_eq_some_iff]
  · rw [if_neg same, indexes]
    cases keys[position]? <;> simp [vacate_eq_some_iff, same]

/-- A key moves to the end. -/
theorem Indexes.insert (indexes : directory.Indexes keys) (key : κ) :
    (directory.insert key keys.length).Indexes (keys.map (vacate key) ++ [some key]) := by
  intro other position
  rw [find?_insert]
  by_cases same : other = key
  · subst same
    rw [if_pos rfl, Option.some_inj]
    by_cases last : position = keys.length
    · subst last
      simp
    · refine iff_of_false (Ne.symm last) ?_
      rw [List.getElem?_append]
      split
      · cases keys[position]? <;> simp [vacate_eq_some_iff]
      · have beyond : position - keys.length ≠ 0 := by simp at *; omega
        simp [beyond]
  · have kept := indexes.erase key other position
    rw [find?_erase, if_neg same] at kept
    rw [if_neg same, kept, List.getElem?_append]
    split
    · rfl
    · rename_i outside
      rw [List.getElem?_eq_none (Nat.le_of_not_lt outside)]
      simp [List.getElem?_singleton, Ne.symm same]

theorem Indexes.of_find?_none (indexes : directory.Indexes keys)
    (absent : directory.find? key = none) : keys.map (vacate key) = keys := by
  refine (List.map_congr_left fun held member => ?_).trans (List.map_id keys)
  obtain ⟨position, here⟩ := List.getElem?_of_mem member
  unfold vacate
  split
  · rename_i same
    subst same
    have found := (indexes key position).mpr here
    rw [absent] at found
    cases found
  · rfl

/-- As many keys as there are places with a key. -/
theorem Indexes.size_eq (indexes : directory.Indexes keys) :
    directory.size = keys.countP Option.isSome := by
  have once : (keys.filterMap id).Nodup := by
    refine List.pairwise_filterMap.mpr (List.pairwise_iff_getElem.mpr ?_)
    rintro place later within behind before _ here _ there rfl
    have first := (indexes _ place).mpr (List.getElem?_eq_some_iff.mpr ⟨within, here⟩)
    have second := (indexes _ later).mpr (List.getElem?_eq_some_iff.mpr ⟨behind, there⟩)
    exact absurd (Option.some.inj (first.symm.trans second)) (Nat.ne_of_lt before)
  have same : directory.keys.Perm (keys.filterMap id) := by
    refine (List.perm_ext_iff_of_nodup directory.keys_nodup once).mpr fun key => ?_
    rw [mem_keys_iff, List.mem_filterMap]
    constructor
    · rintro ⟨position, found⟩
      exact ⟨some key, List.mem_of_getElem? ((indexes key position).mp found), rfl⟩
    · rintro ⟨held, member, rfl⟩
      obtain ⟨position, here⟩ := List.getElem?_of_mem member
      exact ⟨position, (indexes key position).mpr here⟩
  rw [← length_keys, same.length_eq, List.length_filterMap_eq_countP]
  rfl

/-- To look for the holder of a key in a list is to go where the directory says. -/
theorem Indexes.find?_eq {α : Type} {items : List α} {name : α → Option κ}
    (indexes : directory.Indexes (items.map name)) (key : κ) :
    items.find? (fun item => name item == some key) =
      (directory.find? key).bind fun position => items[position]? := by
  cases placed : directory.find? key with
  | none =>
      refine List.find?_eq_none.mpr fun item member same => ?_
      obtain ⟨position, here⟩ := List.getElem?_of_mem member
      have found := (indexes key position).mpr (by simp [here, eq_of_beq same])
      rw [placed] at found
      cases found
  | some position =>
      have here := (indexes key position).mp placed
      rw [List.getElem?_map, Option.map_eq_some_iff] at here
      obtain ⟨item, here, same⟩ := here
      rw [Option.bind_some, here]
      cases found : items.find? fun item => name item == some key with
      | none =>
          have missing := List.find?_eq_none.mp found item (List.mem_of_getElem? here)
          simp [same] at missing
      | some first =>
          obtain ⟨place, first_here⟩ := List.getElem?_of_mem (List.mem_of_find?_eq_some found)
          have first_same := List.find?_some found
          have again := (indexes key place).mpr (by simp [first_here, eq_of_beq first_same])
          obtain rfl := Option.some.inj (placed.symm.trans again)
          exact first_here.symm.trans here

end Directory

end ServerManagement
