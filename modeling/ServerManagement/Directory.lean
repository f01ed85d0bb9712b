/-!
# Directories

Small tables from keys to values in which each key occurs once. After `insert` or `erase` a key
finds what the operation left there (`find?_insert_self`, `find?_erase_self`), and every other key
finds what it found before (`find?_insert_of_ne`, `find?_erase_of_ne`).
-/

set_option autoImplicit false

namespace ServerManagement

/-- Values by key; the entry made last stands first. -/
structure Directory (κ α : Type) where
  entries : List (κ × α)
  distinct : entries.Pairwise fun entry other => entry.1 ≠ other.1
deriving DecidableEq

namespace Directory

variable {κ α : Type} [DecidableEq κ]

def empty : Directory κ α := ⟨[], .nil⟩

def find? (directory : Directory κ α) (key : κ) : Option α := directory.entries.lookup key

def contains (directory : Directory κ α) (key : κ) : Bool := (directory.find? key).isSome

def erase (directory : Directory κ α) (key : κ) : Directory κ α :=
  ⟨directory.entries.filter fun entry => entry.1 ≠ key, directory.distinct.filter _⟩

/-- Give a key a value, in place of an older one. -/
def insert (directory : Directory κ α) (key : κ) (value : α) : Directory κ α :=
  ⟨(key, value) :: (directory.erase key).entries,
    .cons (fun _ kept => Ne.symm (of_decide_eq_true (List.mem_filter.mp kept).2))
      (directory.erase key).distinct⟩

def size (directory : Directory κ α) : Nat := directory.entries.length

/-- The keys, the newest first. -/
def keys (directory : Directory κ α) : List κ := directory.entries.map Prod.fst

@[simp] theorem find?_empty (key : κ) : (empty : Directory κ α).find? key = none := rfl

@[simp] theorem find?_erase_self (directory : Directory κ α) (key : κ) :
    (directory.erase key).find? key = none := by
  obtain ⟨entries, distinct⟩ := directory
  simp only [find?, erase]
  clear distinct
  induction entries with
  | nil => rfl
  | cons entry entries ih =>
      obtain ⟨present, value⟩ := entry
      by_cases same : present = key
      · simpa [same] using ih
      · have unlike : (key == present) = false := by simpa using Ne.symm same
        simpa [List.lookup_cons, same, unlike] using ih

theorem find?_erase_of_ne (directory : Directory κ α) {key other : κ} (differs : other ≠ key) :
    (directory.erase key).find? other = directory.find? other := by
  obtain ⟨entries, distinct⟩ := directory
  simp only [find?, erase]
  clear distinct
  induction entries with
  | nil => rfl
  | cons entry entries ih =>
      obtain ⟨present, value⟩ := entry
      by_cases same : present = key
      · have unlike : (other == present) = false := by simpa [same] using differs
        rw [List.lookup_cons, unlike]
        simpa [same] using ih
      · by_cases found : (other == present) = true
        · simp [List.lookup_cons, same, found]
        · simpa [List.lookup_cons, same, found] using ih

@[simp] theorem find?_insert_self (directory : Directory κ α) (key : κ) (value : α) :
    (directory.insert key value).find? key = some value := by
  simp [find?, insert]

theorem find?_insert_of_ne (directory : Directory κ α) {key other : κ} (value : α)
    (differs : other ≠ key) :
    (directory.insert key value).find? other = directory.find? other := by
  have unlike : (other == key) = false := by simpa using differs
  rw [← directory.find?_erase_of_ne differs]
  simp [find?, insert, List.lookup_cons, unlike]

end Directory

end ServerManagement
