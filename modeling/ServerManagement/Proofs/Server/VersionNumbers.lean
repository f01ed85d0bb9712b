import ServerManagement.Proofs.Decimal.SignedReading
import ServerManagement.Server.State

/-!
Which names of versions have numbers: those of three components with points between them, each of
which denotes a number of thirty-two bits.
-/

set_option autoImplicit false

namespace ServerManagement

open Decimal (UnsignedText)

/-! ## Parts between points -/

theorem splitAt_eq_splitOn (separator : Char) (text : List Char) :
    splitAt separator text = text.splitOn separator := by
  induction text with
  | nil => rfl
  | cons c rest ih =>
      have filled : rest.splitOn separator ≠ [] := List.splitOn_ne_nil separator rest
      rw [splitAt, ih, List.splitOn_cons_eq_if_modifyHead]
      cases parts : rest.splitOn separator with
      | nil => exact absurd parts filled
      | cons part parts => simp [beq_iff_eq]

theorem join_of_splitAt {separator : Char} {text first second third : List Char}
    (split : splitAt separator text = [first, second, third]) :
    text = first ++ separator :: (second ++ separator :: third) := by
  rw [splitAt_eq_splitOn] at split
  have joined : [separator].intercalate (text.splitOn separator) = text :=
    List.intercalate_splitOn separator
  rw [split] at joined
  simpa using joined.symm

theorem splitAt_join {separator : Char} {first second third : List Char}
    (noneFirst : separator ∉ first) (noneSecond : separator ∉ second)
    (noneThird : separator ∉ third) :
    splitAt separator (first ++ separator :: (second ++ separator :: third)) =
      [first, second, third] := by
  rw [splitAt_eq_splitOn, List.splitOn_append_cons_self_of_not_mem noneFirst,
    List.splitOn_append_cons_self_of_not_mem noneSecond, List.splitOn_eq_singleton noneThird]

/-! ## Components -/

theorem versionNumber?_eq_some_iff {text : List Char} {number : UInt32} :
    versionNumber? text = some number ↔ UnsignedText text number.toNat := by
  constructor
  · intro found
    unfold versionNumber? at found
    split at found
    · rename_i value read
      obtain ⟨whole, unsigned, small, rfl⟩ :=
        (Decimal.readSigned_eq_ok_iff_unsigned rfl (by decide)).mp read
      have small : (whole : Int) ≤ 4294967295 := small
      have bounded : whole < UInt32.size := by
        have size : UInt32.size = 4294967296 := rfl
        omega
      obtain rfl := Option.some.inj found
      rwa [Int.toNat_natCast, UInt32.toNat_ofNat_of_lt' bounded]
    · cases found
  · intro unsigned
    have small : (number.toNat : Int) ≤ 4294967295 := by
      have bounded := number.toNat_lt
      omega
    have read : Decimal.readSigned .unsigned32 text = .ok number.toNat :=
      (Decimal.readSigned_eq_ok_iff_unsigned rfl (by decide)).mpr ⟨_, unsigned, small, rfl⟩
    simp only [versionNumber?, read, Int.toNat_natCast, UInt32.ofNat_toNat]

namespace Version

variable {version : Version} {major minor patch : UInt32}

/-- The name is three components with points between them that denote the numbers. -/
def Spells (version : Version) (major minor patch : Nat) : Prop :=
  ∃ first second third, version.name.toList = first ++ '.' :: (second ++ '.' :: third) ∧
    UnsignedText first major ∧ UnsignedText second minor ∧ UnsignedText third patch

theorem numbers?_eq_some_iff :
    version.numbers? = some (major, minor, patch) ↔
      version.Spells major.toNat minor.toNat patch.toNat := by
  constructor
  · intro found
    unfold numbers? at found
    split at found
    · rename_i first second third split
      split at found
      · rename_i one two three
        obtain ⟨rfl, rfl, rfl⟩ : _ = major ∧ _ = minor ∧ _ = patch := by simpa using found
        exact ⟨first, second, third, join_of_splitAt split, versionNumber?_eq_some_iff.mp one,
          versionNumber?_eq_some_iff.mp two, versionNumber?_eq_some_iff.mp three⟩
      · cases found
    · cases found
  · intro ⟨first, second, third, name, one, two, three⟩
    have noPoint {text : List Char} {number : Nat} (unsigned : UnsignedText text number) :
        '.' ∉ text := unsigned.not_mem rfl (by decide)
    have split := splitAt_join (noPoint one) (noPoint two) (noPoint three)
    simp only [numbers?, name, split, versionNumber?_eq_some_iff.mpr one,
      versionNumber?_eq_some_iff.mpr two, versionNumber?_eq_some_iff.mpr three]

theorem numbers?_eq_none_iff :
    version.numbers? = none ↔ ¬∃ major minor patch, version.Spells major minor patch ∧
      major < 2 ^ 32 ∧ minor < 2 ^ 32 ∧ patch < 2 ^ 32 := by
  constructor
  · intro missing ⟨major, minor, patch, spells, one, two, three⟩
    rw [← UInt32.toNat_ofNat_of_lt' one, ← UInt32.toNat_ofNat_of_lt' two,
      ← UInt32.toNat_ofNat_of_lt' three] at spells
    have found := numbers?_eq_some_iff.mpr spells
    rw [missing] at found
    cases found
  · intro unspelled
    cases found : version.numbers? with
    | none => rfl
    | some numbers =>
        obtain ⟨major, minor, patch⟩ := numbers
        exact absurd ⟨_, _, _, numbers?_eq_some_iff.mp found, major.toNat_lt, minor.toNat_lt,
          patch.toNat_lt⟩ unspelled

/-- The plain name of three numbers. -/
theorem spells_repr {protocol : Int32} (major minor patch : Nat) :
    Spells ⟨protocol, major.repr ++ "." ++ minor.repr ++ "." ++ patch.repr⟩ major minor patch := by
  have row (number : Nat) : UnsignedText number.repr.toList number := by
    have text := Decimal.unsignedText_digits number
    rwa [Decimal.digits_eq_toDigits, ← Nat.toList_repr] at text
  refine ⟨_, _, _, ?_, row major, row minor, row patch⟩
  simp only [String.toList_append, List.append_assoc]
  rfl

/-- A version has three numbers exactly when its name is three components with points between them,
each an optional plus sign and one or more digits, that denote these numbers; and it has none
exactly when the name denotes no three numbers below the limit. The plain name of every three
numbers has them. -/
theorem numbers_exact (version : Version) :
    (∀ major minor patch : UInt32, version.numbers? = some (major, minor, patch) ↔
      version.Spells major.toNat minor.toNat patch.toNat) ∧
    (version.numbers? = none ↔ ¬∃ major minor patch, version.Spells major minor patch ∧
      major < 2 ^ 32 ∧ minor < 2 ^ 32 ∧ patch < 2 ^ 32) ∧
    ∀ (protocol : Int32) (major minor patch : UInt32),
      numbers? ⟨protocol, major.toNat.repr ++ "." ++ minor.toNat.repr ++ "." ++ patch.toNat.repr⟩ =
        some (major, minor, patch) := by
  refine ⟨fun major minor patch => numbers?_eq_some_iff, numbers?_eq_none_iff, ?_⟩
  intro protocol major minor patch
  exact numbers?_eq_some_iff.mpr (spells_repr ..)

example : numbers? ⟨770, "+1.021.4294967295"⟩ = some (1, 21, 4294967295) ∧
    numbers? ⟨770, "1.21.4294967296"⟩ = none := by decide

end Version

end ServerManagement
