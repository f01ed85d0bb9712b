import Mathlib.Algebra.Group.Nat.Defs
import ServerManagement.Address.Basic
import ServerManagement.Proofs.Decimal.DigitRows

/-!
The canonical text of an address is read back as that address.
-/

set_option autoImplicit false

namespace ServerManagement

namespace Address

/-! ## Octets -/

theorem takeOctet?_digits (octet : UInt8) {rest : List Char}
    (ends : ∀ c ∈ rest.head?, c.isDigit = false) :
    takeOctet? (Decimal.digits octet.toNat ++ rest) = some (octet, rest) := by
  have fits : ¬(Decimal.digits octet.toNat = [] ∨ 3 < (Decimal.digits octet.toNat).length ∨
      ((Decimal.digits octet.toNat).head? = some '0' ∧ 1 < (Decimal.digits octet.toNat).length) ∨
      255 < octet.toNat) := by
    have small : octet.toNat < 256 := octet.toNat_lt
    rintro (empty | long | ⟨zero, long⟩ | large)
    · exact Decimal.digits_ne_nil _ empty
    · exact absurd ((Decimal.length_digits_le_iff (by decide)).mpr (by omega)) (Nat.not_le.mpr long)
    · by_cases nought : octet.toNat = 0
      · exact absurd ((Decimal.length_digits_le_iff (by decide)).mpr (by omega)) (Nat.not_le.mpr long)
      · exact Decimal.head?_digits nought zero
    · omega
  simp only [takeOctet?, Decimal.takeWhile_append (fun c => Decimal.isDigit_of_mem_digits) ends,
    Decimal.ofDigits_digits]
  rw [if_neg fits, List.drop_left, UInt8.ofNat_toNat]

theorem takeOctets?_octetsText (a b c d : UInt8) :
    takeOctets? (octetsText a b c d) = some ((a, b, c, d), []) := by
  have dot (rest : List Char) : ∀ c ∈ ('.' :: rest).head?, c.isDigit = false := by simp
  have last : takeOctet? (Decimal.digits d.toNat ++ []) = some (d, []) := takeOctet?_digits d nofun
  rw [List.append_nil] at last
  simp only [takeOctets?, octetsText, List.append_assoc, List.cons_append, takeOctet?_digits _ (dot _),
    takeChar?, if_true, last, Option.bind_eq_bind, Option.bind_some]

/-! ## Groups -/

theorem hexValue?_digitChar : ∀ digit < 16, hexValue? (Nat.digitChar digit) = some digit := by
  decide

theorem isSome_hexValue?_of_mem {value : Nat} {c : Char} (member : c ∈ Nat.toDigits 16 value) :
    (hexValue? c).isSome = true := by
  induction value using Nat.strongRecOn with
  | ind value ih =>
      by_cases small : value < 16
      · rw [Nat.toDigits_of_lt_base small] at member
        rw [List.mem_singleton.mp member, hexValue?_digitChar value small]
        rfl
      · rw [Nat.toDigits_of_base_le (by decide) (Nat.le_of_not_lt small)] at member
        rcases List.mem_append.mp member with high | low
        · exact ih (value / 16) (by omega) high
        · rw [List.mem_singleton.mp low, hexValue?_digitChar _ (Nat.mod_lt _ (by decide))]
          rfl

theorem ofHexDigits_toDigits (value : Nat) : ofHexDigits (Nat.toDigits 16 value) = value := by
  induction value using Nat.strongRecOn with
  | ind value ih =>
      by_cases small : value < 16
      · rw [Nat.toDigits_of_lt_base small]
        simp [ofHexDigits, hexValue?_digitChar value small]
      · rw [Nat.toDigits_of_base_le (by decide) (Nat.le_of_not_lt small), ofHexDigits,
          List.foldl_append, ← ofHexDigits, ih (value / 16) (by omega)]
        simp only [List.foldl_cons, List.foldl_nil,
          hexValue?_digitChar _ (Nat.mod_lt value (by decide)), Option.getD_some]
        omega

theorem isSome_hexValue?_of_mem_groupText {group : UInt16} :
    ∀ c ∈ groupText group, (hexValue? c).isSome = true :=
  fun _ => isSome_hexValue?_of_mem

def EndsGroup (rest : List Char) : Prop := ∀ c ∈ rest.head?, c = ':'

theorem EndsGroup.nil : EndsGroup [] := nofun

theorem EndsGroup.colon (rest : List Char) : EndsGroup (':' :: rest) := by
  intro c member
  exact (Option.some.inj member).symm

theorem takeGroup?_groupText (group : UInt16) {rest : List Char} (ends : EndsGroup rest) :
    takeGroup? (groupText group ++ rest) = some (group, rest) := by
  have stops : ∀ c ∈ rest.head?, (hexValue? c).isSome = false := by
    intro c member
    rw [ends c member]
    decide
  have fits : ¬(groupText group = [] ∨ 4 < (groupText group).length) := by
    have small : group.toNat < 65536 := group.toNat_lt
    rintro (empty | long)
    · exact Nat.toDigits_ne_nil empty
    · exact absurd ((Nat.length_toDigits_le_iff (by decide) (by decide)).mpr small)
        (Nat.not_le.mpr long)
  have row : (groupText group ++ rest).takeWhile (fun c => (hexValue? c).isSome) =
      groupText group := Decimal.takeWhile_append isSome_hexValue?_of_mem_groupText stops
  have value : ofHexDigits (groupText group) = group.toNat := ofHexDigits_toDigits _
  simp only [takeGroup?, row, value]
  rw [if_neg fits, List.drop_left, UInt16.ofNat_toNat]

theorem drop_length_takeWhile (wanted : Char → Bool) (text : List Char) :
    text.drop (text.takeWhile wanted).length = text.dropWhile wanted :=
  calc
    text.drop (text.takeWhile wanted).length
      = (text.takeWhile wanted ++ text.dropWhile wanted).drop (text.takeWhile wanted).length := by
        rw [List.takeWhile_append_dropWhile]
    _ = text.dropWhile wanted := List.drop_left

/-- Base sixteen digits do not start four octets when no point follows them. -/
theorem takeOctets?_eq_none {row rest : List Char} (hex : ∀ c ∈ row, (hexValue? c).isSome = true)
    (ends : EndsGroup rest) : takeOctets? (row ++ rest) = none := by
  have noPoint : takeChar? '.' ((row ++ rest).dropWhile Char.isDigit) = none := by
    induction row with
    | nil =>
        cases rest with
        | nil => rfl
        | cons c rest =>
            obtain rfl := ends c rfl
            rfl
    | cons c row ih =>
        obtain ⟨head, tail⟩ := List.forall_mem_cons.mp hex
        rw [List.cons_append, List.dropWhile_cons]
        split
        · exact ih tail
        · refine if_neg ?_
          rintro rfl
          exact absurd head (by decide)
  cases found : takeOctet? (row ++ rest) with
  | none => simp only [takeOctets?, found, Option.bind_eq_bind, Option.bind_none]
  | some taken =>
      obtain ⟨octet, after⟩ := taken
      have left : after = (row ++ rest).dropWhile Char.isDigit := by
        simp only [takeOctet?] at found
        split at found
        · cases found
        · rw [← drop_length_takeWhile]
          exact (Prod.mk.inj (Option.some.inj found)).2.symm
      simp only [takeOctets?, found, left, noPoint, Option.bind_eq_bind, Option.bind_some,
        Option.bind_none]

def laterGroups (groups : List UInt16) : List Char :=
  groups.flatMap fun group => ':' :: groupText group

theorem groupsText_cons (group : UInt16) (groups : List UInt16) :
    groupsText (group :: groups) = groupText group ++ laterGroups groups := by
  induction groups generalizing group with
  | nil => simp [groupsText, laterGroups]
  | cons next groups ih => simp [groupsText, ih, laterGroups]

inductive EndsGroups : List Char → Prop
  | nil : EndsGroups []
  | colons (rest : List Char) : EndsGroups (':' :: ':' :: rest)

theorem EndsGroups.endsGroup {rest : List Char} (ends : EndsGroups rest) (groups : List UInt16) :
    EndsGroup (laterGroups groups ++ rest) := by
  cases groups with
  | nil =>
      cases ends with
      | nil => exact .nil
      | colons => exact .colon _
  | cons group groups => exact .colon _

theorem takeOctets?_groupsText {groups : List UInt16} {rest : List Char} (ends : EndsGroups rest) :
    takeOctets? (groupsText groups ++ rest) = none := by
  cases groups with
  | nil => cases ends <;> rfl
  | cons group groups =>
      rw [groupsText_cons, List.append_assoc]
      exact takeOctets?_eq_none isSome_hexValue?_of_mem_groupText (ends.endsGroup groups)

theorem takeOctets?_colon (rest : List Char) : takeOctets? (':' :: rest) = none := rfl

theorem takeGroup?_colon (rest : List Char) : takeGroup? (':' :: rest) = none := rfl

theorem takeGroups_stop {rest : List Char} (ends : EndsGroups rest) (room : Nat) (first : Bool) :
    takeGroups room first rest = ([], false, rest) := by
  cases room with
  | zero => rfl
  | succ room =>
      cases ends with
      | nil =>
          cases first with
          | true => cases room <;> rfl
          | false => rfl
      | colons rest =>
          cases first with
          | true => simp [takeGroups, takeSeparator?, takeOctets?_colon, takeGroup?_colon]
          | false => simp [takeGroups, takeSeparator?, takeChar?, takeOctets?_colon, takeGroup?_colon]

/-- A group is taken in front of the others that there is room for. -/
theorem takeGroups_cons {room : Nat} {first : Bool} {text rest : List Char} (group : UInt16)
    (ends : EndsGroup rest)
    (start : takeSeparator? first text = some (groupText group ++ rest)) :
    takeGroups (room + 1) first text =
      (group :: (takeGroups room false rest).1, (takeGroups room false rest).2) := by
  have noOctets : (if 0 < room then takeOctets? (groupText group ++ rest) else none) = none := by
    rw [takeOctets?_eq_none isSome_hexValue?_of_mem_groupText ends, ite_self]
  simp only [takeGroups, start, noOctets, takeGroup?_groupText group ends]

theorem takeGroups_laterGroups {groups : List UInt16} {room : Nat} {rest : List Char}
    (fits : groups.length ≤ room) (ends : EndsGroups rest) :
    takeGroups room false (laterGroups groups ++ rest) = (groups, false, rest) := by
  induction groups generalizing room with
  | nil => exact takeGroups_stop ends room false
  | cons group groups ih =>
      cases room with
      | zero => exact absurd fits (Nat.not_succ_le_zero _)
      | succ room =>
          have start : takeSeparator? false (laterGroups (group :: groups) ++ rest) =
              some (groupText group ++ (laterGroups groups ++ rest)) := by
            simp [takeSeparator?, takeChar?, laterGroups]
          rw [takeGroups_cons group (ends.endsGroup groups) start,
            ih (Nat.le_of_succ_le_succ fits)]

theorem takeGroups_groupsText {groups : List UInt16} {room : Nat} {rest : List Char}
    (fits : groups.length ≤ room) (ends : EndsGroups rest) :
    takeGroups room true (groupsText groups ++ rest) = (groups, false, rest) := by
  cases groups with
  | nil => exact takeGroups_stop ends room true
  | cons group groups =>
      cases room with
      | zero => exact absurd fits (Nat.not_succ_le_zero _)
      | succ room =>
          have start : takeSeparator? true (groupsText (group :: groups) ++ rest) =
              some (groupText group ++ (laterGroups groups ++ rest)) := by
            rw [groupsText_cons, List.append_assoc]
            rfl
          rw [takeGroups_cons group (ends.endsGroup groups) start,
            takeGroups_laterGroups (Nat.le_of_succ_le_succ fits) ends]

/-! ## Runs of zeros -/

/-- The run that is found is a run of zeros with the other groups around it. -/
theorem longestZeros_spec {groups : List UInt16} {start place length : Nat}
    (found : longestZeros start groups = (place, length)) :
    ∃ before after, groups = before ++ List.replicate length 0 ++ after ∧
      place = start + before.length := by
  induction groups generalizing start with
  | nil =>
      obtain ⟨rfl, rfl⟩ := Prod.mk.inj found
      exact ⟨[], [], rfl, rfl⟩
  | cons group rest ih =>
      simp only [longestZeros] at found
      split at found
      · obtain ⟨rfl, rfl⟩ := Prod.mk.inj found
        refine ⟨[], (group :: rest).dropWhile (· == 0), ?_, rfl⟩
        have zeros : (group :: rest).takeWhile (· == 0) =
            List.replicate (zeroRun (group :: rest)) 0 :=
          List.eq_replicate_iff.mpr ⟨rfl, fun other member =>
            eq_of_beq (List.all_eq_true.mp List.all_takeWhile other member)⟩
        rw [List.nil_append, ← zeros, List.takeWhile_append_dropWhile]
      · obtain ⟨before, after, rfl, place⟩ := ih found
        exact ⟨group :: before, after, rfl, by rw [place, List.length_cons]; omega⟩

/-! ## Addresses -/

theorem takeV6?_groupsText {groups : List UInt16} (size : groups.length = 8) :
    takeV6? (groupsText groups) = some (groups, []) := by
  have taken := takeGroups_groupsText (Nat.le_of_eq size) .nil
  rw [List.append_nil] at taken
  simp only [takeV6?, taken, size, if_true]

/-- Two colons stand for the zeros that are left out. -/
theorem takeV6?_shortened {before after : List UInt16} {length : Nat} (long : 1 < length)
    (size : before.length + length + after.length = 8) :
    takeV6? (groupsText before ++ ':' :: ':' :: groupsText after) =
      some (before ++ List.replicate length 0 ++ after, []) := by
  have head : takeGroups 8 true (groupsText before ++ ':' :: ':' :: groupsText after) =
      (before, false, ':' :: ':' :: groupsText after) :=
    takeGroups_groupsText (by omega) (.colons _)
  have tail : takeGroups (8 - (before.length + 1)) true (groupsText after ++ []) =
      (after, false, []) := takeGroups_groupsText (by omega) .nil
  have short : before.length ≠ 8 := by omega
  have gap : 8 - before.length - after.length = length := by omega
  rw [List.append_nil] at tail
  simp only [takeV6?, head, tail, if_neg short, gap, takeChar?, if_true, Bool.false_eq_true,
    if_false, Option.bind_eq_bind, Option.bind_some]

theorem joinOctets_split (group : UInt16) :
    joinOctets (UInt8.ofNat (group.toNat / 256)) (UInt8.ofNat (group.toNat % 256)) = group := by
  have high : (UInt8.ofNat (group.toNat / 256)).toNat = group.toNat / 256 :=
    UInt8.toNat_ofNat_of_lt' (Nat.div_lt_of_lt_mul group.toNat_lt)
  have low : (UInt8.ofNat (group.toNat % 256)).toNat = group.toNat % 256 :=
    UInt8.toNat_ofNat_of_lt' (Nat.mod_lt _ (by decide))
  rw [joinOctets, high, low, Nat.div_add_mod', UInt16.ofNat_toNat]

theorem takeV6?_embedded (a b c d : UInt8) :
    takeV6? ("::ffff:".toList ++ octetsText a b c d) =
      some ([0, 0, 0, 0, 0, 0xFFFF, joinOctets a b, joinOctets c d], []) := by
  have head : takeGroups 8 true ("::ffff:".toList ++ octetsText a b c d) =
      ([], false, "::ffff:".toList ++ octetsText a b c d) := takeGroups_stop (.colons _) 8 true
  have octets : takeGroups 6 false (':' :: octetsText a b c d) =
      ([joinOctets a b, joinOctets c d], true, []) := by
    simp only [takeGroups, takeSeparator?, takeChar?, takeOctets?_octetsText, if_true,
      Bool.false_eq_true, if_false, Nat.zero_lt_succ]
  have tail : takeGroups 7 true (groupText 0xFFFF ++ ':' :: octetsText a b c d) =
      ([0xFFFF, joinOctets a b, joinOctets c d], true, []) := by
    rw [takeGroups_cons 0xFFFF (.colon _) rfl, octets]
  have text : "::ffff:".toList ++ octetsText a b c d =
      ':' :: ':' :: (groupText 0xFFFF ++ ':' :: octetsText a b c d) := rfl
  rw [text] at head ⊢
  simp only [takeV6?, head, tail, takeChar?, if_true, Bool.false_eq_true, if_false,
    Option.bind_eq_bind, Option.bind_some, List.length_nil]
  rfl

/-- The canonical text of eight groups is read as those groups, and not as four octets. -/
theorem take_groupsCanonical {groups : List UInt16} (size : groups.length = 8) :
    takeOctets? (groupsCanonical groups) = none ∧
      takeV6? (groupsCanonical groups) = some (groups, []) := by
  unfold groupsCanonical
  split
  · rename_i high low
    refine ⟨rfl, ?_⟩
    rw [takeV6?_embedded, joinOctets_split, joinOctets_split]
  · cases found : longestZeros 0 groups with
    | mk start length =>
        obtain ⟨before, after, rfl, place⟩ := longestZeros_spec found
        rw [Nat.zero_add] at place
        subst place
        dsimp only
        split
        · refine ⟨?_, takeV6?_groupsText size⟩
          rw [← List.append_nil (groupsText _)]
          exact takeOctets?_groupsText .nil
        · rename_i long
          have sizes : before.length + length + after.length = 8 := by
            simpa [Nat.add_assoc] using size
          have head : (before ++ List.replicate length 0 ++ after).take before.length = before := by
            simp
          have tail : (before ++ List.replicate length 0 ++ after).drop (before.length + length) =
              after := List.drop_left' (by simp)
          rw [head, tail, List.append_assoc]
          exact ⟨takeOctets?_groupsText (.colons _),
            takeV6?_shortened (Nat.lt_of_not_le long) sizes⟩

theorem parse?_chars (address : Address) : parse? address.chars = some address := by
  cases address with
  | v4 a b c d => simp only [parse?, chars, takeOctets?_octetsText, if_true]
  | v6 groups =>
      have size : groups.toList.length = 8 := groups.length_toList
      obtain ⟨noOctets, taken⟩ := take_groupsCanonical size
      simp only [parse?, chars, noOctets, taken, if_true, ofGroups?, dif_pos size]
      rfl

theorem parse?_render (address : Address) : parse? address.render.toList = some address := by
  rw [render, String.toList_ofList, parse?_chars]

end Address

end ServerManagement
