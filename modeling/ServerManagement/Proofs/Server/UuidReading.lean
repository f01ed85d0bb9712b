import ServerManagement.Server.Uuid

/-!
The written text of an identifier is read back as that identifier.
-/

set_option autoImplicit false

namespace ServerManagement.Uuid

theorem digit?_digitChar : ∀ digit : Fin 16, digit? (digitChar digit) = some digit := by decide

theorem mapM_digit? (digits : List (Fin 16)) :
    (digits.map digitChar).mapM digit? = some digits := by
  induction digits with
  | nil => rfl
  | cons digit digits ih =>
      rw [List.map_cons, List.mapM_cons, digit?_digitChar, ih]
      rfl

theorem ofRow?_digits (uuid : Uuid) : ofRow? (uuid.digits.toList.map digitChar) = some uuid := by
  have size : uuid.digits.toList.length = 32 := by simp
  simp only [ofRow?, mapM_digit?, dif_pos size]
  rfl

def ungroup (text : List Char) : List Char :=
  text.take 8 ++ (text.drop 9).take 4 ++ (text.drop 14).take 4 ++ (text.drop 19).take 4 ++
    text.drop 24

theorem length_hyphenate {row : List Char} (size : row.length = 32) :
    (hyphenate row).length = 36 := by
  simp only [hyphenate, List.length_append, List.length_cons, List.length_take, List.length_drop]
  omega

theorem ungroup_hyphenate {row : List Char} (size : row.length = 32) :
    ungroup (hyphenate row) = row := by
  obtain ⟨one, two, three, four, five, rfl, sizeOne, sizeTwo, sizeThree, sizeFour⟩ :
      ∃ one two three four five : List Char, row = one ++ (two ++ (three ++ (four ++ five))) ∧
        one.length = 8 ∧ two.length = 4 ∧ three.length = 4 ∧ four.length = 4 := by
    have group (start : Nat) : (row.drop start).take 4 ++ row.drop (start + 4) = row.drop start := by
      rw [← List.drop_drop, List.take_append_drop]
    refine ⟨row.take 8, (row.drop 8).take 4, (row.drop 12).take 4, (row.drop 16).take 4, row.drop 20,
      ?_, ?_⟩
    · rw [group 16, group 12, group 8, List.take_append_drop]
    · simp [size]
  have groups : hyphenate (one ++ (two ++ (three ++ (four ++ five)))) =
      one ++ '-' :: (two ++ '-' :: (three ++ '-' :: (four ++ '-' :: five))) := by
    simp [hyphenate, List.drop_append, List.drop_of_length_le, sizeOne, sizeTwo, sizeThree, sizeFour]
  rw [groups]
  simp [ungroup, List.drop_append, List.drop_of_length_le, sizeOne, sizeTwo, sizeThree, sizeFour]

theorem parse?_render (uuid : Uuid) : parse? uuid.render = some uuid := by
  have size : (uuid.digits.toList.map digitChar).length = 32 := by simp
  have length := length_hyphenate size
  have row := ungroup_hyphenate size
  simp only [ungroup] at row
  simp only [parse?, render, String.toList_ofList, chars, ofChars?, length, ofHyphenated?, row,
    ofRow?_digits]
  rfl

end ServerManagement.Uuid
