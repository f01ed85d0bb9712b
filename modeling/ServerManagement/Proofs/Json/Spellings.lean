import ServerManagement.Json.Reader
import ServerManagement.Proofs.Json.Numerals

/-!
How values may be spelled: with blanks between the tokens, with any spelling of strings and numbers,
and with the members of objects in any order. What is spelled is the value as it is written, whose
objects list their members in that order, repeated ones included.
-/

set_option autoImplicit false

namespace ServerManagement.Json

/-! ## Blanks -/

def Blank (row : Bytes) : Prop := ∀ byte ∈ row, isBlankByte byte = true

theorem blank_nil : Blank [] := fun _ member => nomatch member

theorem skipBlanks_append {before : Bytes} (blank : Blank before) (rest : Bytes) :
    skipBlanks (before ++ rest) = skipBlanks rest :=
  List.dropWhile_append_of_pos blank

theorem skipBlanks_cons {byte : UInt8} (visible : isBlankByte byte = false) (rest : Bytes) :
    skipBlanks (byte :: rest) = byte :: rest := by
  simp [skipBlanks, visible]

theorem skipBlanks_of_blank {row : Bytes} (blank : Blank row) : skipBlanks row = [] := by
  simpa [skipBlanks] using skipBlanks_append blank []

/-- The blanks that stand in front. -/
theorem exists_blank (input : Bytes) : ∃ before, Blank before ∧ input = before ++ skipBlanks input :=
  ⟨input.takeWhile isBlankByte, fun _ => List.all_eq_true.mp List.all_takeWhile _,
    (List.takeWhile_append_dropWhile ..).symm⟩

theorem blank_of_skipBlanks {input : Bytes} (empty : skipBlanks input = []) : Blank input := by
  obtain ⟨before, blank, same⟩ := exists_blank input
  rw [empty, List.append_nil] at same
  exact same ▸ blank

/-! ## Spellings -/

inductive ScalarSpelling : Bytes → Value → Prop
  | null : ScalarSpelling [0x6E, 0x75, 0x6C, 0x6C] .null
  | yes : ScalarSpelling [0x74, 0x72, 0x75, 0x65] (.bool true)
  | no : ScalarSpelling [0x66, 0x61, 0x6C, 0x73, 0x65] (.bool false)
  | text {used : Bytes} {text : String} (spelling : TextSpelling used text) :
      ScalarSpelling (0x22 :: used) (.text text)
  | number {used : Bytes} {numeral : Numeral} {number : Number}
      (spelling : NumeralSpelling used numeral) (denotes : numeral.number? = some number) :
      ScalarSpelling used (.number number)

/-- What a piece of a text stands for: a value, or what comes after the opening byte of a list or an
object; `first` says that nothing has come in between. -/
inductive Part where
  | value (value : Value)
  | items (first : Bool) (items : List Value)
  | members (first : Bool) (members : Members)

inductive Gap : Bool → Bytes → Prop
  | first {before : Bytes} (blank : Blank before) : Gap true before
  | comma {before after : Bytes} (blankBefore : Blank before) (blankAfter : Blank after) :
      Gap false (before ++ 0x2C :: after)

inductive Spells : Bytes → Part → Prop
  | scalar {used : Bytes} {value : Value} (spelling : ScalarSpelling used value) :
      Spells used (.value value)
  | list {body : Bytes} {items : List Value} (inside : Spells body (.items true items)) :
      Spells (0x5B :: body) (.value (.array items))
  | object {body : Bytes} {members : Members} (inside : Spells body (.members true members)) :
      Spells (0x7B :: body) (.value (.object members))
  | endOfItems {first : Bool} {before : Bytes} (blank : Blank before) :
      Spells (before ++ [0x5D]) (.items first [])
  | item {first : Bool} {gap used tail : Bytes} {value : Value} {items : List Value}
      (apart : Gap first gap) (head : Spells used (.value value))
      (rest : Spells tail (.items false items)) :
      Spells (gap ++ (used ++ tail)) (.items first (value :: items))
  | endOfMembers {first : Bool} {before : Bytes} (blank : Blank before) :
      Spells (before ++ [0x7D]) (.members first [])
  | member {first : Bool} {gap name before after used tail : Bytes} {key : String} {value : Value}
      {members : Members} (apart : Gap first gap) (named : TextSpelling name key)
      (blankBefore : Blank before) (blankAfter : Blank after) (head : Spells used (.value value))
      (rest : Spells tail (.members false members)) :
      Spells (gap ++ 0x22 :: (name ++ (before ++ 0x3A :: (after ++ (used ++ tail)))))
        (.members first ((key, value) :: members))

/-- A whole text denotes a value as it is written. -/
def Denotes (text : Bytes) (tree : Value) : Prop :=
  ∃ before used after, text = before ++ (used ++ after) ∧ Blank before ∧
    Spells used (.value tree) ∧ Blank after

/-! ## What spellings start with -/

theorem digit_of_isDigitByte {byte : UInt8} (digit : isDigitByte byte = true) :
    0x30 ≤ byte.toNat ∧ byte.toNat ≤ 0x39 := by
  simpa [isDigitByte, UInt8.le_iff_toNat_le] using digit

theorem opened?_eq_list_iff {byte : UInt8} : opened? byte = some .list ↔ byte = 0x5B := by
  unfold opened?
  split
  · simp_all
  · split <;> simp_all

theorem opened?_eq_object_iff {byte : UInt8} : opened? byte = some .object ↔ byte = 0x7B := by
  unfold opened?
  split
  · simp_all
  · split <;> simp_all

structure TokenHead (byte : UInt8) : Prop where
  visible : isBlankByte byte = false
  unopened : opened? byte = none
  closing : byte ≠ 0x5D

theorem tokenHead_of_numeral {byte : UInt8} (start : byte = 0x2D ∨ isDigitByte byte = true) :
    TokenHead byte := by
  rcases start with rfl | digit
  · exact ⟨rfl, rfl, by decide⟩
  · obtain ⟨low, high⟩ := digit_of_isDigitByte digit
    have other {letter : UInt8} (outside : letter.toNat < 0x30 ∨ 0x39 < letter.toNat) :
        byte ≠ letter := by
      rintro rfl
      omega
    refine ⟨?_, ?_, other (by decide)⟩
    · have space : byte ≠ 0x20 := other (by decide)
      have tab : byte ≠ 0x09 := other (by decide)
      have feed : byte ≠ 0x0A := other (by decide)
      have turn : byte ≠ 0x0D := other (by decide)
      simp [isBlankByte, space, tab, feed, turn]
    · have list : byte ≠ 0x5B := other (by decide)
      have object : byte ≠ 0x7B := other (by decide)
      simp [opened?, list, object]

/-- The first byte of a number leads the reader to the number. -/
theorem numeral_head {used : Bytes} {numeral : Numeral} (spelling : NumeralSpelling used numeral) :
    ∃ byte tail, used = byte :: tail ∧ byte ≠ 0x6E ∧ byte ≠ 0x74 ∧ byte ≠ 0x66 ∧ byte ≠ 0x22 ∧
      (byte = 0x2D ∨ isDigitByte byte = true) := by
  obtain ⟨byte, tail, same, start⟩ := spelling.head
  have other {letter : UInt8} (minus : letter ≠ 0x2D) (digit : isDigitByte letter = false) :
      byte ≠ letter := by
    rintro rfl
    rcases start with same | isDigit
    · exact minus same
    · exact Bool.false_ne_true (digit.symm.trans isDigit)
  exact ⟨byte, tail, same, other (by decide) rfl, other (by decide) rfl, other (by decide) rfl,
    other (by decide) rfl, start⟩

structure ScalarHead (byte : UInt8) (value : Value) : Prop extends TokenHead byte where
  null : byte = 0x6E ↔ value = .null

theorem ScalarSpelling.head {used : Bytes} {value : Value} (spelling : ScalarSpelling used value) :
    ∃ byte tail, used = byte :: tail ∧ ScalarHead byte value := by
  cases spelling with
  | null => exact ⟨_, _, rfl, ⟨rfl, rfl, by decide⟩, by decide⟩
  | yes => exact ⟨_, _, rfl, ⟨rfl, rfl, by decide⟩, by simp⟩
  | no => exact ⟨_, _, rfl, ⟨rfl, rfl, by decide⟩, by simp⟩
  | text spelling => exact ⟨_, _, rfl, ⟨rfl, rfl, by decide⟩, by simp⟩
  | number spelling denotes =>
      obtain ⟨byte, tail, rfl, null, _, _, _, start⟩ := numeral_head spelling
      exact ⟨byte, tail, rfl, tokenHead_of_numeral start, by simp [null]⟩

structure ValueHead (byte : UInt8) (value : Value) : Prop where
  visible : isBlankByte byte = false
  closing : byte ≠ 0x5D
  null : byte = 0x6E ↔ value = .null
  list : byte = 0x5B ↔ ∃ items, value = .array items
  object : byte = 0x7B ↔ ∃ members, value = .object members

theorem ScalarSpelling.not_container {used : Bytes} {value : Value}
    (spelling : ScalarSpelling used value) :
    (¬∃ items, value = .array items) ∧ ¬∃ members, value = .object members := by
  cases spelling <;> simp

theorem Spells.head {used : Bytes} {value : Value} (spells : Spells used (.value value)) :
    ∃ byte tail, used = byte :: tail ∧ ValueHead byte value := by
  cases spells with
  | scalar spelling =>
      obtain ⟨byte, tail, same, head⟩ := spelling.head
      have unopened := head.unopened
      have list : byte ≠ 0x5B := by
        rintro rfl
        cases unopened
      have object : byte ≠ 0x7B := by
        rintro rfl
        cases unopened
      obtain ⟨noList, noObject⟩ := spelling.not_container
      exact ⟨byte, tail, same, head.visible, head.closing, head.null, iff_of_false list noList,
        iff_of_false object noObject⟩
  | list inside => exact ⟨_, _, rfl, rfl, by decide, by simp, by simp, by simp⟩
  | object inside => exact ⟨_, _, rfl, rfl, by decide, by simp, by simp, by simp⟩

/-! ## What follows an item -/

/-- Blanks, then a byte that does not go on with a numeral. -/
theorem endsNumeral_of_blank {before : Bytes} (blank : Blank before) {byte : UInt8} {rest : Bytes}
    (ends : EndsNumeral (byte :: rest)) : EndsNumeral (before ++ byte :: rest) := by
  cases before with
  | nil => exact ends
  | cons other before =>
      intro first head
      obtain rfl := Option.some.inj head
      have blank := blank other (List.mem_cons_self ..)
      refine ⟨?_, ?_, ?_, ?_⟩
      · simp only [isBlankByte, Bool.or_eq_true, beq_iff_eq] at blank
        rcases blank with ((rfl | rfl) | rfl) | rfl <;> rfl
      all_goals
        rintro rfl
        cases blank

theorem endsNumeral_cons {byte : UInt8}
    (ends : isDigitByte byte = false ∧ byte ≠ 0x2E ∧ byte ≠ 0x65 ∧ byte ≠ 0x45) (rest : Bytes) :
    EndsNumeral (byte :: rest) := by
  intro first head
  obtain rfl := Option.some.inj head
  exact ends

theorem endsNumeral_of_isBlank {row : Bytes} (blank : Blank row) : EndsNumeral row := by
  cases row with
  | nil => exact fun _ head => nomatch head
  | cons byte row =>
      have rest : Blank [byte] := fun other member =>
        blank other (List.mem_cons.mpr (.inl (List.mem_singleton.mp member)))
      have comma : EndsNumeral (0x2C :: row) := endsNumeral_cons (by decide) row
      have ends := endsNumeral_of_blank rest comma
      intro first head
      exact ends first head

theorem Gap.endsNumeral {gap : Bytes} (apart : Gap false gap) (rest : Bytes) :
    EndsNumeral (gap ++ rest) := by
  cases apart with
  | comma blankBefore _ =>
      rw [List.append_assoc]
      exact endsNumeral_of_blank blankBefore (endsNumeral_cons (by decide) _)

theorem Spells.endsNumeral_of_items {tail : Bytes} {items : List Value}
    (spells : Spells tail (.items false items)) (rest : Bytes) : EndsNumeral (tail ++ rest) := by
  cases spells with
  | endOfItems blank =>
      rw [List.append_assoc]
      exact endsNumeral_of_blank blank (endsNumeral_cons (by decide) _)
  | item apart _ _ =>
      rw [List.append_assoc]
      exact apart.endsNumeral _

theorem Spells.endsNumeral_of_members {tail : Bytes} {members : Members}
    (spells : Spells tail (.members false members)) (rest : Bytes) :
    EndsNumeral (tail ++ rest) := by
  cases spells with
  | endOfMembers blank =>
      rw [List.append_assoc]
      exact endsNumeral_of_blank blank (endsNumeral_cons (by decide) _)
  | member apart _ _ _ _ _ =>
      rw [List.append_assoc]
      exact apart.endsNumeral _

/-! ## Scalars -/

theorem readWord_append (word rest : Bytes) : readWord word (word ++ rest) = .ok rest := by
  induction word with
  | nil => rfl
  | cons letter word ih => simpa [readWord] using ih

theorem eq_append_of_readWord {word input rest : Bytes} (read : readWord word input = .ok rest) :
    input = word ++ rest := by
  induction word generalizing input with
  | nil => exact Except.ok.inj read
  | cons letter word ih =>
      cases input with
      | nil => cases read
      | cons byte input =>
          simp only [readWord] at read
          split at read
          · rename_i same
            rw [ih read, same, List.cons_append]
          · cases read

namespace ScalarSpelling

variable {used rest : Bytes} {value : Value}

theorem read (spelling : ScalarSpelling used value) (ends : EndsNumeral rest) :
    readScalar (used ++ rest) = .ok (value, rest) := by
  cases spelling with
  | null =>
      exact congrArg (Except.map (Value.null, ·)) (readWord_append [0x75, 0x6C, 0x6C] rest)
  | yes =>
      exact congrArg (Except.map (Value.bool true, ·)) (readWord_append [0x72, 0x75, 0x65] rest)
  | no =>
      exact congrArg (Except.map (Value.bool false, ·))
        (readWord_append [0x61, 0x6C, 0x73, 0x65] rest)
  | text spelling =>
      exact congrArg (Except.map fun read => (Value.text read.1, read.2)) (spelling.read rest)
  | number spelling denotes =>
      obtain ⟨byte, tail, rfl, null, yes, no, quote, start⟩ := numeral_head spelling
      have read := spelling.read ends .endInValue
      rw [List.cons_append] at read ⊢
      simp only [readScalar, if_neg null, if_neg yes, if_neg no, if_neg quote, if_pos start,
        readNumber, read, denotes, Except.map]

end ScalarSpelling

theorem scalarSpelling_of_read {input rest : Bytes} {value : Value}
    (read : readScalar input = .ok (value, rest)) :
    ∃ used, input = used ++ rest ∧ ScalarSpelling used value := by
  unfold readScalar at read
  split at read
  · cases read
  rename_i byte tail
  split at read
  · rename_i letter
    obtain ⟨after, found, same⟩ := map_eq_ok.mp read
    obtain ⟨rfl, rfl⟩ := Prod.mk.inj same
    exact ⟨_, by rw [letter, eq_append_of_readWord found]; rfl, .null⟩
  split at read
  · rename_i letter
    obtain ⟨after, found, same⟩ := map_eq_ok.mp read
    obtain ⟨rfl, rfl⟩ := Prod.mk.inj same
    exact ⟨_, by rw [letter, eq_append_of_readWord found]; rfl, .yes⟩
  split at read
  · rename_i letter
    obtain ⟨after, found, same⟩ := map_eq_ok.mp read
    obtain ⟨rfl, rfl⟩ := Prod.mk.inj same
    exact ⟨_, by rw [letter, eq_append_of_readWord found]; rfl, .no⟩
  split at read
  · rename_i quote
    obtain ⟨⟨text, after⟩, found, same⟩ := map_eq_ok.mp read
    obtain ⟨rfl, rfl⟩ := Prod.mk.inj same
    obtain ⟨used, rfl, spelling⟩ := spelling_of_readString found
    exact ⟨0x22 :: used, by rw [quote, List.cons_append], .text spelling⟩
  split at read
  · obtain ⟨⟨number, after⟩, found, same⟩ := map_eq_ok.mp read
    obtain ⟨rfl, rfl⟩ := Prod.mk.inj same
    unfold readNumber at found
    split at found
    · cases found
    · rename_i numeral
      split at found
      · cases found
      · rename_i denotes
        obtain ⟨rfl, rfl⟩ := Prod.mk.inj (Except.ok.inj found)
        obtain ⟨used, split, spelling⟩ := numeralSpelling_of_read numeral
        exact ⟨used, split, .number spelling denotes⟩
  · cases read

/-! ## Between items -/

theorem Gap.nextItem {first : Bool} {gap : Bytes} (apart : Gap first gap) {byte : UInt8}
    (visible : isBlankByte byte = false) (goesOn : byte ≠ 0x5D) (rest : Bytes) :
    nextItem first (gap ++ byte :: rest) = .ok (.item (byte :: rest)) := by
  cases apart with
  | first blank =>
      simp [Json.nextItem, skipBlanks_append blank, skipBlanks_cons visible, goesOn]
  | comma blankBefore blankAfter =>
      have comma : isBlankByte 0x2C = false := rfl
      simp [Json.nextItem, skipBlanks_append blankBefore, skipBlanks_append blankAfter,
        skipBlanks_cons comma, skipBlanks_cons visible, goesOn]

theorem nextItem_finished_iff {first : Bool} {input rest : Bytes} :
    nextItem first input = .ok (.finished rest) ↔ skipBlanks input = 0x5D :: rest := by
  constructor
  · intro ends
    unfold nextItem at ends
    split at ends
    · cases ends
    rename_i byte tail start
    split at ends
    · rename_i closing
      obtain rfl := Next.finished.inj (Except.ok.inj ends)
      rw [start, closing]
    · repeat' split at ends
      all_goals cases ends
  · intro start
    simp [nextItem, start]

theorem nextItem_of_end {before : Bytes} (blank : Blank before) (first : Bool) (rest : Bytes) :
    nextItem first (before ++ 0x5D :: rest) = .ok (.finished rest) := by
  rw [nextItem_finished_iff, skipBlanks_append blank]
  exact skipBlanks_cons rfl rest

theorem Gap.nextKey {first : Bool} {gap : Bytes} (apart : Gap first gap) (rest : Bytes) :
    nextKey first (gap ++ 0x22 :: rest) = .ok (.item rest) := by
  have quote : isBlankByte 0x22 = false := rfl
  cases apart with
  | first blank => simp [Json.nextKey, skipBlanks_append blank, skipBlanks_cons quote]
  | comma blankBefore blankAfter =>
      have comma : isBlankByte 0x2C = false := rfl
      simp [Json.nextKey, skipBlanks_append blankBefore, skipBlanks_append blankAfter,
        skipBlanks_cons comma, skipBlanks_cons quote]

theorem nextKey_of_end {before : Bytes} (blank : Blank before) (first : Bool) (rest : Bytes) :
    nextKey first (before ++ 0x7D :: rest) = .ok (.finished rest) := by
  have visible : isBlankByte 0x7D = false := rfl
  simp [nextKey, skipBlanks_append blank, skipBlanks_cons visible]

theorem readColon_append {before : Bytes} (blank : Blank before) (rest : Bytes) :
    readColon (before ++ 0x3A :: rest) = .ok rest := by
  have visible : isBlankByte 0x3A = false := rfl
  simp [readColon, skipBlanks_append blank, skipBlanks_cons visible]

theorem gap_of_nextItem {first : Bool} {input start : Bytes}
    (next : nextItem first input = .ok (.item start)) :
    ∃ gap, input = gap ++ start ∧ Gap first gap := by
  obtain ⟨before, blankBefore, same⟩ := exists_blank input
  unfold nextItem at next
  split at next
  · cases next
  rename_i byte rest found
  rw [found] at same
  split at next
  · cases next
  split at next
  · rename_i isFirst
    subst isFirst
    obtain rfl := Next.item.inj (Except.ok.inj next)
    exact ⟨before, same, .first blankBefore⟩
  rename_i later
  obtain rfl := Bool.eq_false_iff.mpr later
  split at next
  · rename_i comma
    obtain ⟨after, blankAfter, sameAfter⟩ := exists_blank rest
    split at next
    · cases next
    rename_i first more foundAfter
    rw [foundAfter] at sameAfter
    split at next
    · cases next
    obtain rfl := Next.item.inj (Except.ok.inj next)
    refine ⟨before ++ 0x2C :: after, ?_, .comma blankBefore blankAfter⟩
    rw [same, comma, sameAfter, List.append_assoc, List.cons_append]
  · cases next

theorem blank_of_nextItem {first : Bool} {input rest : Bytes}
    (next : nextItem first input = .ok (.finished rest)) :
    ∃ before, input = before ++ 0x5D :: rest ∧ Blank before := by
  obtain ⟨before, blank, same⟩ := exists_blank input
  exact ⟨before, nextItem_finished_iff.mp next ▸ same, blank⟩

theorem gap_of_nextKey {first : Bool} {input start : Bytes}
    (next : nextKey first input = .ok (.item start)) :
    ∃ gap, input = gap ++ 0x22 :: start ∧ Gap first gap := by
  obtain ⟨before, blankBefore, same⟩ := exists_blank input
  unfold nextKey at next
  split at next
  · cases next
  rename_i byte rest found
  rw [found] at same
  split at next
  · cases next
  split at next
  · rename_i isFirst
    subst isFirst
    split at next
    · rename_i quote
      obtain rfl := Next.item.inj (Except.ok.inj next)
      exact ⟨before, quote ▸ same, .first blankBefore⟩
    · cases next
  rename_i later
  obtain rfl := Bool.eq_false_iff.mpr later
  split at next
  · rename_i comma
    obtain ⟨after, blankAfter, sameAfter⟩ := exists_blank rest
    split at next
    · cases next
    rename_i first more foundAfter
    rw [foundAfter] at sameAfter
    split at next
    · cases next
    split at next
    · rename_i quote
      obtain rfl := Next.item.inj (Except.ok.inj next)
      refine ⟨before ++ 0x2C :: after, ?_, .comma blankBefore blankAfter⟩
      rw [same, comma, sameAfter, quote, List.append_assoc, List.cons_append]
    · cases next
  · cases next

theorem blank_of_nextKey {first : Bool} {input rest : Bytes}
    (next : nextKey first input = .ok (.finished rest)) :
    ∃ before, input = before ++ 0x7D :: rest ∧ Blank before := by
  obtain ⟨before, blank, same⟩ := exists_blank input
  unfold nextKey at next
  split at next
  · cases next
  rename_i byte tail found
  rw [found] at same
  split at next
  · rename_i closing
    obtain rfl := Next.finished.inj (Except.ok.inj next)
    exact ⟨before, closing ▸ same, blank⟩
  · repeat' split at next
    all_goals cases next

theorem blank_of_readColon {input rest : Bytes} (read : readColon input = .ok rest) :
    ∃ before, input = before ++ 0x3A :: rest ∧ Blank before := by
  obtain ⟨before, blank, same⟩ := exists_blank input
  unfold readColon at read
  split at read
  · cases read
  rename_i byte tail found
  rw [found] at same
  split at read
  · rename_i colon
    obtain rfl := Except.ok.inj read
    exact ⟨before, colon ▸ same, blank⟩
  · cases read

end ServerManagement.Json
