import ServerManagement.Proofs.Json.ValueReading

/-!
The printed text of a value spells it, so that a value in memory with whole numbers is read back as
it was.
-/

set_option autoImplicit false

namespace ServerManagement.Json

def Number.isWord : Number → Bool
  | .integer value => Json.isWord value
  | .double _ => false

namespace Value

def hasWords (value : Value) : Bool := value.every Number.isWord fun _ => true

/-- A value in memory all of whose numbers are whole. -/
structure IsPlain (value : Value) : Prop where
  words : value.hasWords = true
  sorted : value.isSorted = true

end Value

/-! ## Items and members -/

theorem spells_itemsChars {first : Bool} {gap : Bytes} (apart : Gap first gap) {item : Value}
    {items : List Value}
    (each : ∀ part ∈ item :: items, Spells (bytesOfChars part.chars) (.value part)) :
    Spells (gap ++ (bytesOfChars (Value.itemsChars (item :: items)) ++ [0x5D]))
      (.items first (item :: items)) := by
  induction items generalizing first gap item with
  | nil => exact .item apart (each item (List.mem_cons_self ..)) (.endOfItems blank_nil)
  | cons next items ih =>
      have more := ih (.comma blank_nil blank_nil) fun part inside =>
        each part (List.mem_cons_of_mem _ inside)
      have comma : String.utf8EncodeChar ',' = [0x2C] := rfl
      have split : bytesOfChars (Value.itemsChars (item :: next :: items)) =
          bytesOfChars item.chars ++ 0x2C :: bytesOfChars (Value.itemsChars (next :: items)) := by
        rw [Value.itemsChars, bytesOfChars_append, bytesOfChars_cons, comma, List.singleton_append]
      rw [split, List.append_assoc]
      exact .item apart (each item (List.mem_cons_self ..)) more

theorem spells_membersChars {first : Bool} {gap : Bytes} (apart : Gap first gap)
    {member : String × Value} {members : Members}
    (each : ∀ part ∈ member :: members, Spells (bytesOfChars part.2.chars) (.value part.2)) :
    Spells (gap ++ (bytesOfChars (Value.membersChars (member :: members)) ++ [0x7D]))
      (.members first (member :: members)) := by
  have colon : String.utf8EncodeChar ':' = [0x3A] := rfl
  induction members generalizing first gap member with
  | nil =>
      have split : bytesOfChars (Value.membersChars [member]) =
          0x22 :: (printedTail member.1 ++ 0x3A :: bytesOfChars member.2.chars) := by
        rw [Value.membersChars, bytesOfChars_append, bytesOfChars_cons, colon,
          bytesOfChars_stringChars, List.cons_append, List.singleton_append]
      rw [split, List.cons_append, List.append_assoc]
      exact .member apart (spelling_printedTail member.1) blank_nil blank_nil
        (each member (List.mem_cons_self ..)) (.endOfMembers blank_nil)
  | cons next members ih =>
      have more := ih (.comma blank_nil blank_nil) fun part inside =>
        each part (List.mem_cons_of_mem _ inside)
      have comma : String.utf8EncodeChar ',' = [0x2C] := rfl
      have split : bytesOfChars (Value.membersChars (member :: next :: members)) =
          0x22 :: (printedTail member.1 ++ 0x3A :: (bytesOfChars member.2.chars ++
            0x2C :: bytesOfChars (Value.membersChars (next :: members)))) := by
        rw [Value.membersChars, bytesOfChars_append, bytesOfChars_append, bytesOfChars_cons,
          bytesOfChars_cons, colon, comma, bytesOfChars_stringChars]
        simp only [List.cons_append, List.nil_append, List.append_assoc]
      rw [split]
      simp only [List.cons_append, List.append_assoc]
      exact .member apart (spelling_printedTail member.1) blank_nil blank_nil
        (each member (List.mem_cons_self ..)) more

theorem spells_object {members : Members}
    (each : ∀ member ∈ members, Spells (bytesOfChars member.2.chars) (.value member.2)) :
    Spells (bytesOfChars (Value.object members).chars) (.value (.object members)) := by
  have opening : String.utf8EncodeChar '{' = [0x7B] := rfl
  have closing : String.utf8EncodeChar '}' = [0x7D] := rfl
  have split : bytesOfChars (Value.object members).chars =
      0x7B :: (bytesOfChars (Value.membersChars members) ++ [0x7D]) := by
    rw [Value.chars, bytesOfChars_append, bytesOfChars_cons, bytesOfChars_cons, opening, closing]
    rfl
  rw [split]
  refine .object ?_
  cases members with
  | nil => exact .endOfMembers blank_nil
  | cons member members => exact spells_membersChars (.first blank_nil) each

/-! ## Values -/

theorem spells_chars {value : Value} (words : value.hasWords = true) :
    Spells (bytesOfChars value.chars) (.value value) := by
  induction value using Value.induction with
  | null => exact .scalar .null
  | bool value =>
      cases value with
      | true => exact .scalar .yes
      | false => exact .scalar .no
  | number value =>
      cases value with
      | integer value =>
          exact .scalar (.number (numeralSpelling_signedDigits value) (number?_signedDigits words))
      | double value => cases words
  | text value =>
      rw [Value.chars, bytesOfChars_stringChars]
      exact .scalar (.text (spelling_printedTail value))
  | array items ih =>
      rw [Value.hasWords, Value.every, Value.everyItem_iff] at words
      have each : ∀ item ∈ items, Spells (bytesOfChars item.chars) (.value item) :=
        fun item member => ih item member (words item member)
      have opening : String.utf8EncodeChar '[' = [0x5B] := rfl
      have closing : String.utf8EncodeChar ']' = [0x5D] := rfl
      have split : bytesOfChars (Value.array items).chars =
          0x5B :: (bytesOfChars (Value.itemsChars items) ++ [0x5D]) := by
        rw [Value.chars, bytesOfChars_append, bytesOfChars_cons, bytesOfChars_cons, opening,
          closing]
        rfl
      rw [split]
      refine .list ?_
      cases items with
      | nil => exact .endOfItems blank_nil
      | cons item items => exact spells_itemsChars (.first blank_nil) each
  | object members ih =>
      rw [Value.hasWords, Value.every, Bool.and_eq_true, Value.everyMember_iff] at words
      exact spells_object fun member inside => ih member inside (words.2 member inside)

theorem Value.denotes_render {value : Value} (words : value.hasWords = true) :
    Denotes (bytesOf value.render) value := by
  refine ⟨[], _, [], ?_, blank_nil, spells_chars words, blank_nil⟩
  rw [Value.render, bytesOf_ofList, List.nil_append, List.append_nil]

/-- Printed values are read back, as long as a frame may nest that deep. -/
theorem Value.parse_render {value : Value} (plain : value.IsPlain)
    (shallow : value.depth ≤ frameBudget) : Value.parse (bytesOf value.render) = .ok value :=
  Value.parse_eq_ok_iff.mpr
    ⟨value, Value.denotes_render plain.words, shallow, Value.sorted_of_isSorted plain.sorted⟩

end ServerManagement.Json
