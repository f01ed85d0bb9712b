import ServerManagement.Proofs.Json.Spellings

/-!
How texts are laid out: tokens in the order that the grammar asks for, with blanks between them. An
outline keeps the tokens as they stand, so that it says nothing about blanks and everything else
about a text. The grammar does not ask whether a string denotes characters or a number has a double.
-/

set_option autoImplicit false

namespace ServerManagement.Json

/-! ## Tokens -/

inductive StringShape : Bytes → Prop
  | close : StringShape [0x22]
  | plain {byte : UInt8} {used : Bytes} (quote : byte ≠ 0x22) (slash : byte ≠ 0x5C)
      (visible : ¬byte < 0x20) (rest : StringShape used) : StringShape (byte :: used)
  | short {letter byte : UInt8} {used : Bytes} (long : letter ≠ 0x75)
      (stands : shortEscape? letter = some byte) (rest : StringShape used) :
      StringShape (0x5C :: letter :: used)
  | unit {a b c d : UInt8} {unit : Nat} {used : Bytes} (hex : hexQuad? a b c d = some unit)
      (rest : StringShape used) : StringShape (0x5C :: 0x75 :: a :: b :: c :: d :: used)

inductive Token : Bytes → Prop
  | null : Token [0x6E, 0x75, 0x6C, 0x6C]
  | yes : Token [0x74, 0x72, 0x75, 0x65]
  | no : Token [0x66, 0x61, 0x6C, 0x73, 0x65]
  | text {used : Bytes} (shape : StringShape used) : Token (0x22 :: used)
  | number {used : Bytes} {numeral : Numeral} (spelling : NumeralSpelling used numeral) : Token used

theorem StringSpelling.shape {used content : Bytes} (spelling : StringSpelling used content) :
    StringShape used := by
  induction spelling with
  | close => exact .close
  | plain quote slash visible _ ih => exact .plain quote slash visible ih
  | short long stands _ ih => exact .short long stands ih
  | unit hex _ _ _ ih => exact .unit hex ih
  | pair hex _ _ other _ _ ih => exact .unit hex (.unit other ih)

theorem TextSpelling.shape {used : Bytes} {text : String} (spelling : TextSpelling used text) :
    StringShape used := by
  obtain ⟨content, spelled, _⟩ := spelling
  exact spelled.shape

theorem ScalarSpelling.token {used : Bytes} {value : Value} (spelling : ScalarSpelling used value) :
    Token used := by
  cases spelling with
  | null => exact .null
  | yes => exact .yes
  | no => exact .no
  | text spelling => exact .text spelling.shape
  | number spelling _ => exact .number spelling

theorem StringShape.skip {used : Bytes} (shape : StringShape used) (rest : Bytes) :
    skipString (used ++ rest) = .ok rest := by
  induction shape with
  | close =>
      rw [List.cons_append, skipString.eq_def]
      rfl
  | plain quote slash visible _ ih =>
      rw [List.cons_append, skipString.eq_def]
      simp [quote, slash, visible, ih]
  | short long stands _ ih =>
      rw [List.cons_append, skipString.eq_def]
      simp [long, stands, ih]
  | unit hex _ ih =>
      rw [List.cons_append, skipString.eq_def]
      simp [hex, ih]

namespace Token

variable {token rest : Bytes}

theorem head (shape : Token token) : ∃ byte tail, token = byte :: tail ∧ TokenHead byte := by
  cases shape with
  | null | yes | no | text => exact ⟨_, _, rfl, rfl, rfl, by decide⟩
  | number spelling =>
      obtain ⟨byte, tail, same, _, _, _, _, start⟩ := numeral_head spelling
      exact ⟨byte, tail, same, tokenHead_of_numeral start⟩

theorem skip (shape : Token token) (ends : EndsNumeral rest) :
    skipScalar (token ++ rest) = .ok rest := by
  cases shape with
  | null => exact readWord_append [0x75, 0x6C, 0x6C] rest
  | yes => exact readWord_append [0x72, 0x75, 0x65] rest
  | no => exact readWord_append [0x61, 0x6C, 0x73, 0x65] rest
  | text shape => exact shape.skip rest
  | number spelling =>
      obtain ⟨byte, tail, rfl, null, yes, no, quote, start⟩ := numeral_head spelling
      have read := spelling.read ends .invalidNumber
      rw [List.cons_append] at read ⊢
      simp only [skipScalar, if_neg null, if_neg yes, if_neg no, if_neg quote, if_pos start, read]

end Token

/-! ## Layouts -/

/-- A value as its tokens stand in a text; the keys of members without their opening quotes. -/
inductive Outline where
  | scalar (token : Bytes)
  | list (items : List Outline)
  | object (members : List (Bytes × Outline))

/-- What a piece of a text outlines: a value, or what comes after the opening byte of a list or an
object; `first` says that nothing has come in between. -/
inductive Piece where
  | value (outline : Outline)
  | items (first : Bool) (items : List Outline)
  | members (first : Bool) (members : List (Bytes × Outline))

inductive Lays : Bytes → Piece → Prop
  | scalar {token : Bytes} (shape : Token token) : Lays token (.value (.scalar token))
  | list {body : Bytes} {items : List Outline} (inside : Lays body (.items true items)) :
      Lays (0x5B :: body) (.value (.list items))
  | object {body : Bytes} {members : List (Bytes × Outline)}
      (inside : Lays body (.members true members)) : Lays (0x7B :: body) (.value (.object members))
  | endOfItems {first : Bool} {before : Bytes} (blank : Blank before) :
      Lays (before ++ [0x5D]) (.items first [])
  | item {first : Bool} {gap used tail : Bytes} {outline : Outline} {items : List Outline}
      (apart : Gap first gap) (head : Lays used (.value outline))
      (rest : Lays tail (.items false items)) :
      Lays (gap ++ (used ++ tail)) (.items first (outline :: items))
  | endOfMembers {first : Bool} {before : Bytes} (blank : Blank before) :
      Lays (before ++ [0x7D]) (.members first [])
  | member {first : Bool} {gap name before after used tail : Bytes} {outline : Outline}
      {members : List (Bytes × Outline)} (apart : Gap first gap) (named : StringShape name)
      (blankBefore : Blank before) (blankAfter : Blank after) (head : Lays used (.value outline))
      (rest : Lays tail (.members false members)) :
      Lays (gap ++ 0x22 :: (name ++ (before ++ 0x3A :: (after ++ (used ++ tail)))))
        (.members first ((name, outline) :: members))

def LaidOut (text : Bytes) (outline : Outline) : Prop :=
  ∃ before used after, text = before ++ (used ++ after) ∧ Blank before ∧
    Lays used (.value outline) ∧ Blank after

/-- What is spelled is laid out. -/
theorem lays_of_spells {used : Bytes} {part : Part} (spells : Spells used part) :
    match part with
    | .value _ => ∃ outline, Lays used (.value outline)
    | .items first _ => ∃ items, Lays used (.items first items)
    | .members first _ => ∃ members, Lays used (.members first members) := by
  induction spells with
  | scalar spelling => exact ⟨_, .scalar spelling.token⟩
  | list _ ih =>
      obtain ⟨items, lays⟩ := ih
      exact ⟨_, .list lays⟩
  | object _ ih =>
      obtain ⟨members, lays⟩ := ih
      exact ⟨_, .object lays⟩
  | endOfItems blank => exact ⟨[], .endOfItems blank⟩
  | item apart _ _ headIH restIH =>
      obtain ⟨outline, head⟩ := headIH
      obtain ⟨items, rest⟩ := restIH
      exact ⟨_, .item apart head rest⟩
  | endOfMembers blank => exact ⟨[], .endOfMembers blank⟩
  | member apart named blankBefore blankAfter _ _ headIH restIH =>
      obtain ⟨outline, head⟩ := headIH
      obtain ⟨members, rest⟩ := restIH
      exact ⟨_, .member apart named.shape blankBefore blankAfter head rest⟩

/-- The first byte of a value that is laid out is visible, and it does not end a list. -/
theorem Lays.head {used : Bytes} {outline : Outline} (lays : Lays used (.value outline)) :
    ∃ byte tail, used = byte :: tail ∧ isBlankByte byte = false ∧ byte ≠ 0x5D := by
  cases lays with
  | scalar shape =>
      obtain ⟨byte, tail, same, head⟩ := shape.head
      exact ⟨byte, tail, same, head.visible, head.closing⟩
  | list inside => exact ⟨_, _, rfl, rfl, by decide⟩
  | object inside => exact ⟨_, _, rfl, rfl, by decide⟩

theorem Lays.endsNumeral_of_items {tail : Bytes} {items : List Outline}
    (lays : Lays tail (.items false items)) (rest : Bytes) : EndsNumeral (tail ++ rest) := by
  cases lays with
  | endOfItems blank =>
      rw [List.append_assoc]
      exact endsNumeral_of_blank blank (endsNumeral_cons (by decide) _)
  | item apart _ _ =>
      rw [List.append_assoc]
      exact apart.endsNumeral _

theorem Lays.endsNumeral_of_members {tail : Bytes} {members : List (Bytes × Outline)}
    (lays : Lays tail (.members false members)) (rest : Bytes) : EndsNumeral (tail ++ rest) := by
  cases lays with
  | endOfMembers blank =>
      rw [List.append_assoc]
      exact endsNumeral_of_blank blank (endsNumeral_cons (by decide) _)
  | member apart _ _ _ _ _ =>
      rw [List.append_assoc]
      exact apart.endsNumeral _

end ServerManagement.Json
