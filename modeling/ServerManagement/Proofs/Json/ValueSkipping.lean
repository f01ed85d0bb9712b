import ServerManagement.Proofs.Json.Layouts

/-!
What is laid out is skipped: skipping passes over exactly the bytes that lay a value out, and over
the rest of the containers around it, however deep they nest.
-/

set_option autoImplicit false

namespace ServerManagement.Json

/-! ## One step -/

section Steps

variable {enclosing : List Bracket} {bracket : Bracket} {byte next : UInt8}
  {input body after rest : Bytes}

theorem skipWithin_of_scalar (start : skipBlanks input = byte :: body)
    (unopened : opened? byte = none) (scalar : skipScalar (byte :: body) = .ok rest) :
    skipWithin enclosing input = skipAfter enclosing rest := by
  rw [skipWithin]
  split
  · simp_all
  · rename_i same
    obtain ⟨rfl, rfl⟩ := List.cons.inj (start.symm.trans same)
    simp only [unopened]
    split
    · simp_all
    · rename_i same
      obtain rfl := Except.ok.inj (scalar.symm.trans same)
      rfl

theorem skipWithin_of_empty (start : skipBlanks input = byte :: body)
    (opened : opened? byte = some bracket) (first : skipBlanks body = bracket.closing :: after) :
    skipWithin enclosing input = skipAfter enclosing after := by
  rw [skipWithin]
  split
  · simp_all
  · rename_i same
    obtain ⟨rfl, rfl⟩ := List.cons.inj (start.symm.trans same)
    simp only [opened]
    split
    · simp_all
    · rename_i same
      obtain ⟨rfl, rfl⟩ := List.cons.inj (first.symm.trans same)
      exact if_pos rfl

theorem skipWithin_of_item (start : skipBlanks input = byte :: body)
    (opened : opened? byte = some bracket) (first : skipBlanks body = next :: after)
    (goesOn : next ≠ bracket.closing) (item : skipToItem bracket (next :: after) = .ok rest) :
    skipWithin enclosing input = skipWithin (bracket :: enclosing) rest := by
  rw [skipWithin]
  split
  · simp_all
  · rename_i same
    obtain ⟨rfl, rfl⟩ := List.cons.inj (start.symm.trans same)
    simp only [opened]
    split
    · simp_all
    · rename_i same
      obtain ⟨rfl, rfl⟩ := List.cons.inj (first.symm.trans same)
      rw [if_neg goesOn]
      split
      · simp_all
      · rename_i same
        obtain rfl := Except.ok.inj (item.symm.trans same)
        rfl

theorem skipAfter_of_end (start : skipBlanks input = bracket.closing :: after) :
    skipAfter (bracket :: enclosing) input = skipAfter enclosing after := by
  rw [skipAfter]
  split
  · simp_all
  · rename_i same
    obtain ⟨rfl, rfl⟩ := List.cons.inj (start.symm.trans same)
    exact if_pos rfl

theorem skipAfter_of_comma (start : skipBlanks input = 0x2C :: after)
    (item : skipToItem bracket after = .ok rest) :
    skipAfter (bracket :: enclosing) input = skipWithin (bracket :: enclosing) rest := by
  have goesOn : (0x2C : UInt8) ≠ bracket.closing := by cases bracket <;> decide
  rw [skipAfter]
  split
  · simp_all
  · rename_i same
    obtain ⟨rfl, rfl⟩ := List.cons.inj (start.symm.trans same)
    rw [if_neg goesOn, if_pos rfl]
    split
    · simp_all
    · rename_i same
      obtain rfl := Except.ok.inj (item.symm.trans same)
      rfl

end Steps

/-! ## What is laid out is skipped -/

theorem skipToItem_of_shape {before name between : Bytes} (blank : Blank before)
    (named : StringShape name) (blankBetween : Blank between) (rest : Bytes) :
    skipToItem .object (before ++ 0x22 :: (name ++ (between ++ 0x3A :: rest))) = .ok rest := by
  have quote : isBlankByte 0x22 = false := rfl
  have colon : isBlankByte 0x3A = false := rfl
  simp only [skipToItem, skipKey, skipBlanks_append blank, skipBlanks_cons quote, if_true, named.skip,
    skipBlanks_append blankBetween, skipBlanks_cons colon]

/-- Skipping passes over a piece. Nothing has come yet in a container that has just been opened, so
its opening byte is passed over with its content. -/
def Piece.IsSkipped (used : Bytes) : Piece → Prop
  | .value _ => ∀ enclosing before rest, Blank before → EndsNumeral rest →
      skipWithin enclosing (before ++ (used ++ rest)) = skipAfter enclosing rest
  | .items true _ => ∀ enclosing before rest, Blank before →
      skipWithin enclosing (before ++ 0x5B :: (used ++ rest)) = skipAfter enclosing rest
  | .items false _ => ∀ enclosing rest,
      skipAfter (.list :: enclosing) (used ++ rest) = skipAfter enclosing rest
  | .members true _ => ∀ enclosing before rest, Blank before →
      skipWithin enclosing (before ++ 0x7B :: (used ++ rest)) = skipAfter enclosing rest
  | .members false _ => ∀ enclosing rest,
      skipAfter (.object :: enclosing) (used ++ rest) = skipAfter enclosing rest

theorem isSkipped_of_lays {used : Bytes} {piece : Piece} (lays : Lays used piece) :
    piece.IsSkipped used := by
  have list : isBlankByte 0x5B = false := rfl
  have object : isBlankByte 0x7B = false := rfl
  have comma : isBlankByte 0x2C = false := rfl
  have quote : isBlankByte 0x22 = false := rfl
  induction lays with
  | scalar shape =>
      intro enclosing before rest blank ends
      have skipped := shape.skip ends
      obtain ⟨byte, tail, rfl, head⟩ := shape.head
      refine skipWithin_of_scalar ?_ head.unopened skipped
      rw [skipBlanks_append blank, List.cons_append, skipBlanks_cons head.visible]
      rfl
  | list _ ih => exact fun enclosing before rest blank _ => ih enclosing before rest blank
  | object _ ih => exact fun enclosing before rest blank _ => ih enclosing before rest blank
  | @endOfItems first between blankBetween =>
      have visible : isBlankByte 0x5D = false := rfl
      have ended (rest : Bytes) : skipBlanks (between ++ [0x5D] ++ rest) = 0x5D :: rest := by
        rw [List.append_assoc, skipBlanks_append blankBetween]
        exact skipBlanks_cons visible rest
      cases first with
      | true =>
          intro enclosing before rest blank
          exact skipWithin_of_empty ((skipBlanks_append blank _).trans (skipBlanks_cons list _)) rfl
            (ended rest)
      | false => exact fun enclosing rest => skipAfter_of_end (ended rest)
  | @item first gap used tail outline items apart head more headIH moreIH =>
      have next (rest : Bytes) := more.endsNumeral_of_items rest
      cases apart with
      | first blankBetween =>
          intro enclosing before rest blank
          have skipped := headIH (.list :: enclosing) [] (tail ++ rest) blank_nil (next rest)
          obtain ⟨byte, row, rfl, visible, goesOn⟩ := head.head
          refine (skipWithin_of_item ((skipBlanks_append blank _).trans (skipBlanks_cons list _)) rfl
            ?_ goesOn rfl).trans (skipped.trans (moreIH enclosing rest))
          rw [List.append_assoc, skipBlanks_append blankBetween, List.append_assoc]
          exact skipBlanks_cons visible _
      | comma blankBefore blankAfter =>
          intro enclosing rest
          have skipped := headIH (.list :: enclosing) _ (tail ++ rest) blankAfter (next rest)
          refine (skipAfter_of_comma ?_ rfl).trans (skipped.trans (moreIH enclosing rest))
          simp only [List.append_assoc, List.cons_append, skipBlanks_append blankBefore,
            skipBlanks_cons comma]
  | @endOfMembers first between blankBetween =>
      have visible : isBlankByte 0x7D = false := rfl
      have ended (rest : Bytes) : skipBlanks (between ++ [0x7D] ++ rest) = 0x7D :: rest := by
        rw [List.append_assoc, skipBlanks_append blankBetween]
        exact skipBlanks_cons visible rest
      cases first with
      | true =>
          intro enclosing before rest blank
          exact skipWithin_of_empty ((skipBlanks_append blank _).trans (skipBlanks_cons object _))
            rfl (ended rest)
      | false => exact fun enclosing rest => skipAfter_of_end (ended rest)
  | @member first gap name between follows used tail outline members apart named blankBetween
      blankFollows head more headIH moreIH =>
      have next (rest : Bytes) := more.endsNumeral_of_members rest
      have skipped (enclosing : List Bracket) (rest : Bytes) :
          skipWithin (.object :: enclosing) (follows ++ (used ++ (tail ++ rest))) =
            skipAfter enclosing rest :=
        (headIH (.object :: enclosing) follows (tail ++ rest) blankFollows (next rest)).trans
          (moreIH enclosing rest)
      cases apart with
      | first blankGap =>
          intro enclosing before rest blank
          have start (row : Bytes) : skipBlanks (before ++ 0x7B :: row) = 0x7B :: row :=
            (skipBlanks_append blank _).trans (skipBlanks_cons object row)
          have key := skipToItem_of_shape blank_nil named blankBetween
            (follows ++ (used ++ (tail ++ rest)))
          refine (skipWithin_of_item (start _) rfl ?_ (by decide) key).trans (skipped enclosing rest)
          simp only [List.append_assoc, List.cons_append, skipBlanks_append blankGap,
            skipBlanks_cons quote]
      | comma blankBefore blankAfter =>
          intro enclosing rest
          have key := skipToItem_of_shape blankAfter named blankBetween
            (follows ++ (used ++ (tail ++ rest)))
          refine (skipAfter_of_comma ?_ key).trans (skipped enclosing rest)
          simp only [List.append_assoc, List.cons_append, skipBlanks_append blankBefore,
            skipBlanks_cons comma]

theorem skipValue_of_lays {before used rest : Bytes} {outline : Outline} (blank : Blank before)
    (lays : Lays used (.value outline)) (ends : EndsNumeral rest) :
    skipValue (before ++ (used ++ rest)) = .ok rest := by
  refine (isSkipped_of_lays lays [] before rest blank ends).trans ?_
  rw [skipAfter]

theorem skipValue_of_spells {before used rest : Bytes} {tree : Value} (blank : Blank before)
    (spells : Spells used (.value tree)) (ends : EndsNumeral rest) :
    skipValue (before ++ (used ++ rest)) = .ok rest := by
  obtain ⟨outline, lays⟩ := lays_of_spells spells
  exact skipValue_of_lays blank lays ends

end ServerManagement.Json
