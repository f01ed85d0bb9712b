import ServerManagement.Proofs.Json.Layouts
import ServerManagement.Proofs.Json.ValueReading

/-!
What an outline says. Whether a value is read from a text that is laid out, and which, depends on the
outline alone and not on the blanks.
-/

set_option autoImplicit false

namespace ServerManagement.Json

/-! ## What outlines say -/

def textOf? (used : Bytes) : Option String := (readString used).toOption.map Prod.fst

def scalarOf? (token : Bytes) : Option Value := (readScalar token).toOption.map Prod.fst

mutual

def Outline.value? : Outline → Nat → Option Value
  | .scalar token, _ => scalarOf? token
  | .list _, 0 | .object _, 0 => none
  | .list items, budget + 1 => (Outline.values? items budget).map .array
  | .object members, budget + 1 => (Outline.members? members budget).map .ofMembers

def Outline.values? : List Outline → Nat → Option (List Value)
  | [], _ => some []
  | outline :: items, budget =>
    match outline.value? budget, Outline.values? items budget with
    | some value, some values => some (value :: values)
    | _, _ => none

def Outline.members? : List (Bytes × Outline) → Nat → Option Members
  | [], _ => some []
  | (name, outline) :: members, budget =>
    match textOf? name, outline.value? budget, Outline.members? members budget with
    | some key, some value, some others => some ((key, value) :: others)
    | _, _, _ => none

end

/-! ## Tokens -/

section Tokens

variable {used rest after : Bytes} {text : String} {value : Value}

theorem readString_iff (shape : StringShape used) :
    readString (used ++ rest) = .ok (text, after) ↔ TextSpelling used text ∧ after = rest := by
  constructor
  · intro read
    obtain ⟨other, same, spelling⟩ := spelling_of_readString read
    -- Skipping tells where a string ends.
    have ends := shape.skip rest
    rw [same, spelling.shape.skip after] at ends
    obtain rfl := Except.ok.inj ends
    exact ⟨List.append_cancel_right same ▸ spelling, rfl⟩
  · rintro ⟨spelling, rfl⟩
    exact spelling.read after

theorem textOf?_eq_some_iff (shape : StringShape used) :
    textOf? used = some text ↔ TextSpelling used text := by
  have alone : readString (used ++ []) = .ok (text, []) ↔ TextSpelling used text ∧ [] = [] :=
    readString_iff shape
  rw [List.append_nil] at alone
  constructor
  · intro known
    unfold textOf? at known
    cases read : readString used with
    | error cause => simp [read, Except.toOption] at known
    | ok found =>
        obtain ⟨other, rest⟩ := found
        obtain ⟨spelling, _⟩ := (readString_iff shape).mp ((List.append_nil used).symm ▸ read)
        rw [read] at known
        exact Option.some.inj known ▸ spelling
  · intro spelling
    simp only [textOf?, alone.mpr ⟨spelling, rfl⟩, Except.toOption, Option.map_some]

theorem readScalar_iff (shape : Token used) (ends : EndsNumeral rest) :
    readScalar (used ++ rest) = .ok (value, after) ↔ ScalarSpelling used value ∧ after = rest := by
  constructor
  · intro read
    cases shape with
    | null =>
        obtain ⟨rfl, rfl⟩ := Prod.mk.inj (Except.ok.inj ((ScalarSpelling.null.read ends).symm.trans read))
        exact ⟨.null, rfl⟩
    | yes =>
        obtain ⟨rfl, rfl⟩ := Prod.mk.inj (Except.ok.inj ((ScalarSpelling.yes.read ends).symm.trans read))
        exact ⟨.yes, rfl⟩
    | no =>
        obtain ⟨rfl, rfl⟩ := Prod.mk.inj (Except.ok.inj ((ScalarSpelling.no.read ends).symm.trans read))
        exact ⟨.no, rfl⟩
    | text shape =>
        obtain ⟨⟨text, left⟩, found, same⟩ := map_eq_ok.mp read
        obtain ⟨rfl, rfl⟩ := Prod.mk.inj same
        obtain ⟨spelling, rfl⟩ := (readString_iff shape).mp found
        exact ⟨.text spelling, rfl⟩
    | @number _ numeral spelling =>
        cases denotes : numeral.number? with
        | some number =>
            have known := (ScalarSpelling.number spelling denotes).read ends
            obtain ⟨rfl, rfl⟩ := Prod.mk.inj (Except.ok.inj (known.symm.trans read))
            exact ⟨.number spelling denotes, rfl⟩
        | none =>
            obtain ⟨byte, tail, rfl, null, yes, no, quote, start⟩ := numeral_head spelling
            have numeral := spelling.read ends .endInValue
            rw [List.cons_append] at numeral read
            simp only [readScalar, if_neg null, if_neg yes, if_neg no, if_neg quote, if_pos start,
              readNumber, numeral, denotes, Except.map] at read
            cases read
  · rintro ⟨spelling, rfl⟩
    exact spelling.read ends

theorem endsNumeral_nil : EndsNumeral [] := endsNumeral_of_isBlank blank_nil

theorem scalarOf?_eq_some_iff (shape : Token used) :
    scalarOf? used = some value ↔ ScalarSpelling used value := by
  constructor
  · intro known
    unfold scalarOf? at known
    cases read : readScalar used with
    | error cause => simp [read, Except.toOption] at known
    | ok found =>
        obtain ⟨other, rest⟩ := found
        obtain ⟨spelling, _⟩ :=
          (readScalar_iff shape endsNumeral_nil).mp ((List.append_nil used).symm ▸ read)
        rw [read] at known
        exact Option.some.inj known ▸ spelling
  · intro spelling
    have read := spelling.read endsNumeral_nil
    rw [List.append_nil] at read
    simp only [scalarOf?, read, Except.toOption, Option.map_some]

end Tokens

/-! ## Layouts -/

theorem readValue_scalar_iff {budget : Nat} {input tail rest : Bytes} {byte : UInt8} {value : Value}
    (start : skipBlanks input = byte :: tail) (unopened : opened? byte = none) :
    (readValue budget).run input = .ok (value, rest) ↔
      readScalar (byte :: tail) = .ok (value, rest) := by
  simp only [readValue_run, readValueWith, start, unopened, orMalformed_eq_ok]

theorem readValue_list_iff {budget : Nat} {input tail rest : Bytes} {value : Value}
    (start : skipBlanks input = 0x5B :: tail) :
    (readValue budget).run input = .ok (value, rest) ↔
      ∃ left items, budget = left + 1 ∧ readItems (readValue left) true tail = .ok (items, rest) ∧
        value = .array items := by
  constructor
  · intro read
    cases readFrom_of_readValue start read with
    | scalar unopened => cases unopened
    | list opened deeper found => exact ⟨_, _, deeper, found, rfl⟩
    | object opened => cases opened
  · rintro ⟨left, items, deeper, found, rfl⟩
    exact ReadFrom.readValue (.list rfl deeper found) start

theorem readValue_object_iff {budget : Nat} {input tail rest : Bytes} {value : Value}
    (start : skipBlanks input = 0x7B :: tail) :
    (readValue budget).run input = .ok (value, rest) ↔
      ∃ left members, budget = left + 1 ∧
        readMembers (valueMember (readValue left)) true [] tail = .ok (members, rest) ∧
        value = .object members := by
  constructor
  · intro read
    cases readFrom_of_readValue start read with
    | scalar unopened => cases unopened
    | list opened => cases opened
    | object opened deeper found => exact ⟨_, _, deeper, found, rfl⟩
  · rintro ⟨left, members, deeper, found, rfl⟩
    exact ReadFrom.readValue (.object rfl deeper found) start

def Piece.IsRead (used : Bytes) : Piece → Prop
  | .value outline => ∀ budget before rest value after, Blank before → EndsNumeral rest →
      ((readValue budget).run (before ++ (used ++ rest)) = .ok (value, after) ↔
        outline.value? budget = some value ∧ after = rest)
  | .items first row => ∀ budget rest values after,
      readItems (readValue budget) first (used ++ rest) = .ok (values, after) ↔
        Outline.values? row budget = some values ∧ after = rest
  | .members first row => ∀ budget state rest result after,
      readMembers (valueMember (readValue budget)) first state (used ++ rest) = .ok (result, after) ↔
        ∃ values, Outline.members? row budget = some values ∧
          Members.insertAll values state = result ∧ after = rest

theorem Outline.values?_cons_iff {outline : Outline} {items : List Outline} {budget : Nat}
    {values : List Value} :
    Outline.values? (outline :: items) budget = some values ↔
      ∃ value others, outline.value? budget = some value ∧
        Outline.values? items budget = some others ∧ values = value :: others := by
  rw [Outline.values?]
  cases outline.value? budget <;> cases Outline.values? items budget <;> simp [eq_comm]

theorem Outline.members?_cons_iff {name : Bytes} {outline : Outline}
    {members : List (Bytes × Outline)} {budget : Nat} {values : Members} :
    Outline.members? ((name, outline) :: members) budget = some values ↔
      ∃ key value others, textOf? name = some key ∧ outline.value? budget = some value ∧
        Outline.members? members budget = some others ∧ values = (key, value) :: others := by
  rw [Outline.members?]
  cases textOf? name <;> cases outline.value? budget <;> cases Outline.members? members budget <;>
    simp [eq_comm]

theorem valueMember_iff {item : Reader Value} {members result : Members} {key : String}
    {before row rest : Bytes} (blank : Blank before) :
    (valueMember item).run members key (before ++ 0x3A :: row) = .ok (result, rest) ↔
      ∃ value, item.run row = .ok (value, rest) ∧ Members.insert key value members = result := by
  simp only [valueMember, readColon_append blank]
  cases item.run row with
  | error fault => simp
  | ok found =>
      obtain ⟨value, after⟩ := found
      simp only [Except.ok.injEq, Prod.mk.injEq]
      grind

theorem isRead_of_lays {used : Bytes} {piece : Piece} (lays : Lays used piece) :
    piece.IsRead used := by
  induction lays with
  | scalar shape =>
      intro budget before rest value after blank ends
      obtain ⟨byte, tail, rfl, head⟩ := shape.head
      have start : skipBlanks (before ++ (byte :: tail ++ rest)) = byte :: (tail ++ rest) := by
        rw [skipBlanks_append blank]
        exact skipBlanks_cons head.visible _
      rw [readValue_scalar_iff start head.unopened, Outline.value?, scalarOf?_eq_some_iff shape]
      exact readScalar_iff shape ends
  | @list body items _ ih =>
      intro budget before rest value after blank _
      have start : skipBlanks (before ++ (0x5B :: body ++ rest)) = 0x5B :: (body ++ rest) := by
        rw [skipBlanks_append blank]
        exact skipBlanks_cons rfl _
      rw [readValue_list_iff start]
      cases budget with
      | zero => simp [Outline.value?]
      | succ budget =>
          simp only [Nat.add_right_cancel_iff, exists_and_left, exists_eq_left', Outline.value?,
            ih budget rest, Option.map_eq_some_iff]
          grind
  | @object body members _ ih =>
      intro budget before rest value after blank _
      have start : skipBlanks (before ++ (0x7B :: body ++ rest)) = 0x7B :: (body ++ rest) := by
        rw [skipBlanks_append blank]
        exact skipBlanks_cons rfl _
      rw [readValue_object_iff start]
      cases budget with
      | zero => simp [Outline.value?]
      | succ budget =>
          simp only [Nat.add_right_cancel_iff, exists_and_left, exists_eq_left', Outline.value?,
            ih budget [] rest, Option.map_eq_some_iff, Members.ofMembers_eq]
          grind
  | endOfItems blank =>
      intro budget rest values after
      rw [List.append_assoc, List.singleton_append,
        readItems_of_finished (nextItem_of_end blank _ rest), Outline.values?]
      grind
  | @item first gap used tail outline items apart head more headIH moreIH =>
      intro budget rest values after
      have read (value : Value) (left : Bytes) := headIH budget [] (tail ++ rest) value left blank_nil
        (more.endsNumeral_of_items rest)
      obtain ⟨byte, row, rfl, visible, goesOn⟩ := head.head
      have starts := apart.nextItem visible goesOn (row ++ (tail ++ rest))
      rw [List.append_assoc, List.append_assoc, Outline.values?_cons_iff]
      simp only [List.nil_append, List.cons_append] at read starts ⊢
      cases values with
      | nil =>
          refine iff_of_false (fun none => ?_) (by simp)
          cases starts.symm.trans (readItems_eq_nil_iff.mp none)
      | cons value values =>
          rw [readItems_eq_cons_iff]
          constructor
          · rintro ⟨_, _, started, found, others⟩
            obtain rfl := Next.item.inj (Except.ok.inj (starts.symm.trans started))
            obtain ⟨known, rfl⟩ := (read _ _).mp found
            obtain ⟨more, rfl⟩ := (moreIH budget _ _ _).mp others
            exact ⟨⟨value, values, known, more, rfl⟩, rfl⟩
          · rintro ⟨⟨_, _, known, more, same⟩, rfl⟩
            obtain ⟨rfl, rfl⟩ := List.cons.inj same
            exact ⟨_, _, starts, (read _ _).mpr ⟨known, rfl⟩, (moreIH budget _ _ _).mpr ⟨more, rfl⟩⟩
  | endOfMembers blank =>
      intro budget state rest result after
      rw [List.append_assoc, List.singleton_append,
        readMembers_of_finished (nextKey_of_end blank _ rest), Outline.members?]
      simp only [Except.ok.injEq, Prod.mk.injEq, Option.some.injEq, exists_eq_left',
        Members.insertAll, List.foldl_nil]
      grind
  | @member first gap name before after used tail outline members apart named blankBefore
      blankAfter head more headIH moreIH =>
      intro budget state rest result left
      have read (value : Value) (left : Bytes) := headIH budget after (tail ++ rest) value left
        blankAfter (more.endsNumeral_of_members rest)
      simp only [List.append_assoc, List.cons_append]
      rw [readMembers_item_iff (apart.nextKey _)]
      simp only [Outline.members?_cons_iff, readString_iff named, textOf?_eq_some_iff named]
      constructor
      · rintro ⟨key, _, next, _, ⟨spelling, rfl⟩, taken, found⟩
        obtain ⟨value, stands, rfl⟩ := (valueMember_iff blankBefore).mp taken
        obtain ⟨known, rfl⟩ := (read _ _).mp stands
        obtain ⟨values, others, rfl, rfl⟩ := (moreIH budget _ _ _ _).mp found
        exact ⟨_, ⟨key, value, values, spelling, known, others, rfl⟩, rfl, rfl⟩
      · rintro ⟨_, ⟨key, value, values, spelling, known, others, rfl⟩, rfl, rfl⟩
        refine ⟨key, _, _, _, ⟨spelling, rfl⟩,
          (valueMember_iff blankBefore).mpr ⟨value, (read _ _).mpr ⟨known, rfl⟩, rfl⟩, ?_⟩
        exact (moreIH budget _ _ _ _).mpr ⟨values, others, rfl, rfl⟩

/-! ## Null and nought -/

/-- Every value inside an object that is laid out is laid out. -/
theorem Lays.of_member {tail : Bytes} {first : Bool} {members : List (Bytes × Outline)}
    (lays : Lays tail (.members first members)) {member : Bytes × Outline}
    (inside : member ∈ members) : ∃ used, Lays used (.value member.2) := by
  induction members generalizing tail first with
  | nil => cases inside
  | cons other members ih =>
      cases lays with
      | member _ _ _ _ head rest =>
          rcases List.mem_cons.mp inside with rfl | inRest
          · exact ⟨_, head⟩
          · exact ih rest inRest

theorem LaidOut.of_member {text : Bytes} {members : List (Bytes × Outline)}
    (laid : LaidOut text (.object members)) {member : Bytes × Outline} (inside : member ∈ members) :
    ∃ used, Lays used (.value member.2) := by
  obtain ⟨_, _, _, _, _, lays, _⟩ := laid
  cases lays with
  | object body => exact body.of_member inside

/-- What stands for a value that is no container is one token. -/
theorem Lays.value?_eq_some_iff {used : Bytes} {outline : Outline} (lays : Lays used (.value outline))
    {budget : Nat} {value : Value} (noList : ¬∃ items, value = .array items)
    (noObject : ¬∃ members, value = .object members) :
    outline.value? budget = some value ↔
      ∃ token, outline = .scalar token ∧ ScalarSpelling token value := by
  cases lays with
  | scalar shape =>
      rw [Outline.value?, scalarOf?_eq_some_iff shape]
      simp
  | list =>
      refine iff_of_false (fun known => ?_) (by simp)
      cases budget with
      | zero => simp [Outline.value?] at known
      | succ budget =>
          obtain ⟨items, _, same⟩ := Option.map_eq_some_iff.mp known
          exact noList ⟨items, same.symm⟩
  | object =>
      refine iff_of_false (fun known => ?_) (by simp)
      cases budget with
      | zero => simp [Outline.value?] at known
      | succ budget =>
          obtain ⟨members, _, same⟩ := Option.map_eq_some_iff.mp known
          exact noObject ⟨_, same.symm.trans (Members.ofMembers_eq members)⟩

theorem scalarSpelling_null_iff {token : Bytes} :
    ScalarSpelling token .null ↔ token = [0x6E, 0x75, 0x6C, 0x6C] := by
  constructor
  · rintro ⟨⟩
    rfl
  · rintro rfl
    exact .null

theorem foldl_digits_pos (run : Bytes) {high : Nat} (positive : 0 < high) :
    0 < run.foldl (fun high byte => 10 * high + (byte.toNat - 0x30)) high := by
  induction run generalizing high with
  | nil => exact positive
  | cons byte run ih => exact ih (Nat.add_pos_left (Nat.mul_pos (by decide) positive) _)

/-- Only nought has the digits of nought. -/
theorem WholeRun.eq_nought {run : Bytes} (whole : WholeRun run) (nought : ofDigitBytes run = 0) :
    run = [0x30] := by
  obtain ⟨byte, tail, rfl, digit⟩ := whole.head
  obtain ⟨low, _⟩ := digit_of_isDigitByte digit
  by_cases zero : byte = 0x30
  · subst zero
    cases tail with
    | nil => rfl
    | cons next tail => exact absurd ⟨by simp, rfl⟩ whole.bare
  · have apart : byte.toNat ≠ 0x30 := fun same => zero (UInt8.toNat_inj.mp same)
    have high : 0 < 10 * 0 + (byte.toNat - 0x30) := by omega
    have positive := foldl_digits_pos tail high
    exact absurd nought (Nat.ne_of_gt positive)

theorem scalarSpelling_nought_iff {token : Bytes} :
    ScalarSpelling token (.number (.integer 0)) ↔ token = [0x30] := by
  constructor
  · intro spelling
    cases spelling with
    | @number _ numeral _ spelling denotes =>
        obtain ⟨negative, whole, fraction, exponent⟩ := numeral
        obtain ⟨wholeRun, fractionUsed, exponentUsed, fractional, exponential, rfl⟩ := spelling
        cases fractional with
        | present => cases exponential <;> simp [Numeral.number?] at denotes
        | absent =>
            cases exponential with
            | present => simp [Numeral.number?] at denotes
            | absent =>
                cases negative with
                | true =>
                    simp only [Numeral.number?, if_true] at denotes
                    split at denotes
                    · rename_i inside
                      have same := Number.integer.inj (Option.some.inj denotes)
                      omega
                    · simp at denotes
                | false =>
                    simp only [Numeral.number?, Bool.false_eq_true, if_false] at denotes
                    split at denotes
                    · have same := Number.integer.inj (Option.some.inj denotes)
                      simpa using wholeRun.eq_nought (Int.ofNat_inj.mp same)
                    · simp at denotes
  · rintro rfl
    have spelling : NumeralSpelling [0x30] ⟨false, [0x30], none, none⟩ :=
      ⟨.single rfl, [], [], .absent, .absent, rfl⟩
    exact .number spelling rfl

theorem Lays.value?_null_iff {used : Bytes} {outline : Outline} (lays : Lays used (.value outline))
    {budget : Nat} :
    outline.value? budget = some .null ↔ outline = .scalar [0x6E, 0x75, 0x6C, 0x6C] := by
  rw [lays.value?_eq_some_iff (by simp) (by simp)]
  simp only [scalarSpelling_null_iff, exists_eq_right]

theorem Lays.value?_nought_iff {used : Bytes} {outline : Outline} (lays : Lays used (.value outline))
    {budget : Nat} : outline.value? budget = some (.ofNat 0) ↔ outline = .scalar [0x30] := by
  change outline.value? budget = some (.number (.integer 0)) ↔ _
  rw [lays.value?_eq_some_iff (by simp) (by simp)]
  simp only [scalarSpelling_nought_iff, exists_eq_right]

end ServerManagement.Json
