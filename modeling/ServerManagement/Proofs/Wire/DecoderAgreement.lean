import ServerManagement.Proofs.Json.ValueSkipping
import ServerManagement.Proofs.Wire.ReadingThrough
import ServerManagement.Wire.Pair

/-!
Both ways of reading a type agree. Where a text spells a value without repeated keys and containers
nest no deeper than the budget, reading from the text takes the spelling and gives what reading from
the value gives, or both fail.
-/

set_option autoImplicit false

namespace ServerManagement.Wire

open ServerManagement.Json

def Agree {α : Type} (rest : Bytes) (result : Except Mismatch α)
    (reading : Except Fault (α × Bytes)) : Prop :=
  (∃ value, result = .ok value ∧ reading = .ok (value, rest)) ∨
    ∃ cause fault, result = .error cause ∧ reading = .error fault

structure Spelled (used : Bytes) (tree : Value) (budget : Nat) : Prop where
  spells : Spells used (.value tree)
  distinct : tree.hasDistinctKeys = true
  shallow : tree.depth ≤ budget

def Decoder.Agrees {α : Type} (decoder : Decoder α) : Prop :=
  ∀ ⦃used : Bytes⦄ ⦃tree : Value⦄ ⦃budget : Nat⦄, Spelled used tree budget →
    ∀ ⦃before rest : Bytes⦄, Blank before → EndsNumeral rest →
      Agree rest (decoder.ofValue tree.sorted)
        ((decoder.reader budget).run (before ++ (used ++ rest)))

theorem Spelled.skipBlanks {used : Bytes} {tree : Value} {budget : Nat}
    (spelled : Spelled used tree budget) {before : Bytes} (blank : Blank before) (rest : Bytes) :
    ∃ byte tail, used = byte :: tail ∧
      Json.skipBlanks (before ++ (used ++ rest)) = byte :: (tail ++ rest) ∧ ValueHead byte tree := by
  obtain ⟨byte, tail, rfl, head⟩ := spelled.spells.head
  refine ⟨byte, tail, rfl, ?_, head⟩
  rw [skipBlanks_append blank]
  exact skipBlanks_cons head.visible _

/-! ## Scalars and values -/

/-- What is read through a value is read as the value is. -/
theorem Decoder.ReadsThrough.agrees {α : Type} {decoder : Decoder α}
    (through : decoder.ReadsThrough) : decoder.Agrees := by
  intro used tree budget spelled before rest blank ends
  have stands := isRead_of_spells spelled.spells budget spelled.shallow before rest blank ends
  cases known : decoder.ofValue tree.sorted with
  | ok result => exact .inl ⟨result, rfl, through.mpr ⟨tree.sorted, stands, known⟩⟩
  | error cause =>
      cases read : (decoder.reader budget).run (before ++ (used ++ rest)) with
      | error fault => exact .inr ⟨cause, fault, rfl, rfl⟩
      | ok found =>
          obtain ⟨value, other, accepted⟩ := through.mp read
          obtain ⟨rfl, _⟩ := Prod.mk.inj (Except.ok.inj (stands.symm.trans other))
          cases known.symm.trans accepted

theorem agrees_scalar {α : Type} (wanted : String)
    (accept : Sight → Option (Except Mismatch α)) : (Decoder.scalar wanted accept).Agrees :=
  (readsThrough_scalar wanted accept).agrees

theorem agrees_value : Codec.value.Agrees := readsThrough_value.agrees

theorem Decoder.Agrees.map {α β : Type} {decoder : Decoder α} (agrees : decoder.Agrees)
    (change : α → β) : (decoder.map change).Agrees := by
  intro used tree budget spelled before rest blank ends
  rcases agrees spelled blank ends with ⟨value, known, read⟩ | ⟨cause, fault, known, read⟩
  · exact .inl ⟨change value, by simp only [Decoder.map, known], by
      simp only [Decoder.map, Reader.map, read]⟩
  · exact .inr ⟨cause, fault, by simp only [Decoder.map, known], by
      simp only [Decoder.map, Reader.map, read]⟩

theorem agrees_unit : Codec.unit.Agrees := agrees_scalar _ _

theorem agrees_bool : Codec.bool.Agrees := agrees_scalar _ _

theorem agrees_text : Codec.text.Agrees := agrees_scalar _ _

theorem agrees_int32 : Codec.int32.Agrees := (agrees_scalar _ _).map _

theorem agrees_int64 : Codec.int64.Agrees := (agrees_scalar _ _).map _

theorem agrees_uint32 : Codec.uint32.Agrees := (agrees_scalar _ _).map _

theorem agrees_uint64 : Codec.uint64.Agrees := (agrees_scalar _ _).map _

/-! ## Options -/

theorem sorted_eq_null_iff {tree : Value} : tree.sorted = .null ↔ tree = .null := by
  cases tree <;> simp [Value.sorted, Value.ofMembers]

theorem Decoder.Agrees.option {α : Type} {decoder : Decoder α} (agrees : decoder.Agrees) :
    decoder.option.Agrees := by
  intro used tree budget spelled before rest blank ends
  change Agree rest _ (readOption (decoder.reader budget) _)
  by_cases absent : tree = .null
  · subst absent
    obtain ⟨spells, _, _⟩ := spelled
    cases spells with
    | scalar spelling =>
        cases spelling with
        | null =>
            have visible : isBlankByte 0x6E = false := rfl
            refine .inl ⟨none, rfl, ?_⟩
            simp only [readOption, List.cons_append, skipBlanks_append blank,
              skipBlanks_cons visible, if_true]
            rfl
  · obtain ⟨byte, tail, rfl, start, head⟩ := spelled.skipBlanks blank rest
    have present : byte ≠ 0x6E := fun same => absent (head.null.mp same)
    have sorted : tree.sorted ≠ .null := fun same => absent (sorted_eq_null_iff.mp same)
    have inside := agrees spelled blank_nil ends
    rw [List.nil_append, List.cons_append] at inside
    rw [ofValue_option_of_present sorted]
    simp only [readOption, start, if_neg present]
    rcases inside with ⟨value, known, read⟩ | ⟨cause, fault, known, read⟩
    · exact .inl ⟨some value, by rw [known]; rfl, by rw [read]⟩
    · exact .inr ⟨cause, fault, by rw [known]; rfl, by rw [read]⟩

/-! ## Lists -/

def ItemsFit (trees : List Value) (budget : Nat) : Prop :=
  ∀ tree ∈ trees, tree.hasDistinctKeys = true ∧ tree.depth ≤ budget

theorem itemsFit_of_spelled {used : Bytes} {trees : List Value} {budget : Nat}
    (spelled : Spelled used (.array trees) (budget + 1)) : ItemsFit trees budget := by
  have distinct := spelled.distinct
  rw [Value.hasDistinctKeys, Value.every, Value.everyItem_iff] at distinct
  have shallow := Value.itemsDepth_le_iff.mp (Nat.le_of_succ_le_succ spelled.shallow)
  exact fun tree member => ⟨distinct tree member, shallow tree member⟩

/-- The next item of a list is read as its value is. -/
theorem agree_item {α : Type} {decoder : Decoder α} (agrees : decoder.Agrees) {budget : Nat}
    {tree : Value} {trees : List Value} (fit : ItemsFit (tree :: trees) budget) {first : Bool}
    {body : Bytes} (spells : Spells body (.items first (tree :: trees))) (rest : Bytes) :
    ∃ start tail, nextItem first (body ++ rest) = .ok (.item start) ∧
      Spells tail (.items false trees) ∧
      Agree (tail ++ rest) (decoder.ofValue tree.sorted) ((decoder.reader budget).run start) := by
  obtain ⟨⟨distinct, shallow⟩, _⟩ := List.forall_mem_cons.mp fit
  cases spells with
  | @item _ gap used tail _ _ apart head more =>
      have inside := agrees ⟨head, distinct, shallow⟩ blank_nil (more.endsNumeral_of_items rest)
      obtain ⟨byte, row, rfl, start⟩ := head.head
      refine ⟨byte :: (row ++ (tail ++ rest)), tail, ?_, more, inside⟩
      rw [List.append_assoc, List.append_assoc, List.cons_append]
      exact apart.nextItem start.visible start.closing _

theorem agree_items {α : Type} {decoder : Decoder α} (agrees : decoder.Agrees) {budget : Nat}
    {trees : List Value} (fit : ItemsFit trees budget) {first : Bool} {body : Bytes}
    (spells : Spells body (.items first trees)) (rest : Bytes) :
    Agree rest (ofItems decoder (Value.sortedItems trees))
      (readItems (decoder.reader budget) first (body ++ rest)) := by
  induction trees generalizing first body with
  | nil =>
      cases spells with
      | endOfItems blank =>
          rw [List.append_assoc]
          exact .inl ⟨[], rfl, readItems_of_finished (nextItem_of_end blank first rest)⟩
  | cons tree trees ih =>
      obtain ⟨start, tail, starts, more, inside⟩ := agree_item agrees fit spells rest
      rcases inside with ⟨value, known, read⟩ | ⟨cause, fault, known, read⟩
      · rw [readItems_of_item starts read]
        simp only [Value.sortedItems, ofItems, known]
        rcases ih (List.forall_mem_cons.mp fit).2 more with
          ⟨values, known, read⟩ | ⟨cause, fault, known, read⟩
        · exact .inl ⟨value :: values, by simp only [known], by simp only [read]⟩
        · exact .inr ⟨cause, fault, by simp only [known], by simp only [read]⟩
      · refine .inr ⟨cause, fault, ?_, readItems_of_fault starts read⟩
        simp only [Value.sortedItems, ofItems, known]

theorem notList {used : Bytes} {tree : Value} {budget : Nat} (spelled : Spelled used tree budget)
    (other : ∀ items, tree ≠ .array items) {before : Bytes} (blank : Blank before) (rest : Bytes) :
    ∃ byte tail, skipBlanks (before ++ (used ++ rest)) = byte :: tail ∧ byte ≠ 0x5B := by
  obtain ⟨byte, tail, _, start, head⟩ := spelled.skipBlanks blank rest
  refine ⟨byte, _, start, fun same => ?_⟩
  obtain ⟨items, isList⟩ := head.list.mp same
  exact other items isList

theorem Decoder.Agrees.list {α : Type} {decoder : Decoder α} (agrees : decoder.Agrees) :
    decoder.list.Agrees := by
  intro used tree budget spelled before rest blank ends
  change Agree rest _ (readList (decoder.inside? budget) _)
  by_cases isList : ∃ items, tree = .array items
  · obtain ⟨trees, rfl⟩ := isList
    cases budget with
    | zero => exact absurd spelled.shallow (Nat.not_succ_le_zero _)
    | succ budget =>
        have fit := itemsFit_of_spelled spelled
        have visible : isBlankByte 0x5B = false := rfl
        cases spelled.spells with
        | scalar spelling => cases spelling
        | list inside =>
            rw [List.cons_append]
            simp only [readList, skipBlanks_append blank, skipBlanks_cons visible, if_true]
            exact agree_items agrees fit inside rest
  · have other : ∀ items, tree ≠ .array items := fun items same => isList ⟨items, same⟩
    obtain ⟨byte, tail, start, differs⟩ := notList spelled other blank rest
    have kind : decoder.list.ofValue tree.sorted =
        .error (.wrongKind tree.sorted.sight "a sequence") := by
      cases tree with
      | array items => exact absurd rfl (other items)
      | null | bool | number | text | object => rfl
    refine .inr ⟨_, wrongKindAt "a sequence" (byte :: tail), kind, ?_⟩
    simp only [readList, start, if_neg differs]

theorem Decoder.Agrees.listOrNull {α : Type} {codec : Codec α} (agrees : codec.Agrees) :
    (Codec.listOrNull codec).Agrees :=
  agrees.list.option.map _

/-! ## Pairs -/

theorem agree_place {α : Type} {decoder : Decoder α} (agrees : decoder.Agrees) (index : Nat)
    {budget : Nat} {tree : Value} {trees : List Value} (fit : ItemsFit (tree :: trees) budget)
    {body : Bytes} (spells : Spells body (.items (index == 0) (tree :: trees))) (rest : Bytes) :
    ∃ tail, Spells tail (.items false trees) ∧
      Agree (tail ++ rest) (decoder.ofValue tree.sorted)
        (readPlace (decoder.reader budget) index (body ++ rest)) := by
  obtain ⟨start, tail, starts, more, inside⟩ := agree_item agrees fit spells rest
  exact ⟨tail, more, by simpa only [readPlace, starts] using inside⟩

theorem readPlace_of_end {α : Type} (reader : Reader α) (index : Nat) {body : Bytes}
    (spells : Spells body (.items (index == 0) [])) (rest : Bytes) :
    readPlace reader index (body ++ rest) = .error (.mismatch (.wrongLength index pairWanted)) := by
  cases spells with
  | endOfItems blank =>
      rw [List.append_assoc]
      simp only [readPlace, List.singleton_append, nextItem_of_end blank]

theorem readEnd_of_end {first : Bool} {body : Bytes} (spells : Spells body (.items first []))
    (rest : Bytes) : Record.readEnd (body ++ rest) = .ok rest := by
  cases spells with
  | endOfItems blank =>
      rw [readEnd_eq_ok_iff, List.append_assoc, skipBlanks_append blank]
      exact skipBlanks_cons rfl rest

/-- A list that goes on has not ended. -/
theorem readEnd_of_item {first : Bool} {tree : Value} {trees : List Value} {body : Bytes}
    (spells : Spells body (.items first (tree :: trees))) (rest : Bytes) :
    ∃ cause, Record.readEnd (body ++ rest) = .error cause := by
  cases ended : Record.readEnd (body ++ rest) with
  | error cause => exact ⟨cause, rfl⟩
  | ok after =>
      have finished : nextItem first (body ++ rest) = .ok (.finished after) :=
        nextItem_finished_iff.mpr (readEnd_eq_ok_iff.mp ended)
      cases spells with
      | @item _ gap used tail _ _ apart head more =>
          obtain ⟨byte, row, rfl, start⟩ := head.head
          have starts := apart.nextItem start.visible start.closing (row ++ (tail ++ rest))
          rw [List.append_assoc, List.append_assoc, List.cons_append] at finished
          cases starts.symm.trans finished

theorem agree_pairItems {α β : Type} {first : Decoder α} {second : Decoder β}
    (agreesFirst : first.Agrees) (agreesSecond : second.Agrees) {budget : Nat} {trees : List Value}
    (fit : ItemsFit trees budget) {before body rest : Bytes} (blank : Blank before)
    (spells : Spells body (.items true trees)) :
    Agree rest (pairOfItems first second (Value.sortedItems trees))
      (readPair (some (first.reader budget, second.reader budget))
        (before ++ (0x5B :: body ++ rest))) := by
  have visible : isBlankByte 0x5B = false := rfl
  rw [List.cons_append]
  simp only [readPair, skipBlanks_append blank, skipBlanks_cons visible, if_true]
  cases trees with
  | nil =>
      have ended := readPlace_of_end (first.reader budget) 0 spells rest
      exact .inr ⟨_, .mismatch (.wrongLength 0 pairWanted), rfl, by simp only [ended]⟩
  | cons left trees =>
      obtain ⟨tail, more, place⟩ := agree_place agreesFirst 0 fit spells rest
      rcases place with ⟨one, known, read⟩ | ⟨cause, fault, known, read⟩
      · simp only [Value.sortedItems, pairOfItems, known, read]
        cases trees with
        | nil =>
            have ended := readPlace_of_end (second.reader budget) 1 more rest
            exact .inr ⟨_, .mismatch (.wrongLength 1 pairWanted), rfl, by simp only [ended]⟩
        | cons right trees =>
            have fit := (List.forall_mem_cons.mp fit).2
            obtain ⟨tail, more, place⟩ := agree_place agreesSecond 1 fit more rest
            rcases place with ⟨two, known, read⟩ | ⟨cause, fault, known, read⟩
            · simp only [Value.sortedItems, known, read]
              cases trees with
              | nil =>
                  have ended := readEnd_of_end more rest
                  exact .inl ⟨(one, two), rfl, by simp only [ended]⟩
              | cons third trees =>
                  obtain ⟨cause, unread⟩ := readEnd_of_item more rest
                  exact .inr ⟨_, .malformed cause, rfl, by simp only [unread]⟩
            · exact .inr ⟨cause, fault, by simp only [Value.sortedItems, known], by simp only [read]⟩
      · exact .inr ⟨cause, fault, by simp only [Value.sortedItems, pairOfItems, known], by
          simp only [read]⟩

theorem agrees_pair {α β : Type} {first : Codec α} {second : Codec β}
    (agreesFirst : first.Agrees) (agreesSecond : second.Agrees) :
    (Codec.pair first second).Agrees := by
  intro used tree budget spelled before rest blank ends
  change Agree rest _ (readPair (insidePair? first.toDecoder second.toDecoder budget) _)
  by_cases isList : ∃ items, tree = .array items
  · obtain ⟨trees, rfl⟩ := isList
    cases budget with
    | zero => exact absurd spelled.shallow (Nat.not_succ_le_zero _)
    | succ budget =>
        have fit := itemsFit_of_spelled spelled
        cases spelled.spells with
        | scalar spelling => cases spelling
        | list inside => exact agree_pairItems agreesFirst agreesSecond fit blank inside
  · have other : ∀ items, tree ≠ .array items := fun items same => isList ⟨items, same⟩
    obtain ⟨byte, tail, start, differs⟩ := notList spelled other blank rest
    have kind : (Codec.pair first second).ofValue tree.sorted =
        .error (.wrongKind tree.sorted.sight pairWanted) := by
      cases tree with
      | array items => exact absurd rfl (other items)
      | null | bool | number | text | object => rfl
    refine .inr ⟨_, wrongKindAt pairWanted (byte :: tail), kind, ?_⟩
    simp only [readPair, start, if_neg differs]

/-! ## Whole texts -/

/-- A text is read as the value that it denotes is read. -/
theorem Decoder.Agrees.parse {α : Type} {decoder : Decoder α} (agrees : decoder.Agrees)
    {text : Bytes} {tree : Value} (denotes : Denotes text tree)
    (distinct : tree.hasDistinctKeys = true) (shallow : tree.depth ≤ frameBudget) :
    (decoder.parse text).toOption = (decoder.ofValue tree.sorted).toOption := by
  obtain ⟨before, used, after, rfl, blankBefore, spells, blankAfter⟩ := denotes
  rcases agrees ⟨spells, distinct, shallow⟩ blankBefore (endsNumeral_of_isBlank blankAfter) with
    ⟨value, known, read⟩ | ⟨cause, fault, known, read⟩
  · rw [Decoder.parse, Reader.runAll_of_run read blankAfter, known]
    rfl
  · rw [known]
    simp only [Decoder.parse, Reader.runAll, read]
    rfl

theorem toOption_eq_some_iff {ε α : Type} {result : Except ε α} {value : α} :
    result.toOption = some value ↔ result = .ok value := by
  cases result <;> simp [Except.toOption]

theorem Decoder.Agrees.parse_eq_ok {α : Type} {decoder : Decoder α} (agrees : decoder.Agrees)
    {text : Bytes} {tree : Value} (denotes : Denotes text tree)
    (distinct : tree.hasDistinctKeys = true) (shallow : tree.depth ≤ frameBudget) {value : α}
    (known : decoder.ofValue tree.sorted = .ok value) : decoder.parse text = .ok value := by
  have same := (agrees.parse denotes distinct shallow).trans (congrArg Except.toOption known)
  exact toOption_eq_some_iff.mp same

end ServerManagement.Wire
