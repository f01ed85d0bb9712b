import ServerManagement.Proofs.Json.Spellings
import ServerManagement.Proofs.Json.WrittenValues

/-!
A text is read as a value exactly when it denotes one that nests no deeper than the budget: what is
read is the sorted value.
-/

set_option autoImplicit false

namespace ServerManagement.Json

/-! ## One item or member at a time -/

section Steps

variable {α σ : Type} {item : Reader α} {member : MemberReader σ} {first : Bool}
  {input start rest after : Bytes} {value : α} {key : String} {state next : σ} {fault : Fault}

theorem readItems_of_finished (ends : nextItem first input = .ok (.finished rest)) :
    readItems item first input = .ok ([], rest) := by
  rw [readItems]
  split <;> simp_all

theorem readItems_of_item (starts : nextItem first input = .ok (.item start))
    (read : item.run start = .ok (value, rest)) :
    readItems item first input =
      match readItems item false rest with
      | .error fault => .error fault
      | .ok (values, rest) => .ok (value :: values, rest) := by
  rw [readItems]
  split
  · simp_all
  · simp_all
  · rename_i same
    obtain rfl := Next.item.inj (Except.ok.inj (starts.symm.trans same))
    split
    · simp_all
    · rename_i same
      obtain ⟨rfl, rfl⟩ := Prod.mk.inj (Except.ok.inj (read.symm.trans same))
      rfl

theorem readItems_of_fault (starts : nextItem first input = .ok (.item start))
    (read : item.run start = .error fault) : readItems item first input = .error fault := by
  rw [readItems]
  split
  · simp_all
  · simp_all
  · rename_i same
    obtain rfl := Next.item.inj (Except.ok.inj (starts.symm.trans same))
    split <;> simp_all

theorem readItems_eq_nil_iff :
    readItems item first input = .ok ([], rest) ↔ nextItem first input = .ok (.finished rest) := by
  refine ⟨fun read => ?_, readItems_of_finished⟩
  rw [readItems] at read
  split at read
  · cases read
  · rename_i ends
    obtain ⟨_, rfl⟩ := Prod.mk.inj (Except.ok.inj read)
    exact ends
  · split at read
    · cases read
    · split at read <;> cases read

theorem readItems_eq_cons_iff {values : List α} :
    readItems item first input = .ok (value :: values, rest) ↔
      ∃ start after, nextItem first input = .ok (.item start) ∧
        item.run start = .ok (value, after) ∧ readItems item false after = .ok (values, rest) := by
  constructor
  · intro read
    rw [readItems] at read
    split at read
    · cases read
    · cases read
    rename_i start starts
    split at read
    · cases read
    rename_i found
    split at read
    · cases read
    rename_i more
    obtain ⟨same, rfl⟩ := Prod.mk.inj (Except.ok.inj read)
    obtain ⟨rfl, rfl⟩ := List.cons.inj same
    exact ⟨start, _, starts, found, more⟩
  · rintro ⟨start, after, starts, found, more⟩
    rw [readItems_of_item starts found, more]

theorem readMembers_of_finished (ends : nextKey first input = .ok (.finished rest)) :
    readMembers member first state input = .ok (state, rest) := by
  rw [readMembers]
  split <;> simp_all

theorem readMembers_of_member (starts : nextKey first input = .ok (.item start))
    (named : readString start = .ok (key, rest))
    (read : member.run state key rest = .ok (next, after)) :
    readMembers member first state input = readMembers member false next after := by
  rw [readMembers]
  split
  · simp_all
  · simp_all
  · rename_i same
    obtain rfl := Next.item.inj (Except.ok.inj (starts.symm.trans same))
    split
    · simp_all
    · rename_i same
      obtain ⟨rfl, rfl⟩ := Prod.mk.inj (Except.ok.inj (named.symm.trans same))
      split
      · simp_all
      · rename_i same
        obtain ⟨rfl, rfl⟩ := Prod.mk.inj (Except.ok.inj (read.symm.trans same))
        rfl

theorem readMembers_of_fault (starts : nextKey first input = .ok (.item start))
    (named : readString start = .ok (key, rest))
    (read : member.run state key rest = .error fault) :
    readMembers member first state input = .error fault := by
  rw [readMembers]
  split
  · simp_all
  · simp_all
  · rename_i same
    obtain rfl := Next.item.inj (Except.ok.inj (starts.symm.trans same))
    split
    · simp_all
    · rename_i same
      obtain ⟨rfl, rfl⟩ := Prod.mk.inj (Except.ok.inj (named.symm.trans same))
      split <;> simp_all

/-- Members are read one by one. -/
theorem readMembers_item_iff {result : σ} (starts : nextKey first input = .ok (.item start)) :
    readMembers member first state input = .ok (result, rest) ↔
      ∃ key left next after, readString start = .ok (key, left) ∧
        member.run state key left = .ok (next, after) ∧
        readMembers member false next after = .ok (result, rest) := by
  constructor
  · intro read
    rw [readMembers] at read
    split at read
    · cases read
    · simp_all
    · rename_i same
      obtain rfl := Next.item.inj (Except.ok.inj (starts.symm.trans same))
      split at read
      · cases read
      · rename_i named
        split at read
        · cases read
        · rename_i taken
          exact ⟨_, _, _, _, named, taken, read⟩
  · rintro ⟨key, left, next, after, named, taken, read⟩
    rw [readMembers_of_member starts named taken, read]

end Steps

/-! ## One value -/

def valueInside? : Nat → Option (Reader Value)
  | 0 => none
  | budget + 1 => some (readValue budget)

inductive ReadFrom (budget : Nat) (byte : UInt8) (tail : Bytes) : Value → Bytes → Prop
  | scalar {value : Value} {rest : Bytes} (unopened : opened? byte = none)
      (read : readScalar (byte :: tail) = .ok (value, rest)) : ReadFrom budget byte tail value rest
  | list {left : Nat} {items : List Value} {rest : Bytes} (opened : byte = 0x5B)
      (deeper : budget = left + 1) (read : readItems (readValue left) true tail = .ok (items, rest)) :
      ReadFrom budget byte tail (.array items) rest
  | object {left : Nat} {members : Members} {rest : Bytes} (opened : byte = 0x7B)
      (deeper : budget = left + 1)
      (read : readMembers (valueMember (readValue left)) true [] tail = .ok (members, rest)) :
      ReadFrom budget byte tail (.object members) rest

theorem readValue_run (budget : Nat) (input : Bytes) :
    (readValue budget).run input = readValueWith (valueInside? budget) input := by
  cases budget <;> rfl

theorem valueInside?_eq_some {budget : Nat} {item : Reader Value} :
    valueInside? budget = some item ↔ ∃ left, budget = left + 1 ∧ readValue left = item := by
  cases budget <;> simp [valueInside?]

theorem readFrom_of_readValue {budget : Nat} {input rest tail : Bytes} {byte : UInt8} {value : Value}
    (start : skipBlanks input = byte :: tail)
    (read : (readValue budget).run input = .ok (value, rest)) :
    ReadFrom budget byte tail value rest := by
  rw [readValue_run] at read
  simp only [readValueWith, start] at read
  split at read
  · rename_i unopened
    exact .scalar unopened (orMalformed_eq_ok.mp read)
  · cases read
  · rename_i opened inner
    obtain ⟨left, deeper, rfl⟩ := valueInside?_eq_some.mp inner
    split at read
    · cases read
    · rename_i found
      obtain ⟨rfl, rfl⟩ := Prod.mk.inj (Except.ok.inj read)
      exact .list (opened?_eq_list_iff.mp opened) deeper found
  · rename_i opened inner
    obtain ⟨left, deeper, rfl⟩ := valueInside?_eq_some.mp inner
    split at read
    · cases read
    · rename_i found
      obtain ⟨rfl, rfl⟩ := Prod.mk.inj (Except.ok.inj read)
      exact .object (opened?_eq_object_iff.mp opened) deeper found

theorem ReadFrom.readValue {budget : Nat} {input rest tail : Bytes} {byte : UInt8} {value : Value}
    (found : ReadFrom budget byte tail value rest) (start : skipBlanks input = byte :: tail) :
    (readValue budget).run input = .ok (value, rest) := by
  rw [readValue_run]
  cases found with
  | scalar unopened read => simp only [readValueWith, start, unopened, orMalformed_eq_ok, read]
  | list opened deeper read =>
      subst opened deeper
      simp only [readValueWith, start, opened?_eq_list_iff.mpr, valueInside?, read]
  | object opened deeper read =>
      subst opened deeper
      simp only [readValueWith, start, opened?_eq_object_iff.mpr, valueInside?, read]

/-- Nothing is read where nothing stands. -/
theorem readValue_of_blank {budget : Nat} {input : Bytes} (blank : skipBlanks input = []) :
    (readValue budget).run input = .error (.malformed .endInValue) := by
  rw [readValue_run]
  simp only [readValueWith, blank]

theorem not_container_of_readScalar {input rest : Bytes} {value : Value}
    (read : readScalar input = .ok (value, rest)) :
    (¬∃ items, value = .array items) ∧ ¬∃ members, value = .object members := by
  obtain ⟨used, _, spelling⟩ := scalarSpelling_of_read read
  exact spelling.not_container

/-! ## What is spelled is read -/

def Part.IsRead (used : Bytes) : Part → Prop
  | .value tree => ∀ budget, tree.depth ≤ budget → ∀ before rest, Blank before →
      EndsNumeral rest →
      (readValue budget).run (before ++ (used ++ rest)) = .ok (tree.sorted, rest)
  | .items first trees => ∀ budget, Value.itemsDepth trees ≤ budget → ∀ rest,
      readItems (readValue budget) first (used ++ rest) = .ok (Value.sortedItems trees, rest)
  | .members first trees => ∀ budget, Value.membersDepth trees ≤ budget → ∀ state rest,
      readMembers (valueMember (readValue budget)) first state (used ++ rest) =
        .ok (Members.insertAll (Value.sortedMembers trees) state, rest)

theorem ScalarSpelling.sorted {used : Bytes} {value : Value} (spelling : ScalarSpelling used value) :
    value.sorted = value := by
  cases spelling <;> rfl

theorem isRead_of_spells {used : Bytes} {part : Part} (spells : Spells used part) :
    part.IsRead used := by
  induction spells with
  | scalar spelling =>
      intro budget _ before rest blank ends
      have read := spelling.read ends
      rw [spelling.sorted]
      obtain ⟨byte, tail, rfl, head⟩ := spelling.head
      refine ReadFrom.readValue (.scalar head.unopened read) ?_
      rw [skipBlanks_append blank]
      exact skipBlanks_cons head.visible _
  | @list body items _ ih =>
      intro budget deep before rest blank _
      cases budget with
      | zero => exact absurd deep (Nat.not_succ_le_zero _)
      | succ budget =>
          have inside := ih budget (Nat.le_of_succ_le_succ deep) rest
          refine ReadFrom.readValue (.list rfl rfl inside) ?_
          rw [skipBlanks_append blank]
          exact skipBlanks_cons rfl _
  | @object body members _ ih =>
      intro budget deep before rest blank _
      cases budget with
      | zero => exact absurd deep (Nat.not_succ_le_zero _)
      | succ budget =>
          have inside := ih budget (Nat.le_of_succ_le_succ deep) [] rest
          rw [Value.sorted, Members.ofMembers_eq]
          refine ReadFrom.readValue (.object rfl rfl inside) ?_
          rw [skipBlanks_append blank]
          exact skipBlanks_cons rfl _
  | endOfItems blank =>
      intro budget _ rest
      rw [List.append_assoc]
      exact readItems_of_finished (nextItem_of_end blank _ rest)
  | @item first gap used tail value items apart head more headIH moreIH =>
      intro budget deep rest
      obtain ⟨shallow, others⟩ := Nat.max_le.mp deep
      have read := headIH budget shallow [] (tail ++ rest) blank_nil
        (more.endsNumeral_of_items rest)
      obtain ⟨byte, row, rfl, start⟩ := head.head
      have starts := apart.nextItem start.visible start.closing (row ++ (tail ++ rest))
      rw [List.append_assoc, List.append_assoc, List.cons_append]
      rw [List.nil_append, List.cons_append] at read
      rw [readItems_of_item starts read, moreIH budget others rest]
      rfl
  | endOfMembers blank =>
      intro budget _ state rest
      rw [List.append_assoc]
      exact readMembers_of_finished (nextKey_of_end blank _ rest)
  | @member first gap name before after used tail key value members apart named blankBefore
      blankAfter head more headIH moreIH =>
      intro budget deep state rest
      obtain ⟨shallow, others⟩ := Nat.max_le.mp deep
      have read := headIH budget shallow after (tail ++ rest) blankAfter
        (more.endsNumeral_of_members rest)
      have taken : (valueMember (readValue budget)).run state key
          (before ++ 0x3A :: (after ++ (used ++ (tail ++ rest)))) =
            .ok (Members.insert key value.sorted state, tail ++ rest) := by
        simp only [valueMember, readColon_append blankBefore, read]
      simp only [List.append_assoc, List.cons_append]
      rw [readMembers_of_member (apart.nextKey _) (named.read _) taken,
        moreIH budget others _ rest]
      rfl

/-! ## What is read is spelled -/

theorem Gap.append_blank {first : Bool} {gap before : Bytes} (apart : Gap first gap)
    (blank : Blank before) : Gap first (gap ++ before) := by
  have both {left : Bytes} (blankLeft : Blank left) : Blank (left ++ before) :=
    fun byte member => (List.mem_append.mp member).elim (blankLeft byte) (blank byte)
  cases apart with
  | first blankBefore => exact .first (both blankBefore)
  | comma blankBefore blankAfter =>
      rw [List.append_assoc, List.cons_append]
      exact .comma blankBefore (both blankAfter)

def ReadAs (budget : Nat) (input : Bytes) (value : Value) (rest : Bytes) : Prop :=
  ∃ tree before used, input = before ++ (used ++ rest) ∧ Blank before ∧
    Spells used (.value tree) ∧ tree.sorted = value ∧ tree.depth ≤ budget

theorem spells_of_readItems {budget : Nat} {item : Reader Value}
    (sound : ∀ input value rest, item.run input = .ok (value, rest) →
      ReadAs budget input value rest) {first : Bool} {input rest : Bytes} {values : List Value}
    (read : readItems item first input = .ok (values, rest)) :
    ∃ trees used, input = used ++ rest ∧ Spells used (.items first trees) ∧
      Value.sortedItems trees = values ∧ Value.itemsDepth trees ≤ budget := by
  fun_induction readItems item first input generalizing values rest with
  | case1 => cases read
  | case2 first input rest next =>
      obtain ⟨rfl, rfl⟩ := Prod.mk.inj (Except.ok.inj read)
      obtain ⟨before, rfl, blank⟩ := blank_of_nextItem next
      exact ⟨[], before ++ [0x5D], by simp, .endOfItems blank, rfl, Nat.zero_le _⟩
  | case3 => cases read
  | case4 => cases read
  | case5 first input start next value after found values rest more ih =>
      obtain ⟨rfl, rfl⟩ := Prod.mk.inj (Except.ok.inj read)
      obtain ⟨gap, rfl, apart⟩ := gap_of_nextItem next
      obtain ⟨tree, before, used, rfl, blank, spells, sorted, shallow⟩ := sound _ _ _ found
      obtain ⟨trees, tail, rfl, inside, sortedTail, shallowTail⟩ := ih more
      refine ⟨tree :: trees, (gap ++ before) ++ (used ++ tail), ?_,
        .item (apart.append_blank blank) spells inside, ?_, Nat.max_le.mpr ⟨shallow, shallowTail⟩⟩
      · simp only [List.append_assoc]
      · rw [Value.sortedItems, sorted, sortedTail]

theorem spells_of_readMembers {budget : Nat} {item : Reader Value}
    (sound : ∀ input value rest, item.run input = .ok (value, rest) →
      ReadAs budget input value rest) {first : Bool} {input rest : Bytes} {state result : Members}
    (read : readMembers (valueMember item) first state input = .ok (result, rest)) :
    ∃ trees used, input = used ++ rest ∧ Spells used (.members first trees) ∧
      Members.insertAll (Value.sortedMembers trees) state = result ∧
      Value.membersDepth trees ≤ budget := by
  fun_induction readMembers (valueMember item) first state input generalizing result rest with
  | case1 => cases read
  | case2 first state input rest next =>
      obtain ⟨rfl, rfl⟩ := Prod.mk.inj (Except.ok.inj read)
      obtain ⟨before, rfl, blank⟩ := blank_of_nextKey next
      exact ⟨[], before ++ [0x7D], by simp, .endOfMembers blank, rfl, Nat.zero_le _⟩
  | case3 => cases read
  | case4 => cases read
  | case5 first state input start next key named found state' after taken ih =>
      obtain ⟨gap, rfl, apart⟩ := gap_of_nextKey next
      obtain ⟨name, rfl, spelling⟩ := spelling_of_readString found
      obtain ⟨trees, tail, rfl, inside, sortedTail, shallowTail⟩ := ih read
      dsimp only [valueMember] at taken
      split at taken
      · cases taken
      rename_i colon
      obtain ⟨before, rfl, blankBefore⟩ := blank_of_readColon colon
      split at taken
      · cases taken
      rename_i value _ item_read
      obtain ⟨rfl, rfl⟩ := Prod.mk.inj (Except.ok.inj taken)
      obtain ⟨tree, between, used, rfl, blankBetween, spells, sorted, shallow⟩ :=
        sound _ _ _ item_read
      refine ⟨(key, tree) :: trees, gap ++ 0x22 ::
        (name ++ (before ++ 0x3A :: (between ++ (used ++ tail)))), ?_,
        .member apart spelling blankBefore blankBetween spells inside, ?_,
        Nat.max_le.mpr ⟨shallow, shallowTail⟩⟩
      · simp only [List.append_assoc, List.cons_append]
      · rw [Value.sortedMembers, sorted, Members.insertAll_cons, sortedTail]

theorem readAs_of_readValue {budget : Nat} {input rest : Bytes} {value : Value}
    (read : (readValue budget).run input = .ok (value, rest)) :
    ReadAs budget input value rest := by
  induction budget using Nat.strongRecOn generalizing input rest value with
  | ind budget ih =>
      obtain ⟨before, blank, same⟩ := exists_blank input
      cases start : skipBlanks input with
      | nil => cases (readValue_of_blank start).symm.trans read
      | cons byte tail =>
          rw [start] at same
          cases readFrom_of_readValue start read with
          | scalar unopened found =>
              obtain ⟨used, split, spelling⟩ := scalarSpelling_of_read found
              rw [split] at same
              have flat : value.depth = 0 := by cases spelling <;> rfl
              exact ⟨value, before, used, same, blank, .scalar spelling, spelling.sorted,
                flat ▸ Nat.zero_le _⟩
          | @list left items _ opened deeper found =>
              subst opened deeper
              obtain ⟨trees, used, rfl, inside, sorted, shallow⟩ :=
                spells_of_readItems (fun _ _ _ => ih left (Nat.lt_succ_self left)) found
              exact ⟨.array trees, before, 0x5B :: used, same, blank, .list inside,
                congrArg Value.array sorted, Nat.succ_le_succ shallow⟩
          | @object left members _ opened deeper found =>
              subst opened deeper
              obtain ⟨trees, used, rfl, inside, sorted, shallow⟩ :=
                spells_of_readMembers (fun _ _ _ => ih left (Nat.lt_succ_self left)) found
              exact ⟨.object trees, before, 0x7B :: used, same, blank, .object inside,
                congrArg Value.object sorted, Nat.succ_le_succ shallow⟩

/-! ## Whole texts -/

theorem Reader.runAll_of_run {α : Type} {reader : Reader α} {input rest : Bytes} {value : α}
    (read : reader.run input = .ok (value, rest)) (blank : Blank rest) :
    reader.runAll input = .ok value := by
  simp only [Reader.runAll, read, skipBlanks_of_blank blank, if_true]

theorem Reader.run_of_runAll {α : Type} {reader : Reader α} {input : Bytes} {value : α}
    (read : reader.runAll input = .ok value) :
    ∃ rest, reader.run input = .ok (value, rest) ∧ Blank rest := by
  unfold Reader.runAll at read
  split at read
  · cases read
  · rename_i found
    split at read
    · rename_i empty
      obtain rfl := Except.ok.inj read
      exact ⟨_, found, blank_of_skipBlanks empty⟩
    · cases read

theorem Value.parse_eq_ok_iff {text : Bytes} {value : Value} :
    Value.parse text = .ok value ↔
      ∃ tree, Denotes text tree ∧ tree.depth ≤ frameBudget ∧ tree.sorted = value := by
  constructor
  · intro read
    obtain ⟨rest, found, blankAfter⟩ := Reader.run_of_runAll read
    obtain ⟨tree, before, used, rfl, blankBefore, spells, sorted, shallow⟩ :=
      readAs_of_readValue found
    exact ⟨tree, ⟨before, used, rest, rfl, blankBefore, spells, blankAfter⟩, shallow, sorted⟩
  · rintro ⟨tree, ⟨before, used, after, rfl, blankBefore, spells, blankAfter⟩, shallow, rfl⟩
    exact Reader.runAll_of_run (isRead_of_spells spells frameBudget shallow before after blankBefore
      (endsNumeral_of_isBlank blankAfter)) blankAfter

end ServerManagement.Json
