import ServerManagement.Json.Value

/-!
Values as they are written. An object that is written lists its members in any order, and may repeat
keys; sorting gives the value that is read from it. Objects in memory are sorted already.
-/

set_option autoImplicit false

namespace ServerManagement.Json

namespace Value

mutual

def depth : Value → Nat
  | .array items => itemsDepth items + 1
  | .object members => membersDepth members + 1
  | .null | .bool _ | .number _ | .text _ => 0

def itemsDepth : List Value → Nat
  | [] => 0
  | item :: items => max item.depth (itemsDepth items)

def membersDepth : List (String × Value) → Nat
  | [] => 0
  | (_, value) :: members => max value.depth (membersDepth members)

end

mutual

def every (number : Number → Bool) (keys : List String → Bool) : Value → Bool
  | .array items => everyItem number keys items
  | .object members => keys (members.map Prod.fst) && everyMember number keys members
  | .number value => number value
  | .null | .bool _ | .text _ => true

def everyItem (number : Number → Bool) (keys : List String → Bool) : List Value → Bool
  | [] => true
  | item :: items => item.every number keys && everyItem number keys items

def everyMember (number : Number → Bool) (keys : List String → Bool) :
    List (String × Value) → Bool
  | [] => true
  | (_, value) :: members => value.every number keys && everyMember number keys members

end

mutual

/-- The value that is read from what is written: members by ascending key, the last of equal keys
winning. -/
def sorted : Value → Value
  | .array items => .array (sortedItems items)
  | .object members => .ofMembers (sortedMembers members)
  | .null => .null
  | .bool value => .bool value
  | .number value => .number value
  | .text value => .text value

def sortedItems : List Value → List Value
  | [] => []
  | item :: items => item.sorted :: sortedItems items

def sortedMembers : List (String × Value) → List (String × Value)
  | [] => []
  | (key, value) :: members => (key, value.sorted) :: sortedMembers members

end

def hasDistinctKeys (value : Value) : Bool := value.every (fun _ => true) fun keys => keys.Nodup

def isSorted (value : Value) : Bool :=
  value.every (fun _ => true) fun keys => keys.Pairwise (· < ·)

/-- A property that containers have when all that they hold has it. -/
@[elab_as_elim]
theorem induction {motive : Value → Prop} (null : motive .null)
    (bool : ∀ value, motive (.bool value)) (number : ∀ value, motive (.number value))
    (text : ∀ value, motive (.text value))
    (array : ∀ items, (∀ item ∈ items, motive item) → motive (.array items))
    (object : ∀ members : Members, (∀ member ∈ members, motive member.2) →
      motive (.object members))
    (value : Value) : motive value := by
  refine @Value.rec motive (fun items => ∀ item ∈ items, motive item)
    (fun members => ∀ member ∈ members, motive member.2) (fun member => motive member.2)
    null bool number text array object ?_ ?_ ?_ ?_ ?_ value
  · exact fun _ member => nomatch member
  · exact fun _ _ head tail => List.forall_mem_cons.mpr ⟨head, tail⟩
  · exact fun _ member => nomatch member
  · exact fun _ _ head tail => List.forall_mem_cons.mpr ⟨head, tail⟩
  · exact fun _ _ inside => inside

theorem itemsDepth_le_iff {items : List Value} {budget : Nat} :
    itemsDepth items ≤ budget ↔ ∀ item ∈ items, item.depth ≤ budget := by
  induction items with
  | nil => simp [itemsDepth]
  | cons item items ih =>
      rw [itemsDepth, Nat.max_le, ih, List.forall_mem_cons]

theorem membersDepth_le_iff {members : Members} {budget : Nat} :
    membersDepth members ≤ budget ↔ ∀ member ∈ members, member.2.depth ≤ budget := by
  induction members with
  | nil => simp [membersDepth]
  | cons member members ih =>
      rw [membersDepth, Nat.max_le, ih, List.forall_mem_cons]

theorem everyItem_iff {number : Number → Bool} {keys : List String → Bool} {items : List Value} :
    everyItem number keys items = true ↔ ∀ item ∈ items, item.every number keys = true := by
  induction items with
  | nil => simp [everyItem]
  | cons item items ih => simp [everyItem, ih]

theorem everyMember_iff {number : Number → Bool} {keys : List String → Bool} {members : Members} :
    everyMember number keys members = true ↔
      ∀ member ∈ members, member.2.every number keys = true := by
  induction members with
  | nil => simp [everyMember]
  | cons member members ih => simp [everyMember, ih]

theorem every_mono {number other : Number → Bool} {keys more : List String → Bool}
    (numbers : ∀ value, number value = true → other value = true)
    (known : ∀ list, keys list = true → more list = true) {value : Value}
    (holds : value.every number keys = true) : value.every other more = true := by
  induction value using Value.induction with
  | null | bool | text => rfl
  | number value => exact numbers value holds
  | array items ih =>
      rw [every, everyItem_iff] at holds ⊢
      exact fun item member => ih item member (holds item member)
  | object members ih =>
      rw [every, Bool.and_eq_true, everyMember_iff] at holds ⊢
      exact ⟨known _ holds.1, fun member inside => ih member inside (holds.2 member inside)⟩

theorem hasDistinctKeys_of_isSorted {value : Value} (sorted : value.isSorted = true) :
    value.hasDistinctKeys = true := by
  refine every_mono (fun _ holds => holds) (fun keys ascending => ?_) sorted
  exact decide_eq_true ((of_decide_eq_true ascending).imp String.ne_of_lt)

theorem sortedItems_eq_map (items : List Value) : sortedItems items = items.map sorted := by
  induction items with
  | nil => rfl
  | cons item items ih => rw [sortedItems, ih, List.map_cons]

theorem sortedMembers_eq_map (members : Members) :
    sortedMembers members = members.map fun member => (member.1, member.2.sorted) := by
  induction members with
  | nil => rfl
  | cons member members ih => rw [sortedMembers, ih, List.map_cons]

theorem keys_sortedMembers (members : Members) :
    (sortedMembers members).map Prod.fst = members.map Prod.fst := by
  simp [sortedMembers_eq_map]

end Value

/-! ## Members by ascending key -/

namespace Members

def insertAll (members sorted : Members) : Members :=
  members.foldl (fun sorted member => Members.insert member.1 member.2 sorted) sorted

theorem insertAll_cons (member : String × Value) (members sorted : Members) :
    insertAll (member :: members) sorted =
      insertAll members (Members.insert member.1 member.2 sorted) := rfl

theorem ofMembers_eq (members : Members) :
    Value.ofMembers members = .object (insertAll members []) := rfl

theorem insert_perm {key : String} {members : Members} (fresh : key ∉ members.map Prod.fst)
    (value : Value) : (Members.insert key value members).Perm ((key, value) :: members) := by
  induction members with
  | nil => exact .refl _
  | cons member members ih =>
      obtain ⟨other, present⟩ := member
      obtain ⟨differs, absent⟩ : key ≠ other ∧ key ∉ members.map Prod.fst := by
        simpa using fresh
      rw [Members.insert, if_neg differs]
      split
      · exact .refl _
      · exact (List.Perm.cons _ (ih absent)).trans (.swap _ _ _)

theorem insertAll_perm {members sorted : Members}
    (distinct : ((members ++ sorted).map Prod.fst).Nodup) :
    (insertAll members sorted).Perm (members ++ sorted) := by
  induction members generalizing sorted with
  | nil => exact .refl _
  | cons member members ih =>
      have parts : member.1 ∉ (members ++ sorted).map Prod.fst ∧
          ((members ++ sorted).map Prod.fst).Nodup := by
        simpa only [List.cons_append, List.map_cons, List.nodup_cons] using distinct
      have fresh : member.1 ∉ sorted.map Prod.fst := fun present =>
        parts.1 (by simpa using Or.inr (by simpa using present))
      have moved : (members ++ Members.insert member.1 member.2 sorted).Perm
          (member :: (members ++ sorted)) :=
        ((insert_perm fresh member.2).append_left members).trans List.perm_middle
      rw [insertAll_cons]
      refine (ih ?_).trans moved
      refine ((moved.map Prod.fst).nodup_iff).mpr ?_
      exact distinct

theorem insertAll_nil_perm {members : Members} (distinct : (members.map Prod.fst).Nodup) :
    (insertAll members []).Perm members := by
  have whole : (insertAll members []).Perm (members ++ []) :=
    insertAll_perm (by rwa [List.append_nil])
  rwa [List.append_nil] at whole

theorem insert_of_above {key : String} {members : Members}
    (above : ∀ other ∈ members.map Prod.fst, other < key) (value : Value) :
    Members.insert key value members = members ++ [(key, value)] := by
  induction members with
  | nil => rfl
  | cons member members ih =>
      have below : member.1 < key := above _ (List.mem_cons_self ..)
      have differs : key ≠ member.1 := fun same => String.lt_irrefl key (same ▸ below)
      rw [Members.insert, if_neg differs, if_neg (String.lt_asymm below),
        ih fun other inside => above other (List.mem_cons_of_mem _ inside), List.cons_append]

theorem insertAll_of_ascending {members sorted : Members}
    (ascending : ((sorted ++ members).map Prod.fst).Pairwise (· < ·)) :
    insertAll members sorted = sorted ++ members := by
  induction members generalizing sorted with
  | nil => exact (List.append_nil _).symm
  | cons member members ih =>
      have above : ∀ other ∈ sorted.map Prod.fst, other < member.1 := by
        rw [List.map_append, List.pairwise_append] at ascending
        exact fun other inside => ascending.2.2 other inside member.1 (List.mem_cons_self ..)
      have step : sorted ++ member :: members = sorted ++ [member] ++ members := by simp
      rw [insertAll_cons, insert_of_above above, step]
      exact ih (step ▸ ascending)

theorem mem_keys_insert {key other : String} {value : Value} {members : Members}
    (inside : other ∈ (Members.insert key value members).map Prod.fst) :
    other = key ∨ other ∈ members.map Prod.fst := by
  induction members with
  | nil => exact .inl (List.mem_singleton.mp inside)
  | cons member members ih =>
      rw [Members.insert] at inside
      split at inside
      · exact (List.mem_cons.mp inside).imp_right (List.mem_cons_of_mem _)
      split at inside
      · exact List.mem_cons.mp inside
      · rcases List.mem_cons.mp inside with rfl | inside
        · exact .inr (List.mem_cons_self ..)
        · exact (ih inside).imp_right (List.mem_cons_of_mem _)

theorem ascending_insert {members : Members}
    (ascending : (members.map Prod.fst).Pairwise (· < ·)) (key : String) (value : Value) :
    ((Members.insert key value members).map Prod.fst).Pairwise (· < ·) := by
  induction members with
  | nil => exact List.pairwise_singleton ..
  | cons member members ih =>
      obtain ⟨least, rest⟩ := List.pairwise_cons.mp ascending
      rw [Members.insert]
      split
      · rename_i same
        exact List.pairwise_cons.mpr ⟨same ▸ least, rest⟩
      split
      · rename_i below
        refine List.pairwise_cons.mpr ⟨fun other inside => ?_, ascending⟩
        rcases List.mem_cons.mp inside with rfl | inside
        · exact below
        · exact String.lt_trans below (least other inside)
      · rename_i differs notBelow
        refine List.pairwise_cons.mpr ⟨fun other inside => ?_, ih rest⟩
        rcases mem_keys_insert inside with rfl | inside
        · exact Std.lt_of_le_of_ne (String.not_lt.mp notBelow) (Ne.symm differs)
        · exact least other inside

theorem ascending_insertAll {sorted : Members}
    (ascending : (sorted.map Prod.fst).Pairwise (· < ·)) (members : Members) :
    ((insertAll members sorted).map Prod.fst).Pairwise (· < ·) := by
  induction members generalizing sorted with
  | nil => exact ascending
  | cons member members ih => exact ih (ascending_insert ascending ..)

end Members

namespace Value

/-- Values in memory are sorted already. -/
theorem sorted_of_isSorted {value : Value} (ordered : value.isSorted = true) :
    value.sorted = value := by
  induction value using Value.induction with
  | null | bool | number | text => rfl
  | array items ih =>
      rw [isSorted, every, everyItem_iff] at ordered
      rw [sorted, sortedItems_eq_map]
      exact congrArg Value.array
        ((List.map_congr_left fun item inside => ih item inside (ordered item inside)).trans
          (List.map_id items))
  | object members ih =>
      rw [isSorted, every, Bool.and_eq_true, everyMember_iff] at ordered
      have same : sortedMembers members = members := by
        rw [sortedMembers_eq_map]
        refine (List.map_congr_left fun member inside => ?_).trans (List.map_id members)
        exact Prod.ext rfl (ih member inside (ordered.2 member inside))
      have ascending := of_decide_eq_true ordered.1
      rw [sorted, same, Members.ofMembers_eq,
        Members.insertAll_of_ascending (by simpa using ascending), List.nil_append]

end Value

end ServerManagement.Json
