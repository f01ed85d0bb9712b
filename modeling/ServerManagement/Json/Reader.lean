import ServerManagement.Json.Skip

/-!
# Reading JSON

A reader takes a value from the start of a text and leaves the rest; it always consumes something,
which is what bounds the loops over items and members. A budget bounds the nesting of containers.
-/

set_option autoImplicit false
set_option linter.unusedVariables false

namespace ServerManagement.Json

/-- Reads something from the start of a text and leaves what follows. -/
structure Reader (α : Type) where
  run : Bytes → Except Fault (α × Bytes)
  shrinks : ∀ {input value rest}, run input = .ok (value, rest) → rest.length < input.length

def orMalformed {α : Type} : Except Malformed α → Except Fault α
  | .ok value => .ok value
  | .error cause => .error (.malformed cause)

theorem orMalformed_eq_ok {α : Type} {result : Except Malformed α} {value : α} :
    orMalformed result = .ok value ↔ result = .ok value := by
  cases result <;> simp [orMalformed]

def Reader.map {α β : Type} (reader : Reader α) (change : α → β) : Reader β where
  run input :=
    match reader.run input with
    | .error fault => .error fault
    | .ok (value, rest) => .ok (change value, rest)
  shrinks := by
    intro input value rest read
    split at read
    · simp at read
    · rename_i found
      simp only [Except.ok.injEq, Prod.mk.injEq] at read
      obtain ⟨_, rfl⟩ := read
      exact reader.shrinks found

/-- Read a whole text; only blanks may follow. -/
def Reader.runAll {α : Type} (reader : Reader α) (input : Bytes) : Except Fault α :=
  match reader.run input with
  | .error fault => .error fault
  | .ok (value, rest) =>
    if skipBlanks rest = [] then .ok value else .error (.malformed .trailingCharacters)

/-! ## Lists -/

inductive Next where
  /-- An item starts here; in an object its key, after the opening quote. -/
  | item (start : Bytes)
  | finished (rest : Bytes)
deriving DecidableEq, Repr

def nextItem (first : Bool) (input : Bytes) : Except Malformed Next :=
  match skipBlanks input with
  | [] => .error .endInList
  | byte :: rest =>
    if byte = 0x5D then .ok (.finished rest)
    else if first then .ok (.item (byte :: rest))
    else if byte = 0x2C then
      match skipBlanks rest with
      | [] => .error .endInValue
      | byte :: rest =>
        if byte = 0x5D then .error .trailingComma else .ok (.item (byte :: rest))
    else .error .expectedListCommaOrEnd

theorem length_nextItem_le {first : Bool} {input start : Bytes}
    (read : nextItem first input = .ok (.item start)) : start.length ≤ input.length := by
  unfold nextItem at read
  split at read
  · simp at read
  · rename_i found
    have bound := length_skipBlanks_le input
    rw [found] at bound
    split at read
    · simp at read
    · split at read
      · simp only [Except.ok.injEq, Next.item.injEq] at read
        exact read ▸ bound
      · split at read
        · split at read
          · simp at read
          · rename_i after
            have inner := length_skipBlanks_le (List.tail (skipBlanks input))
            rw [found, List.tail_cons, after] at inner
            simp only [List.length_cons] at bound
            split at read
            · simp at read
            · simp only [Except.ok.injEq, Next.item.injEq] at read
              subst read
              omega
        · simp at read

theorem length_nextItem_lt {first : Bool} {input rest : Bytes}
    (read : nextItem first input = .ok (.finished rest)) : rest.length < input.length := by
  unfold nextItem at read
  split at read
  · simp at read
  · rename_i found
    split at read
    · simp only [Except.ok.injEq, Next.finished.injEq] at read
      exact read ▸ length_lt_of_skipBlanks found
    · split at read
      · simp at read
      · split at read
        · split at read
          · simp at read
          · split at read <;> simp at read
        · simp at read

/-- The items of a list after its opening bracket. -/
def readItems {α : Type} (item : Reader α) (first : Bool) (input : Bytes) :
    Except Fault (List α × Bytes) :=
  match next : nextItem first input with
  | .error cause => .error (.malformed cause)
  | .ok (.finished rest) => .ok ([], rest)
  | .ok (.item start) =>
    match read : item.run start with
    | .error fault => .error fault
    | .ok (value, rest) =>
      match readItems item false rest with
      | .error fault => .error fault
      | .ok (values, rest) => .ok (value :: values, rest)
termination_by input.length
decreasing_by
  have := length_nextItem_le next
  have := item.shrinks read
  omega

theorem length_readItems_lt {α : Type} {item : Reader α} {first : Bool} {input rest : Bytes}
    {values : List α} (read : readItems item first input = .ok (values, rest)) :
    rest.length < input.length := by
  fun_induction readItems item first input generalizing values rest with
  | case1 => simp at read
  | case2 =>
      rename_i found
      simp only [Except.ok.injEq, Prod.mk.injEq] at read
      obtain ⟨_, rfl⟩ := read
      exact length_nextItem_lt found
  | case3 => simp at read
  | case4 => simp at read
  | case5 =>
      rename_i next _ _ item_read _ _ inner ih
      simp only [Except.ok.injEq, Prod.mk.injEq] at read
      obtain ⟨_, rfl⟩ := read
      have := length_nextItem_le next
      have := item.shrinks item_read
      have := ih inner
      omega

/-! ## Objects -/

def nextKey (first : Bool) (input : Bytes) : Except Malformed Next :=
  match skipBlanks input with
  | [] => .error .endInObject
  | byte :: rest =>
    if byte = 0x7D then .ok (.finished rest)
    else if first then
      if byte = 0x22 then .ok (.item rest) else .error .keyNotString
    else if byte = 0x2C then
      match skipBlanks rest with
      | [] => .error .endInValue
      | byte :: rest =>
        if byte = 0x7D then .error .trailingComma
        else if byte = 0x22 then .ok (.item rest)
        else .error .keyNotString
    else .error .expectedObjectCommaOrEnd

theorem length_nextKey_lt {first : Bool} {input rest : Bytes}
    (read : nextKey first input = .ok (.item rest) ∨ nextKey first input = .ok (.finished rest)) :
    rest.length < input.length := by
  unfold nextKey at read
  split at read
  · simp at read
  · rename_i tail found
    have bound := length_lt_of_skipBlanks found
    split at read
    · simp only [Except.ok.injEq, reduceCtorEq, Next.finished.injEq, false_or] at read
      exact read ▸ bound
    · split at read
      · split at read
        · simp only [Except.ok.injEq, reduceCtorEq, Next.item.injEq, or_false] at read
          exact read ▸ bound
        · simp at read
      · split at read
        · split at read
          · simp at read
          · rename_i after
            have inner := length_lt_of_skipBlanks after
            split at read
            · simp at read
            · split at read
              · simp only [Except.ok.injEq, reduceCtorEq, Next.item.injEq, or_false] at read
                subst read
                omega
              · simp at read
        · simp at read

/-- The bytes after the colon between a key and its value. -/
def readColon (input : Bytes) : Except Malformed Bytes :=
  match skipBlanks input with
  | [] => .error .endInObject
  | byte :: rest => if byte = 0x3A then .ok rest else .error .expectedColon

theorem length_readColon_lt {input rest : Bytes} (read : readColon input = .ok rest) :
    rest.length < input.length := by
  unfold readColon at read
  split at read
  · simp at read
  · rename_i found
    split at read
    · simp only [Except.ok.injEq] at read
      exact read ▸ length_lt_of_skipBlanks found
    · simp at read

/-- Takes the members of an object one by one into a state: the colon and the value of a key. -/
structure MemberReader (σ : Type) where
  run : σ → String → Bytes → Except Fault (σ × Bytes)
  shrinks : ∀ {state key input after rest}, run state key input = .ok (after, rest) →
    rest.length < input.length

/-- The members of an object after its opening brace. -/
def readMembers {σ : Type} (member : MemberReader σ) (first : Bool) (state : σ) (input : Bytes) :
    Except Fault (σ × Bytes) :=
  match next : nextKey first input with
  | .error cause => .error (.malformed cause)
  | .ok (.finished rest) => .ok (state, rest)
  | .ok (.item start) =>
    match name : readString start with
    | .error cause => .error (.malformed cause)
    | .ok (key, rest) =>
      match read : member.run state key rest with
      | .error fault => .error fault
      | .ok (after, rest) => readMembers member false after rest
termination_by input.length
decreasing_by
  have := length_nextKey_lt (.inl next)
  have := length_readString_lt name
  have := member.shrinks read
  omega

theorem length_readMembers_lt {σ : Type} {member : MemberReader σ} {first : Bool}
    {state after : σ} {input rest : Bytes}
    (read : readMembers member first state input = .ok (after, rest)) :
    rest.length < input.length := by
  fun_induction readMembers member first state input generalizing after rest with
  | case1 => simp at read
  | case2 =>
      rename_i found
      simp only [Except.ok.injEq, Prod.mk.injEq] at read
      obtain ⟨_, rfl⟩ := read
      exact length_nextKey_lt (.inr found)
  | case3 => simp at read
  | case4 => simp at read
  | case5 =>
      rename_i next _ _ name _ _ member_read ih
      have := length_nextKey_lt (.inl next)
      have := length_readString_lt name
      have := member.shrinks member_read
      have := ih read
      omega

/-! ## Values -/

/-- A word, a string or a number. -/
def readScalar (input : Bytes) : Except Malformed (Value × Bytes) :=
  match input with
  | [] => .error .endInValue
  | byte :: rest =>
    if byte = 0x6E then (readWord [0x75, 0x6C, 0x6C] rest).map (Value.null, ·)
    else if byte = 0x74 then (readWord [0x72, 0x75, 0x65] rest).map (Value.bool true, ·)
    else if byte = 0x66 then (readWord [0x61, 0x6C, 0x73, 0x65] rest).map (Value.bool false, ·)
    else if byte = 0x22 then (readString rest).map fun (text, rest) => (.text text, rest)
    else if byte = 0x2D ∨ isDigitByte byte then
      (readNumber (byte :: rest)).map fun (number, rest) => (.number number, rest)
    else .error .expectedValue

theorem map_eq_ok {ε α β : Type} {result : Except ε α} {change : α → β} {value : β} :
    result.map change = .ok value ↔ ∃ before, result = .ok before ∧ change before = value := by
  cases result <;> simp [Except.map]

theorem length_readScalar_lt {input rest : Bytes} {value : Value}
    (read : readScalar input = .ok (value, rest)) : rest.length < input.length := by
  unfold readScalar at read
  split at read
  · simp at read
  · simp only [List.length_cons]
    split at read
    · obtain ⟨_, found, same⟩ := map_eq_ok.mp read
      have := length_readWord_le found
      simp_all only [Prod.mk.injEq]
      omega
    · split at read
      · obtain ⟨_, found, same⟩ := map_eq_ok.mp read
        have := length_readWord_le found
        simp_all only [Prod.mk.injEq]
        omega
      · split at read
        · obtain ⟨_, found, same⟩ := map_eq_ok.mp read
          have := length_readWord_le found
          simp_all only [Prod.mk.injEq]
          omega
        · split at read
          · obtain ⟨_, found, same⟩ := map_eq_ok.mp read
            have := length_readString_lt found
            simp_all only [Prod.mk.injEq]
            omega
          · split at read
            · obtain ⟨_, found, same⟩ := map_eq_ok.mp read
              have := length_readNumber_lt found
              simp_all only [Prod.mk.injEq, List.length_cons]
            · simp at read

/-- Members go into the sorted list, the last of equal keys winning. -/
def valueMember (item : Reader Value) : MemberReader Members where
  run members key input :=
    match readColon input with
    | .error cause => .error (.malformed cause)
    | .ok rest =>
      match item.run rest with
      | .error fault => .error fault
      | .ok (value, rest) => .ok (Members.insert key value members, rest)
  shrinks := by
    intro members key input after rest read
    split at read
    · simp at read
    · rename_i colon
      split at read
      · simp at read
      · rename_i found
        simp only [Except.ok.injEq, Prod.mk.injEq] at read
        obtain ⟨_, rfl⟩ := read
        have := length_readColon_lt colon
        have := item.shrinks found
        omega

/-- One value, with a reader for what containers hold; without one, containers are refused. -/
def readValueWith (inner : Option (Reader Value)) (input : Bytes) :
    Except Fault (Value × Bytes) :=
  match skipBlanks input with
  | [] => .error (.malformed .endInValue)
  | byte :: rest =>
    match opened? byte, inner with
    | none, _ => orMalformed (readScalar (byte :: rest))
    | some _, none => .error (.malformed .nestingLimit)
    | some .list, some item =>
      match readItems item true rest with
      | .error fault => .error fault
      | .ok (items, rest) => .ok (.array items, rest)
    | some .object, some item =>
      match readMembers (valueMember item) true [] rest with
      | .error fault => .error fault
      | .ok (members, rest) => .ok (.object members, rest)

theorem length_readValueWith_lt {inner : Option (Reader Value)} {input rest : Bytes}
    {value : Value} (read : readValueWith inner input = .ok (value, rest)) :
    rest.length < input.length := by
  unfold readValueWith at read
  split at read
  · simp at read
  · rename_i tail start
    have bound := length_skipBlanks_le input
    rw [start, List.length_cons] at bound
    split at read
    · have := length_readScalar_lt (orMalformed_eq_ok.mp read)
      rw [List.length_cons] at this
      omega
    · simp at read
    · split at read
      · simp at read
      · rename_i found
        simp only [Except.ok.injEq, Prod.mk.injEq] at read
        obtain ⟨_, rfl⟩ := read
        have := length_readItems_lt found
        omega
    · split at read
      · simp at read
      · rename_i found
        simp only [Except.ok.injEq, Prod.mk.injEq] at read
        obtain ⟨_, rfl⟩ := read
        have := length_readMembers_lt found
        omega

/-- Values whose containers nest at most as deep as the budget. -/
def readValue : Nat → Reader Value
  | 0 => ⟨readValueWith none, length_readValueWith_lt⟩
  | budget + 1 => ⟨readValueWith (some (readValue budget)), length_readValueWith_lt⟩

/-- Containers of a frame may nest this deep. -/
def frameBudget : Nat := 127

def Value.parse (input : Bytes) : Except Fault Value := (readValue frameBudget).runAll input

end ServerManagement.Json
