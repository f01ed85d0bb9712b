import ServerManagement.Wire.Decoder

/-!
# Records

A record type is described once, by the list of its fields. The description is read from objects,
whose members come in any order and may be unknown, and from lists, which give the fields by
position; it is written as an object.
-/

set_option autoImplicit false

namespace ServerManagement.Wire

open ServerManagement.Json

inductive Presence where
  | required
  /-- An object may lack it, and a list may end before it. -/
  | defaulted
  /-- An object may lack it; a list must have it. -/
  | omittable
deriving DecidableEq, Repr

/-- One field of a record. Reading gives the change that puts the field into a record; writing gives
nothing when the field is left out. -/
structure Field (R : Type) where
  name : String
  presence : Presence
  decoder : Decoder (R → R)
  write : R → Option Value

/-- A record type: its name, a record with every default, and its fields in order. -/
structure Record (R : Type) where
  name : String
  blank : R
  fields : List (Field R)

def Field.required {R α : Type} (name : String) (codec : Codec α) (get : R → α)
    (put : α → R → R) : Field R where
  name := name
  presence := .required
  decoder := codec.toDecoder.map put
  write record := some (codec.toValue (get record))

/-- A field with a default, which is written always. -/
def Field.defaulted {R α : Type} (name : String) (codec : Codec α) (get : R → α)
    (put : α → R → R) : Field R where
  name := name
  presence := .defaulted
  decoder := codec.toDecoder.map put
  write record := some (codec.toValue (get record))

/-- A field that may be absent or null and is written only when it is present. -/
def Field.optional {R α : Type} (name : String) (codec : Codec α) (get : R → Option α)
    (put : Option α → R → R) (presence : Presence := .defaulted) : Field R where
  name := name
  presence := presence
  decoder := codec.toDecoder.option.map put
  write record := (get record).map codec.toValue

namespace Record

variable {R : Type}

def wanted (record : Record R) : String := "struct " ++ record.name

/-- The words for the length of a list that is too short. -/
def wantedLength (record : Record R) : String :=
  record.wanted ++ " with " ++ String.ofList (Decimal.digits record.fields.length) ++
    (if record.fields.length = 1 then " element" else " elements")

def field? (record : Record R) (name : String) : Option (Field R) :=
  record.fields.find? (·.name == name)

/-- A list that ends before the given fields is long enough if all have defaults; otherwise the
length is the position of the first that has none. -/
def shortBy (record : Record R) (index : Nat) : List (Field R) → Except Mismatch Unit
  | [] => .ok ()
  | field :: fields =>
    if field.presence = .defaulted then shortBy record (index + 1) fields
    else .error (.wrongLength index record.wantedLength)

/-- An object is complete if every required field has been seen. -/
def complete (seen : List String) : List (Field R) → Except Mismatch Unit
  | [] => .ok ()
  | field :: fields =>
    if field.presence = .required ∧ field.name ∉ seen then .error (.missingField field.name)
    else complete seen fields

/-! ## From a value -/

/-- Take the items of a list for the fields in order; `total` is the length of the whole list. -/
def ofPositions (record : Record R) (total : Nat) :
    Nat → List (Field R) → List Value → R → Except Mismatch R
  | _, [], [], state => .ok state
  | _, [], _ :: _, _ => .error (.wrongLength total "fewer elements in array")
  | index, fields, [], state =>
    match record.shortBy index fields with
    | .error cause => .error cause
    | .ok _ => .ok state
  | index, field :: fields, item :: items, state =>
    match field.decoder.ofValue item with
    | .error cause => .error cause
    | .ok change => ofPositions record total (index + 1) fields items (change state)

/-- Take the members of an object, skipping unknown ones. -/
def ofMembers (record : Record R) : Members → R → Except Mismatch R
  | [], state => .ok state
  | (key, value) :: members, state =>
    match record.field? key with
    | none => ofMembers record members state
    | some field =>
      match field.decoder.ofValue value with
      | .error cause => .error cause
      | .ok change => ofMembers record members (change state)

def ofValue (record : Record R) : Value → Except Mismatch R
  | .array items => ofPositions record items.length 0 record.fields items record.blank
  | .object members =>
    match ofMembers record members record.blank with
    | .error cause => .error cause
    | .ok state =>
      match complete (members.map Prod.fst) record.fields with
      | .error cause => .error cause
      | .ok _ => .ok state
  | other => .error (.wrongKind other.sight record.wanted)

/-! ## From a text -/

/-- The end of a list whose items have all been read. -/
def readEnd (input : Bytes) : Except Malformed Bytes :=
  match skipBlanks input with
  | [] => .error .endInList
  | byte :: rest =>
    if byte = 0x5D then .ok rest
    else if byte = 0x2C ∧ (skipBlanks rest).head? = some 0x5D then .error .trailingComma
    else .error .trailingCharacters

/-- Read the items of a list for the fields in order. -/
def readPositions (record : Record R) (budget : Nat) :
    Nat → List (Field R) → R → Bytes → Except Fault (R × Bytes)
  | _, [], state, input =>
    match readEnd input with
    | .error cause => .error (.malformed cause)
    | .ok rest => .ok (state, rest)
  | index, field :: fields, state, input =>
    match nextItem (index == 0) input with
    | .error cause => .error (.malformed cause)
    | .ok (.finished rest) =>
      match record.shortBy index (field :: fields) with
      | .error cause => .error (.mismatch cause)
      | .ok _ => .ok (state, rest)
    | .ok (.item start) =>
      match (field.decoder.reader budget).run start with
      | .error fault => .error fault
      | .ok (change, rest) => readPositions record budget (index + 1) fields (change state) rest

theorem length_readEnd_lt {input rest : Bytes} (read : readEnd input = .ok rest) :
    rest.length < input.length := by
  unfold readEnd at read
  split at read
  · simp at read
  · rename_i found
    split at read
    · simp only [Except.ok.injEq] at read
      exact read ▸ length_lt_of_skipBlanks found
    · split at read <;> simp at read

theorem length_readPositions_lt {record : Record R} {budget index : Nat}
    {fields : List (Field R)} {state after : R} {input rest : Bytes}
    (read : readPositions record budget index fields state input = .ok (after, rest)) :
    rest.length < input.length := by
  induction fields generalizing index state input with
  | nil =>
      unfold readPositions at read
      split at read
      · simp at read
      · rename_i found
        simp only [Except.ok.injEq, Prod.mk.injEq] at read
        obtain ⟨_, rfl⟩ := read
        exact length_readEnd_lt found
  | cons field fields ih =>
      unfold readPositions at read
      split at read
      · simp at read
      · rename_i found
        split at read
        · simp at read
        · simp only [Except.ok.injEq, Prod.mk.injEq] at read
          obtain ⟨_, rfl⟩ := read
          exact length_nextItem_lt found
      · rename_i found
        split at read
        · simp at read
        · rename_i item
          have := length_nextItem_le found
          have := (field.decoder.reader budget).shrinks item
          have := ih read
          omega

/-- Take one member: an unknown one is skipped, a known one may come once. The state lists the
fields that have been seen. -/
def takeMember (record : Record R) (budget : Nat) (state : List String × R) (key : String)
    (input : Bytes) : Except Fault ((List String × R) × Bytes) :=
  match record.field? key with
  | none =>
    match readColon input with
    | .error cause => .error (.malformed cause)
    | .ok rest =>
      match skipValue rest with
      | .error cause => .error (.malformed cause)
      | .ok rest => .ok (state, rest)
  | some field =>
    if key ∈ state.1 then .error (.mismatch (.duplicateField key))
    else
      match readColon input with
      | .error cause => .error (.malformed cause)
      | .ok rest =>
        match (field.decoder.reader budget).run rest with
        | .error fault => .error fault
        | .ok (change, rest) => .ok ((key :: state.1, change state.2), rest)

theorem length_takeMember_lt {record : Record R} {budget : Nat} {state after : List String × R}
    {key : String} {input rest : Bytes}
    (read : takeMember record budget state key input = .ok (after, rest)) :
    rest.length < input.length := by
  unfold takeMember at read
  split at read
  · split at read
    · simp at read
    · rename_i colon
      split at read
      · simp at read
      · rename_i found
        simp only [Except.ok.injEq, Prod.mk.injEq] at read
        obtain ⟨_, rfl⟩ := read
        have := length_readColon_lt colon
        have := length_skipValue_lt found
        omega
  · split at read
    · simp at read
    · split at read
      · simp at read
      · rename_i colon
        split at read
        · simp at read
        · rename_i found
          simp only [Except.ok.injEq, Prod.mk.injEq] at read
          obtain ⟨_, rfl⟩ := read
          have := length_readColon_lt colon
          have := Reader.shrinks _ found
          omega

/-- Takes the members of an object into a record. -/
def memberReader (record : Record R) (budget : Nat) : MemberReader (List String × R) where
  run := takeMember record budget
  shrinks := length_takeMember_lt

/-- Read the members of an object after its opening brace. -/
def readObject (record : Record R) (budget : Nat) (input : Bytes) : Except Fault (R × Bytes) :=
  match readMembers (record.memberReader budget) true ([], record.blank) input with
  | .error fault => .error fault
  | .ok ((seen, state), rest) =>
    match complete seen record.fields with
    | .error cause => .error (.mismatch cause)
    | .ok _ => .ok (state, rest)

/-- Read a record; containers inside it may nest as deep as the budget after one is taken off. -/
def readRecord (record : Record R) (budget : Nat) (input : Bytes) : Except Fault (R × Bytes) :=
  match skipBlanks input with
  | [] => .error (.malformed .endInValue)
  | byte :: rest =>
    match opened? byte, budget with
    | none, _ => .error (wrongKindAt record.wanted (byte :: rest))
    | some _, 0 => .error (.malformed .nestingLimit)
    | some .list, budget + 1 => record.readPositions budget 0 record.fields record.blank rest
    | some .object, budget + 1 => record.readObject budget rest

theorem length_readRecord_lt {record : Record R} {budget : Nat} {input rest : Bytes} {state : R}
    (read : readRecord record budget input = .ok (state, rest)) : rest.length < input.length := by
  unfold readRecord at read
  split at read
  · simp at read
  · rename_i start
    have := length_lt_of_skipBlanks start
    split at read
    · simp at read
    · simp at read
    · have := length_readPositions_lt read
      omega
    · unfold readObject at read
      split at read
      · simp at read
      · rename_i found
        split at read
        · simp at read
        · simp only [Except.ok.injEq, Prod.mk.injEq] at read
          obtain ⟨_, rfl⟩ := read
          have := length_readMembers_lt found
          omega

def decoder (record : Record R) : Decoder R where
  ofValue := record.ofValue
  reader budget := ⟨record.readRecord budget, length_readRecord_lt⟩

/-! ## Writing -/

/-- The members of a record in the order of its fields, without those that are left out. -/
def members (record : Record R) (state : R) : List (String × Value) :=
  record.fields.filterMap fun field => (field.write state).map (field.name, ·)

def codec (record : Record R) : Codec R where
  toDecoder := record.decoder
  toValue state := Value.ofMembers (record.members state)

/-- The text of a record, its members in the order of its fields. -/
def render (record : Record R) (state : R) : String := renderInOrder (record.members state)

end Record

end ServerManagement.Wire
