import ServerManagement.Json.Reader

/-!
# Reading typed values

A decoder reads one type in two ways: from a value that has been read before, and straight from a
text. A codec writes the type as well. Scalars are read through what they look like from outside, so
that both ways share one rule.
-/

set_option autoImplicit false

namespace ServerManagement.Wire

open ServerManagement.Json
open ServerManagement.Decimal (Range)

/-- Reads a type from a value, and from a text whose containers nest at most as deep as a budget. -/
structure Decoder (α : Type) where
  ofValue : Value → Except Mismatch α
  reader : Nat → Reader α

structure Codec (α : Type) extends Decoder α where
  toValue : α → Value

/-- Read a whole text as a value of the type. -/
def Decoder.parse {α : Type} (decoder : Decoder α) (input : Bytes) : Except Fault α :=
  (decoder.reader frameBudget).runAll input

def Decoder.map {α β : Type} (decoder : Decoder α) (change : α → β) : Decoder β where
  ofValue value :=
    match decoder.ofValue value with
    | .error cause => .error cause
    | .ok value => .ok (change value)
  reader budget := (decoder.reader budget).map change

/-- What stands at the start of a text, if it is a container. -/
def containerSight? (byte : UInt8) : Option Sight :=
  match opened? byte with
  | none => none
  | some .list => some .sequence
  | some .object => some .map

/-- The fault when something else than the wanted kind stands at the start of a text, which has no
blanks in front. A scalar has to be well-formed before it counts as the wrong kind. -/
def wrongKindAt (wanted : String) (input : Bytes) : Fault :=
  match input with
  | [] => .malformed .endInValue
  | byte :: _ =>
    match containerSight? byte with
    | some met => .mismatch (.wrongKind met wanted)
    | none =>
      match readScalar input with
      | .error cause => .malformed cause
      | .ok (value, _) => .mismatch (.wrongKind value.sight wanted)

/-! ## Scalars -/

/-- The value of a scalar. `accept` is none for scalars of another kind. -/
def scalarOfSight {α : Type} (wanted : String) (accept : Sight → Option (Except Mismatch α))
    (met : Sight) : Except Mismatch α :=
  match accept met with
  | some result => result
  | none => .error (.wrongKind met wanted)

def readScalarAs {α : Type} (wanted : String) (accept : Sight → Option (Except Mismatch α))
    (input : Bytes) : Except Fault (α × Bytes) :=
  match skipBlanks input with
  | [] => .error (.malformed .endInValue)
  | byte :: rest =>
    match containerSight? byte with
    | some met => .error (.mismatch (.wrongKind met wanted))
    | none =>
      match readScalar (byte :: rest) with
      | .error cause => .error (.malformed cause)
      | .ok (value, rest) =>
        match scalarOfSight wanted accept value.sight with
        | .error cause => .error (.mismatch cause)
        | .ok result => .ok (result, rest)

theorem length_readScalarAs_lt {α : Type} {wanted : String}
    {accept : Sight → Option (Except Mismatch α)} {input rest : Bytes} {value : α}
    (read : readScalarAs wanted accept input = .ok (value, rest)) :
    rest.length < input.length := by
  unfold readScalarAs at read
  split at read
  · simp at read
  · rename_i start
    have bound := length_skipBlanks_le input
    rw [start] at bound
    split at read
    · simp at read
    · split at read
      · simp at read
      · rename_i found
        split at read
        · simp at read
        · simp only [Except.ok.injEq, Prod.mk.injEq] at read
          obtain ⟨_, rfl⟩ := read
          have := length_readScalar_lt found
          omega

/-- A scalar type. Containers are never accepted. -/
def Decoder.scalar {α : Type} (wanted : String) (accept : Sight → Option (Except Mismatch α)) :
    Decoder α where
  ofValue value :=
    match value with
    | .array _ => .error (.wrongKind .sequence wanted)
    | .object _ => .error (.wrongKind .map wanted)
    | scalar => scalarOfSight wanted accept scalar.sight
  reader _ := ⟨readScalarAs wanted accept, length_readScalarAs_lt⟩

def Codec.value : Codec Value where
  ofValue := .ok
  reader := readValue
  toValue := id

/-- Nothing, written as null. -/
def Codec.unit : Codec Unit where
  toDecoder := .scalar "unit" fun
    | .null => some (.ok ())
    | _ => none
  toValue _ := .null

def Codec.bool : Codec Bool where
  toDecoder := .scalar "a boolean" fun
    | .bool value => some (.ok value)
    | _ => none
  toValue := .bool

def Codec.text : Codec String where
  toDecoder := .scalar "a string" fun
    | .text value => some (.ok value)
    | _ => none
  toValue := .text

/-- A whole number of a range. Doubles are of another kind, whatever their value. -/
def Decoder.integer (wanted : String) (range : Range) : Decoder Int :=
  .scalar wanted fun
    | .number (.integer value) =>
      if range.holds value then some (.ok value)
      else some (.error (.outOfRange (.number (.integer value)) wanted))
    | _ => none

def Codec.int32 : Codec Int32 where
  toDecoder := (Decoder.integer "i32" .signed32).map Int32.ofInt
  toValue value := .ofInt value.toInt

def Codec.int64 : Codec Int64 where
  toDecoder := (Decoder.integer "i64" .signed64).map Int64.ofInt
  toValue value := .ofInt value.toInt

def Codec.uint32 : Codec UInt32 where
  toDecoder := (Decoder.integer "u32" .unsigned32).map fun value => UInt32.ofNat value.toNat
  toValue value := .ofNat value.toNat

def Codec.uint64 : Codec UInt64 where
  toDecoder := (Decoder.integer "u64" .unsigned64).map fun value => UInt64.ofNat value.toNat
  toValue value := .ofNat value.toNat

/-! ## Options and lists -/

def readOption {α : Type} (inner : Reader α) (input : Bytes) : Except Fault (Option α × Bytes) :=
  match skipBlanks input with
  | [] => .error (.malformed .endInValue)
  | byte :: rest =>
    if byte = 0x6E then
      match readWord [0x75, 0x6C, 0x6C] rest with
      | .error cause => .error (.malformed cause)
      | .ok rest => .ok (none, rest)
    else
      match inner.run (byte :: rest) with
      | .error fault => .error fault
      | .ok (value, rest) => .ok (some value, rest)

theorem length_readOption_lt {α : Type} {inner : Reader α} {input rest : Bytes}
    {value : Option α} (read : readOption inner input = .ok (value, rest)) :
    rest.length < input.length := by
  unfold readOption at read
  split at read
  · simp at read
  · rename_i start
    have bound := length_skipBlanks_le input
    have tail := length_lt_of_skipBlanks start
    rw [start] at bound
    split at read
    · split at read
      · simp at read
      · rename_i found
        simp only [Except.ok.injEq, Prod.mk.injEq] at read
        obtain ⟨_, rfl⟩ := read
        have := length_readWord_le found
        omega
    · split at read
      · simp at read
      · rename_i found
        simp only [Except.ok.injEq, Prod.mk.injEq] at read
        obtain ⟨_, rfl⟩ := read
        have := inner.shrinks found
        omega

def Decoder.option {α : Type} (inner : Decoder α) : Decoder (Option α) where
  ofValue value :=
    match value with
    | .null => .ok none
    | value =>
      match inner.ofValue value with
      | .error cause => .error cause
      | .ok value => .ok (some value)
  reader budget := ⟨readOption (inner.reader budget), length_readOption_lt⟩

def Codec.option {α : Type} (inner : Codec α) : Codec (Option α) where
  toDecoder := inner.toDecoder.option
  toValue
    | none => .null
    | some value => inner.toValue value

/-- The items of a list in order; the first that does not fit is the trouble. -/
def ofItems {α : Type} (inner : Decoder α) : List Value → Except Mismatch (List α)
  | [] => .ok []
  | item :: items =>
    match inner.ofValue item with
    | .error cause => .error cause
    | .ok value =>
      match ofItems inner items with
      | .error cause => .error cause
      | .ok values => .ok (value :: values)

/-- Read a list, with a reader for its items unless containers may nest no deeper. -/
def readList {α : Type} (inner : Option (Reader α)) (input : Bytes) :
    Except Fault (List α × Bytes) :=
  match skipBlanks input with
  | [] => .error (.malformed .endInValue)
  | byte :: rest =>
    if byte = 0x5B then
      match inner with
      | none => .error (.malformed .nestingLimit)
      | some item => readItems item true rest
    else .error (wrongKindAt "a sequence" (byte :: rest))

theorem length_readList_lt {α : Type} {inner : Option (Reader α)} {input rest : Bytes}
    {values : List α} (read : readList inner input = .ok (values, rest)) :
    rest.length < input.length := by
  unfold readList at read
  split at read
  · simp at read
  · rename_i start
    have := length_lt_of_skipBlanks start
    split at read
    · split at read
      · simp at read
      · have := length_readItems_lt read
        omega
    · simp at read

/-- The reader inside a container, if the budget allows one. -/
def Decoder.inside? {α : Type} (decoder : Decoder α) : Nat → Option (Reader α)
  | 0 => none
  | budget + 1 => some (decoder.reader budget)

def Decoder.list {α : Type} (inner : Decoder α) : Decoder (List α) where
  ofValue value :=
    match value with
    | .array items => ofItems inner items
    | other => .error (.wrongKind other.sight "a sequence")
  reader budget := ⟨readList (inner.inside? budget), length_readList_lt⟩

def Codec.list {α : Type} (inner : Codec α) : Codec (List α) where
  toDecoder := inner.toDecoder.list
  toValue values := .array (values.map inner.toValue)

/-- A list for which null stands when it is empty. -/
def Codec.listOrNull {α : Type} (inner : Codec α) : Codec (List α) where
  toDecoder := (Codec.list inner).toDecoder.option.map (·.getD [])
  toValue values := .array (values.map inner.toValue)

end ServerManagement.Wire
