import ServerManagement.Json.Scan

/-!
# Skipping a JSON value

A value whose content does not matter is checked against the grammar only: numbers may have any
size, escapes need not denote characters, and containers may nest to any depth.
-/

set_option autoImplicit false
set_option linter.unusedVariables false

namespace ServerManagement.Json

inductive Bracket where
  | list
  | object
deriving DecidableEq, Repr

def Bracket.closing : Bracket → UInt8
  | .list => 0x5D
  | .object => 0x7D

/-- The trouble when the text ends inside a container. -/
def Bracket.endFault : Bracket → Malformed
  | .list => .endInList
  | .object => .endInObject

/-- The trouble when neither a comma nor the closing byte follows a value. -/
def Bracket.commaFault : Bracket → Malformed
  | .list => .expectedListCommaOrEnd
  | .object => .expectedObjectCommaOrEnd

def skipKey (input : Bytes) : Except Malformed Bytes :=
  match skipBlanks input with
  | [] => .error .endInObject
  | quote :: rest =>
    if quote = 0x22 then
      match skipString rest with
      | .error cause => .error cause
      | .ok rest =>
        match skipBlanks rest with
        | [] => .error .endInObject
        | colon :: rest => if colon = 0x3A then .ok rest else .error .expectedColon
    else .error .keyNotString

/-- The bytes at which the next value of a container starts, after its key in an object. -/
def skipToItem (bracket : Bracket) (input : Bytes) : Except Malformed Bytes :=
  match bracket with
  | .list => .ok input
  | .object => skipKey input

/-- The bytes after a word, a string or a numeral. -/
def skipScalar (input : Bytes) : Except Malformed Bytes :=
  match input with
  | [] => .error .endInValue
  | byte :: rest =>
    if byte = 0x6E then readWord [0x75, 0x6C, 0x6C] rest
    else if byte = 0x74 then readWord [0x72, 0x75, 0x65] rest
    else if byte = 0x66 then readWord [0x61, 0x6C, 0x73, 0x65] rest
    else if byte = 0x22 then skipString rest
    else if byte = 0x2D ∨ isDigitByte byte then
      match readNumeral .invalidNumber (byte :: rest) with
      | .error cause => .error cause
      | .ok (_, rest) => .ok rest
    else .error .expectedValue

def opened? (byte : UInt8) : Option Bracket :=
  if byte = 0x5B then some .list else if byte = 0x7B then some .object else none

theorem length_skipKey_lt {input rest : Bytes} (read : skipKey input = .ok rest) :
    rest.length < input.length := by
  unfold skipKey at read
  split at read
  · simp at read
  · rename_i start
    split at read
    · split at read
      · simp at read
      · rename_i key
        split at read
        · simp at read
        · rename_i after
          split at read
          · simp only [Except.ok.injEq] at read
            subst read
            have := length_lt_of_skipBlanks start
            have := length_skipString_lt key
            have := length_lt_of_skipBlanks after
            omega
          · simp at read
    · simp at read

theorem length_skipToItem_le {bracket : Bracket} {input rest : Bytes}
    (read : skipToItem bracket input = .ok rest) : rest.length ≤ input.length := by
  cases bracket with
  | list =>
      simp only [skipToItem, Except.ok.injEq] at read
      simp [read]
  | object => exact Nat.le_of_lt (length_skipKey_lt read)

theorem length_skipScalar_lt {input rest : Bytes} (read : skipScalar input = .ok rest) :
    rest.length < input.length := by
  unfold skipScalar at read
  split at read
  · simp at read
  · simp only [List.length_cons]
    split at read
    · have := length_readWord_le read; omega
    · split at read
      · have := length_readWord_le read; omega
      · split at read
        · have := length_readWord_le read; omega
        · split at read
          · have := length_skipString_lt read; omega
          · split at read
            · split at read
              · simp at read
              · rename_i found
                simp only [Except.ok.injEq] at read
                subst read
                exact length_readNumeral_lt found
            · simp at read

mutual

/-- The bytes after a value and after the containers that enclose it, the innermost first. -/
def skipWithin (enclosing : List Bracket) (input : Bytes) : Except Malformed Bytes :=
  match start : skipBlanks input with
  | [] => .error .endInValue
  | byte :: body =>
    match opened? byte with
    | none =>
      match scalar : skipScalar (byte :: body) with
      | .error cause => .error cause
      | .ok rest => skipAfter enclosing rest
    | some bracket =>
      match first : skipBlanks body with
      | [] => .error bracket.endFault
      | byte :: after =>
        if byte = bracket.closing then skipAfter enclosing after
        else
          match item : skipToItem bracket (byte :: after) with
          | .error cause => .error cause
          | .ok rest => skipWithin (bracket :: enclosing) rest
termination_by input.length
decreasing_by
  · have bound := length_skipBlanks_le input
    have := length_skipScalar_lt scalar
    rw [start] at bound
    omega
  · have := length_lt_of_skipBlanks start
    have := length_lt_of_skipBlanks first
    omega
  · have := length_lt_of_skipBlanks start
    have bound := length_skipBlanks_le body
    have := length_skipToItem_le item
    rw [first] at bound
    omega

/-- The bytes after the containers that are still open when a value has ended. -/
def skipAfter (enclosing : List Bracket) (input : Bytes) : Except Malformed Bytes :=
  match enclosing with
  | [] => .ok input
  | bracket :: outer =>
    match start : skipBlanks input with
    | [] => .error bracket.endFault
    | byte :: after =>
      if byte = bracket.closing then skipAfter outer after
      else if byte = 0x2C then
        match item : skipToItem bracket after with
        | .error cause => .error cause
        | .ok rest => skipWithin (bracket :: outer) rest
      else .error bracket.commaFault
termination_by input.length
decreasing_by
  · exact length_lt_of_skipBlanks start
  · have := length_lt_of_skipBlanks start
    have := length_skipToItem_le item
    omega

end

def skipValue (input : Bytes) : Except Malformed Bytes := skipWithin [] input

theorem length_skip (size : Nat) :
    (∀ (enclosing : List Bracket) (input rest : Bytes), input.length ≤ size →
      skipWithin enclosing input = .ok rest → rest.length < input.length) ∧
    (∀ (enclosing : List Bracket) (input rest : Bytes), input.length ≤ size →
      skipAfter enclosing input = .ok rest → rest.length ≤ input.length) := by
  induction size with
  | zero =>
      refine ⟨fun enclosing input rest small read => ?_, fun enclosing input rest small read => ?_⟩ <;>
        obtain rfl : input = [] := List.length_eq_zero_iff.mp (by omega)
      · unfold skipWithin at read
        simp [skipBlanks] at read
      · unfold skipAfter at read
        split at read <;> simp_all [skipBlanks]
  | succ size ih =>
      obtain ⟨within, afterwards⟩ := ih
      refine ⟨fun enclosing input rest small read => ?_, fun enclosing input rest small read => ?_⟩
      · unfold skipWithin at read
        split at read
        · simp at read
        · rename_i byte body start
          have bound := length_skipBlanks_le input
          have tail := length_lt_of_skipBlanks start
          rw [start] at bound
          split at read
          · split at read
            · simp at read
            · rename_i scalar
              have := length_skipScalar_lt scalar
              have := afterwards _ _ _ (by omega) read
              omega
          · split at read
            · simp at read
            · rename_i first
              have := length_lt_of_skipBlanks first
              have inner := length_skipBlanks_le body
              rw [first] at inner
              split at read
              · have := afterwards _ _ _ (by omega) read
                omega
              · split at read
                · simp at read
                · rename_i item
                  have := length_skipToItem_le item
                  have := within _ _ _ (by omega) read
                  omega
      · unfold skipAfter at read
        split at read
        · simp only [Except.ok.injEq] at read
          simp [read]
        · split at read
          · simp at read
          · rename_i start
            have := length_lt_of_skipBlanks start
            split at read
            · have := afterwards _ _ _ (by omega) read
              omega
            · split at read
              · split at read
                · simp at read
                · rename_i item
                  have := length_skipToItem_le item
                  have := within _ _ _ (by omega) read
                  omega
              · simp at read

theorem length_skipValue_lt {input rest : Bytes} (read : skipValue input = .ok rest) :
    rest.length < input.length :=
  (length_skip input.length).1 [] input rest (Nat.le_refl _) read

end ServerManagement.Json
