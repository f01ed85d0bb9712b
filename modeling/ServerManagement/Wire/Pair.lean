import ServerManagement.Wire.Record

/-!
# Pairs

A pair is a list of exactly two items of their own types.
-/

set_option autoImplicit false

namespace ServerManagement.Wire

open ServerManagement.Json

def pairWanted : String := "a tuple of size 2"

def pairOfItems {α β : Type} (first : Decoder α) (second : Decoder β) :
    List Value → Except Mismatch (α × β)
  | [] => .error (.wrongLength 0 pairWanted)
  | left :: items =>
    match first.ofValue left with
    | .error cause => .error cause
    | .ok left =>
      match items with
      | [] => .error (.wrongLength 1 pairWanted)
      | right :: more =>
        match second.ofValue right with
        | .error cause => .error cause
        | .ok right =>
          if more = [] then .ok (left, right)
          else .error (.wrongLength (2 + more.length) "fewer elements in array")

def readPlace {α : Type} (reader : Reader α) (index : Nat) (input : Bytes) :
    Except Fault (α × Bytes) :=
  match nextItem (index == 0) input with
  | .error cause => .error (.malformed cause)
  | .ok (.finished _) => .error (.mismatch (.wrongLength index pairWanted))
  | .ok (.item start) => reader.run start

theorem length_readPlace_lt {α : Type} {reader : Reader α} {index : Nat} {input rest : Bytes}
    {value : α} (read : readPlace reader index input = .ok (value, rest)) :
    rest.length < input.length := by
  unfold readPlace at read
  split at read
  · simp at read
  · simp at read
  · rename_i found
    have := length_nextItem_le found
    have := reader.shrinks read
    omega

/-- A pair from a text, with readers for its items unless containers may nest no deeper. -/
def readPair {α β : Type} (inner : Option (Reader α × Reader β)) (input : Bytes) :
    Except Fault ((α × β) × Bytes) :=
  match skipBlanks input with
  | [] => .error (.malformed .endInValue)
  | byte :: rest =>
    if byte = 0x5B then
      match inner with
      | none => .error (.malformed .nestingLimit)
      | some (first, second) =>
        match readPlace first 0 rest with
        | .error fault => .error fault
        | .ok (left, rest) =>
          match readPlace second 1 rest with
          | .error fault => .error fault
          | .ok (right, rest) =>
            match Record.readEnd rest with
            | .error cause => .error (.malformed cause)
            | .ok rest => .ok ((left, right), rest)
    else .error (wrongKindAt pairWanted (byte :: rest))

theorem length_readPair_lt {α β : Type} {inner : Option (Reader α × Reader β)}
    {input rest : Bytes} {value : α × β} (read : readPair inner input = .ok (value, rest)) :
    rest.length < input.length := by
  unfold readPair at read
  split at read
  · simp at read
  · rename_i start
    have := length_lt_of_skipBlanks start
    split at read
    · split at read
      · simp at read
      · split at read
        · simp at read
        · rename_i left
          split at read
          · simp at read
          · rename_i right
            split at read
            · simp at read
            · rename_i finish
              simp only [Except.ok.injEq, Prod.mk.injEq] at read
              obtain ⟨_, rfl⟩ := read
              have := length_readPlace_lt left
              have := length_readPlace_lt right
              have := Record.length_readEnd_lt finish
              omega
    · simp at read

/-- The readers inside a pair, if the budget allows a container. -/
def insidePair? {α β : Type} (first : Decoder α) (second : Decoder β) :
    Nat → Option (Reader α × Reader β)
  | 0 => none
  | budget + 1 => some (first.reader budget, second.reader budget)

def Codec.pair {α β : Type} (first : Codec α) (second : Codec β) : Codec (α × β) where
  ofValue value :=
    match value with
    | .array items => pairOfItems first.toDecoder second.toDecoder items
    | other => .error (.wrongKind other.sight pairWanted)
  reader budget :=
    ⟨readPair (insidePair? first.toDecoder second.toDecoder budget), length_readPair_lt⟩
  toValue pair := .array [first.toValue pair.1, second.toValue pair.2]

end ServerManagement.Wire
