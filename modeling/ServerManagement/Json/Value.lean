import ServerManagement.Decimal.Notation

/-!
# JSON values

Values with exact numbers. Objects list their members by ascending key; `insert` keeps that order
and lets the last of two equal keys win.
-/

set_option autoImplicit false

namespace ServerManagement.Json

open ServerManagement.Decimal (Double)

/-- A number: a whole number, or a double when it was written with a point, an exponent or too many
digits. -/
inductive Number where
  | integer (value : Int)
  | double (value : Double)
deriving DecidableEq, Repr

inductive Value where
  | null
  | bool (value : Bool)
  | number (value : Number)
  | text (value : String)
  | array (items : List Value)
  | object (members : List (String × Value))
deriving Repr, Inhabited

mutual

def Value.decEq : (left right : Value) → Decidable (left = right)
  | .null, .null => isTrue rfl
  | .bool left, .bool right => decidable_of_iff (left = right) (by simp)
  | .number left, .number right => decidable_of_iff (left = right) (by simp)
  | .text left, .text right => decidable_of_iff (left = right) (by simp)
  | .array left, .array right =>
    have := Value.decEqItems left right
    decidable_of_iff (left = right) (by simp)
  | .object left, .object right =>
    have := Value.decEqMembers left right
    decidable_of_iff (left = right) (by simp)
  | .null, .bool _ | .null, .number _ | .null, .text _ | .null, .array _ | .null, .object _
  | .bool _, .null | .bool _, .number _ | .bool _, .text _ | .bool _, .array _ | .bool _, .object _
  | .number _, .null | .number _, .bool _ | .number _, .text _ | .number _, .array _
  | .number _, .object _ | .text _, .null | .text _, .bool _ | .text _, .number _
  | .text _, .array _ | .text _, .object _ | .array _, .null | .array _, .bool _
  | .array _, .number _ | .array _, .text _ | .array _, .object _ | .object _, .null
  | .object _, .bool _ | .object _, .number _ | .object _, .text _ | .object _, .array _ =>
    isFalse (by simp)

def Value.decEqItems : (left right : List Value) → Decidable (left = right)
  | [], [] => isTrue rfl
  | [], _ :: _ | _ :: _, [] => isFalse (by simp)
  | left :: lefts, right :: rights =>
    have := Value.decEq left right
    have := Value.decEqItems lefts rights
    decidable_of_iff (left = right ∧ lefts = rights) (by simp)

def Value.decEqMembers : (left right : List (String × Value)) → Decidable (left = right)
  | [], [] => isTrue rfl
  | [], _ :: _ | _ :: _, [] => isFalse (by simp)
  | (leftKey, left) :: lefts, (rightKey, right) :: rights =>
    have := Value.decEq left right
    have := Value.decEqMembers lefts rights
    decidable_of_iff (leftKey = rightKey ∧ left = right ∧ lefts = rights)
      (by simp [Prod.ext_iff, and_assoc])

end

instance : DecidableEq Value := Value.decEq

abbrev Members := List (String × Value)

/-- Put a member at its place; a member with the same key is replaced. Keys are ordered by their
code points, which is also the order of their bytes. -/
def Members.insert (key : String) (value : Value) : Members → Members
  | [] => [(key, value)]
  | (other, present) :: rest =>
    if key = other then (key, value) :: rest
    else if key < other then (key, value) :: (other, present) :: rest
    else (other, present) :: Members.insert key value rest

def Members.get? (key : String) : Members → Option Value
  | [] => none
  | (other, value) :: rest => if key = other then some value else Members.get? key rest

/-- The object with the given members, the last of equal keys winning. -/
def Value.ofMembers (members : List (String × Value)) : Value :=
  .object (members.foldl (fun sorted (key, value) => Members.insert key value sorted) [])

/-- The member of an object; none for a missing key and for values of other kinds. -/
def Value.member? (value : Value) (key : String) : Option Value :=
  match value with
  | .object members => Members.get? key members
  | _ => none

def Value.ofInt (value : Int) : Value := .number (.integer value)

def Value.ofNat (value : Nat) : Value := .ofInt value

def Value.kind : Value → String
  | .null => "null"
  | .bool _ => "bool"
  | .number _ => "number"
  | .text _ => "string"
  | .array _ => "array"
  | .object _ => "object"

end ServerManagement.Json
