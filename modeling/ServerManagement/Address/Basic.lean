import ServerManagement.Decimal.Digits

/-!
# Internet addresses

Addresses of four octets and of eight groups, their canonical texts, and the many texts that denote
them.
-/

set_option autoImplicit false

namespace ServerManagement

inductive Address where
  | v4 (a b c d : UInt8)
  | v6 (groups : Vector UInt16 8)
deriving DecidableEq, Repr

namespace Address

/-! ## Canonical texts -/

def octetsText (a b c d : UInt8) : List Char :=
  Decimal.digits a.toNat ++ '.' :: Decimal.digits b.toNat ++ '.' :: Decimal.digits c.toNat ++
    '.' :: Decimal.digits d.toNat

/-- A group in base sixteen, without leading zeros. -/
def groupText (group : UInt16) : List Char := Nat.toDigits 16 group.toNat

def groupsText : List UInt16 → List Char
  | [] => []
  | [group] => groupText group
  | group :: next :: rest => groupText group ++ ':' :: groupsText (next :: rest)

/-- The length of the run of zeros at the start of a list. -/
def zeroRun (groups : List UInt16) : Nat := (groups.takeWhile (· == 0)).length

/-- The start and length of the longest run of zeros, the first of equally long ones; `start` is the
place of the list's head. -/
def longestZeros (start : Nat) : List UInt16 → Nat × Nat
  | [] => (start, 0)
  | group :: rest =>
    let later := longestZeros (start + 1) rest
    let here := zeroRun (group :: rest)
    if later.2 ≤ here then (start, here) else later

/-- The canonical text of eight groups: an embedded address of four octets is shown as such, and
otherwise the longest run of at least two zeros is left out. -/
def groupsCanonical (groups : List UInt16) : List Char :=
  match groups with
  | [0, 0, 0, 0, 0, 0xFFFF, high, low] =>
    "::ffff:".toList ++ octetsText (UInt8.ofNat (high.toNat / 256)) (UInt8.ofNat (high.toNat % 256))
      (UInt8.ofNat (low.toNat / 256)) (UInt8.ofNat (low.toNat % 256))
  | groups =>
    let (start, length) := longestZeros 0 groups
    if length ≤ 1 then groupsText groups
    else groupsText (groups.take start) ++ [':', ':'] ++ groupsText (groups.drop (start + length))

def chars : Address → List Char
  | .v4 a b c d => octetsText a b c d
  | .v6 groups => groupsCanonical groups.toList

def render (address : Address) : String := String.ofList address.chars

def isV4 : Address → Bool
  | .v4 _ _ _ _ => true
  | .v6 _ => false

/-! ## Reading -/

def hexValue? (c : Char) : Option Nat :=
  if '0' ≤ c ∧ c ≤ '9' then some (c.toNat - 48)
  else if 'a' ≤ c ∧ c ≤ 'f' then some (c.toNat - 87)
  else if 'A' ≤ c ∧ c ≤ 'F' then some (c.toNat - 55)
  else none

def ofHexDigits (row : List Char) : Nat :=
  row.foldl (fun high c => 16 * high + (hexValue? c).getD 0) 0

/-- Take an octet: one to three digits without a leading zero, up to 255. -/
def takeOctet? (text : List Char) : Option (UInt8 × List Char) :=
  let row := text.takeWhile Char.isDigit
  let value := Decimal.ofDigits row
  if row = [] ∨ 3 < row.length ∨ (row.head? = some '0' ∧ 1 < row.length) ∨ 255 < value then none
  else some (UInt8.ofNat value, text.drop row.length)

def takeChar? (wanted : Char) : List Char → Option (List Char)
  | [] => none
  | c :: rest => if c = wanted then some rest else none

def takeOctets? (text : List Char) : Option ((UInt8 × UInt8 × UInt8 × UInt8) × List Char) := do
  let (a, text) ← takeOctet? text
  let text ← takeChar? '.' text
  let (b, text) ← takeOctet? text
  let text ← takeChar? '.' text
  let (c, text) ← takeOctet? text
  let text ← takeChar? '.' text
  let (d, text) ← takeOctet? text
  some ((a, b, c, d), text)

/-- Take a group: one to four base sixteen digits. -/
def takeGroup? (text : List Char) : Option (UInt16 × List Char) :=
  let row := text.takeWhile fun c => (hexValue? c).isSome
  if row = [] ∨ 4 < row.length then none
  else some (UInt16.ofNat (ofHexDigits row), text.drop row.length)

/-- Take the colon that separates a group from the one before it. -/
def takeSeparator? (first : Bool) (text : List Char) : Option (List Char) :=
  if first then some text else takeChar? ':' text

def joinOctets (high low : UInt8) : UInt16 := UInt16.ofNat (high.toNat * 256 + low.toNat)

/-- Take at most `room` groups; the last two may be written as four octets, which end the groups.
The flag tells whether they were. -/
def takeGroups : (room : Nat) → (first : Bool) → List Char → List UInt16 × Bool × List Char
  | 0, _, text => ([], false, text)
  | room + 1, first, text =>
    match takeSeparator? first text with
    | none => ([], false, text)
    | some start =>
      match (if 0 < room then takeOctets? start else none) with
      | some ((a, b, c, d), rest) => ([joinOctets a b, joinOctets c d], true, rest)
      | none =>
        match takeGroup? start with
        | none => ([], false, text)
        | some (group, rest) =>
          let (groups, embedded, rest) := takeGroups room false rest
          (group :: groups, embedded, rest)

/-- Take an address of eight groups. Two colons stand for the groups that are left out, of which
there must be one. -/
def takeV6? (text : List Char) : Option (List UInt16 × List Char) :=
  let (head, embedded, rest) := takeGroups 8 true text
  if head.length = 8 then some (head, rest)
  else if embedded then none
  else do
    let rest ← takeChar? ':' rest
    let rest ← takeChar? ':' rest
    let (tail, _, rest) := takeGroups (8 - (head.length + 1)) true rest
    some (head ++ List.replicate (8 - head.length - tail.length) 0 ++ tail, rest)

def ofGroups? (groups : List UInt16) : Option Address :=
  if size : groups.length = 8 then some (.v6 ⟨groups.toArray, by simpa using size⟩) else none

def parse? (text : List Char) : Option Address :=
  match takeOctets? text with
  | some ((a, b, c, d), rest) => if rest = [] then some (.v4 a b c d) else none
  | none =>
    match takeV6? text with
    | some (groups, rest) => if rest = [] then ofGroups? groups else none
    | none => none

end Address

end ServerManagement
