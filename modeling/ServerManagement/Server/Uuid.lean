import ServerManagement.Wire.Decoder

/-!
# Unique identifiers

Identifiers of thirty-two base sixteen digits. They are written in small letters with hyphens, and
read with or without hyphens, in braces, or as a uniform resource name.
-/

set_option autoImplicit false

namespace ServerManagement

open ServerManagement.Json
open ServerManagement.Wire

/-- An identifier, by its thirty-two digits. -/
structure Uuid where
  digits : Vector (Fin 16) 32
deriving DecidableEq, Repr

namespace Uuid

def digitChar (digit : Fin 16) : Char := Nat.digitChar digit.val

/-- The digit of a character, in any letter case. -/
def digit? (c : Char) : Option (Fin 16) :=
  if '0' ≤ c ∧ c ≤ '9' then some (Fin.ofNat 16 (c.toNat - 48))
  else if 'a' ≤ c ∧ c ≤ 'f' then some (Fin.ofNat 16 (c.toNat - 87))
  else if 'A' ≤ c ∧ c ≤ 'F' then some (Fin.ofNat 16 (c.toNat - 55))
  else none

/-- Groups of eight, four, four, four and twelve characters with hyphens between them. -/
def hyphenate (row : List Char) : List Char :=
  row.take 8 ++ '-' :: (row.drop 8).take 4 ++ '-' :: (row.drop 12).take 4 ++
    '-' :: (row.drop 16).take 4 ++ '-' :: row.drop 20

def chars (uuid : Uuid) : List Char := hyphenate (uuid.digits.toList.map digitChar)

def render (uuid : Uuid) : String := String.ofList uuid.chars

def ofRow? (row : List Char) : Option Uuid :=
  match row.mapM digit? with
  | none => none
  | some digits =>
    if size : digits.length = 32 then some ⟨⟨digits.toArray, by simpa using size⟩⟩ else none

def ofHyphenated? (text : List Char) : Option Uuid :=
  let row := text.take 8 ++ (text.drop 9).take 4 ++ (text.drop 14).take 4 ++
    (text.drop 19).take 4 ++ text.drop 24
  if text.length = 36 ∧ hyphenate row = text then ofRow? row else none

/-- The name space that may stand before an identifier, in any letter case. -/
def nameSpace : List Char := "urn:uuid:".toList

def ofChars? (text : List Char) : Option Uuid :=
  if text.length = 32 then ofRow? text
  else if text.length = 36 then ofHyphenated? text
  else if text.length = 38 ∧ text.head? = some '{' ∧ text.getLast? = some '}' then
    ofHyphenated? (text.drop 1).dropLast
  else if text.length = 45 ∧ (text.take 9).map Char.toLower = nameSpace then ofHyphenated? (text.drop 9)
  else none

def parse? (text : String) : Option Uuid := ofChars? text.toList

def codec : Codec Uuid where
  toDecoder := .scalar "a formatted UUID string" fun
    | .text text =>
      match parse? text with
      | some uuid => some (.ok uuid)
      | none => some (.error (.unreadable "UUID parsing failed"))
    | _ => none
  toValue uuid := .text uuid.render

end Uuid

end ServerManagement
