import ServerManagement.Json.Value

/-!
# Printing JSON

The text of a value: no blanks, members in the order in which the object lists them, and strings
with escapes for quotes, backslashes and controls only.
-/

set_option autoImplicit false

namespace ServerManagement.Json

def escapeChar (c : Char) : List Char :=
  if c == '"' then ['\\', '"']
  else if c == '\\' then ['\\', '\\']
  else if c.toNat == 8 then ['\\', 'b']
  else if c.toNat == 9 then ['\\', 't']
  else if c.toNat == 10 then ['\\', 'n']
  else if c.toNat == 12 then ['\\', 'f']
  else if c.toNat == 13 then ['\\', 'r']
  else if c.toNat < 32 then
    ['\\', 'u', '0', '0', Nat.digitChar (c.toNat / 16), Nat.digitChar (c.toNat % 16)]
  else [c]

def stringChars (text : String) : List Char :=
  '"' :: text.toList.flatMap escapeChar ++ ['"']

def Number.chars : Number → List Char
  | .integer value => Decimal.signedDigits value
  | .double value => value.layout

mutual

def Value.chars : Value → List Char
  | .null => ['n', 'u', 'l', 'l']
  | .bool true => ['t', 'r', 'u', 'e']
  | .bool false => ['f', 'a', 'l', 's', 'e']
  | .number value => value.chars
  | .text value => stringChars value
  | .array items => '[' :: Value.itemsChars items ++ [']']
  | .object members => '{' :: Value.membersChars members ++ ['}']

/-- The items of an array with commas between them. -/
def Value.itemsChars : List Value → List Char
  | [] => []
  | [item] => item.chars
  | item :: next :: rest => item.chars ++ ',' :: Value.itemsChars (next :: rest)

/-- The members of an object with commas between them. -/
def Value.membersChars : List (String × Value) → List Char
  | [] => []
  | [(key, value)] => stringChars key ++ ':' :: value.chars
  | (key, value) :: next :: rest =>
    stringChars key ++ ':' :: value.chars ++ ',' :: Value.membersChars (next :: rest)

end

def Value.render (value : Value) : String := String.ofList value.chars

/-- The text of an object whose members stay in the given order. -/
def renderInOrder (members : List (String × Value)) : String :=
  String.ofList ('{' :: Value.membersChars members ++ ['}'])

end ServerManagement.Json
