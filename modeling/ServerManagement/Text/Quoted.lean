import ServerManagement.Text.Hidden

/-!
# Quoted texts

Texts quoted inside messages: between double quotes, with a backslash before a quote or a backslash,
short escapes for the common controls, and the code point of every other hidden character.
-/

set_option autoImplicit false

namespace ServerManagement.Text

/-- The base sixteen digits of a number, most significant first, in small letters. -/
def hexDigits (value : Nat) : List Char := Nat.toDigits 16 value

def quoteChar (c : Char) : List Char :=
  if c == '"' then ['\\', '"']
  else if c == '\\' then ['\\', '\\']
  else if c == '\n' then ['\\', 'n']
  else if c == '\r' then ['\\', 'r']
  else if c == '\t' then ['\\', 't']
  else if c.toNat == 0 then ['\\', '0']
  else if isHidden c then ['\\', 'u', '{'] ++ hexDigits c.toNat ++ ['}']
  else [c]

def quoted (text : String) : List Char :=
  '"' :: text.toList.flatMap quoteChar ++ ['"']

end ServerManagement.Text
