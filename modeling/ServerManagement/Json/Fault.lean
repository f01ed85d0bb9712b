import ServerManagement.Json.Printer
import ServerManagement.Text.Quoted

/-!
# Why a text or a value is refused

A text may be no JSON at all; a value may not have the wanted shape. Both are causes, worded in one
place each.
-/

set_option autoImplicit false

namespace ServerManagement.Json

inductive Malformed where
  | endInValue
  | endInList
  | endInObject
  | endInString
  | expectedValue
  | expectedWord
  | expectedColon
  | expectedListCommaOrEnd
  | expectedObjectCommaOrEnd
  | keyNotString
  | trailingComma
  | trailingCharacters
  | invalidNumber
  | numberOutOfRange
  | invalidEscape
  | endOfHexEscape
  | loneSurrogate
  | invalidCodePoint
  | controlCharacter
  | nestingLimit
deriving DecidableEq, Repr

def Malformed.message : Malformed → String
  | .endInValue => "EOF while parsing a value"
  | .endInList => "EOF while parsing a list"
  | .endInObject => "EOF while parsing an object"
  | .endInString => "EOF while parsing a string"
  | .expectedValue => "expected value"
  | .expectedWord => "expected ident"
  | .expectedColon => "expected `:`"
  | .expectedListCommaOrEnd => "expected `,` or `]`"
  | .expectedObjectCommaOrEnd => r"expected `,` or `}`"
  | .keyNotString => "key must be a string"
  | .trailingComma => "trailing comma"
  | .trailingCharacters => "trailing characters"
  | .invalidNumber => "invalid number"
  | .numberOutOfRange => "number out of range"
  | .invalidEscape => "invalid escape"
  | .endOfHexEscape => "unexpected end of hex escape"
  | .loneSurrogate => "lone leading surrogate in hex escape"
  | .invalidCodePoint => "invalid unicode code point"
  | .controlCharacter => "control character (\\u0000-\\u001F) found while parsing a string"
  | .nestingLimit => "recursion limit exceeded"

inductive Sight where
  | null
  | bool (value : Bool)
  | number (value : Number)
  | text (value : String)
  | sequence
  | map
deriving DecidableEq, Repr

def Value.sight : Value → Sight
  | .null => .null
  | .bool value => .bool value
  | .number value => .number value
  | .text value => .text value
  | .array _ => .sequence
  | .object _ => .map

def Sight.message : Sight → String
  | .null => "null"
  | .bool true => "boolean `true`"
  | .bool false => "boolean `false`"
  | .number (.integer value) => "integer `" ++ String.ofList (Decimal.signedDigits value) ++ "`"
  | .number (.double value) => "floating point `" ++ String.ofList value.layout ++ "`"
  | .text value => "string " ++ String.ofList (Text.quoted value)
  | .sequence => "sequence"
  | .map => "map"

/-- Why a value does not have the wanted shape. -/
inductive Mismatch where
  | wrongKind (met : Sight) (wanted : String)
  /-- The kind is right and the value outside its range. -/
  | outOfRange (met : Sight) (wanted : String)
  /-- A list has too few or too many items. -/
  | wrongLength (length : Nat) (wanted : String)
  | missingField (name : String)
  | duplicateField (name : String)
  /-- A text does not denote a value of the wanted type. -/
  | unreadable (reason : String)
deriving DecidableEq, Repr

def Mismatch.message : Mismatch → String
  | .wrongKind met wanted => "invalid type: " ++ met.message ++ ", expected " ++ wanted
  | .outOfRange met wanted => "invalid value: " ++ met.message ++ ", expected " ++ wanted
  | .wrongLength length wanted =>
    "invalid length " ++ String.ofList (Decimal.digits length) ++ ", expected " ++ wanted
  | .missingField name => "missing field `" ++ name ++ "`"
  | .duplicateField name => "duplicate field `" ++ name ++ "`"
  | .unreadable reason => reason

/-- Why a text is refused as a value of some type. -/
inductive Fault where
  | malformed (cause : Malformed)
  | mismatch (cause : Mismatch)
deriving DecidableEq, Repr

def Fault.message : Fault → String
  | .malformed cause => cause.message
  | .mismatch cause => cause.message

end ServerManagement.Json
