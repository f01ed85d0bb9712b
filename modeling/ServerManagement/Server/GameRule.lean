import ServerManagement.Envelope.Failure

/-!
# Game rules

A rule has a key, a value as text and the name of its type. Updates are sent without a type; the
server answers with one.
-/

set_option autoImplicit false

namespace ServerManagement

open ServerManagement.Wire

inductive GameRuleType where
  | untyped
  | integer
  | boolean
  | other (name : String)
deriving DecidableEq, Repr

def GameRuleType.ofName (name : String) : GameRuleType :=
  if name = "" then .untyped
  else if name = "integer" then .integer
  else if name = "boolean" then .boolean
  else .other name

def GameRuleType.name : GameRuleType → String
  | .untyped => ""
  | .integer => "integer"
  | .boolean => "boolean"
  | .other name => name

def GameRuleType.codec : Codec GameRuleType where
  toDecoder := Codec.text.toDecoder.map GameRuleType.ofName
  toValue type := .text type.name

structure GameRule where
  type : GameRuleType
  value : String
  key : String
deriving DecidableEq, Repr

namespace GameRule

def isUntyped (rule : GameRule) : Bool := rule.type == .untyped

/-- The fields of a rule; a missing type is not written. -/
def record : Record GameRule where
  name := "GameRule"
  blank := ⟨.untyped, "", ""⟩
  fields := [
    { name := "type"
      presence := .defaulted
      decoder := GameRuleType.codec.toDecoder.map fun type rule => { rule with type }
      write := fun rule =>
        if rule.isUntyped then none else some (GameRuleType.codec.toValue rule.type) },
    .required "value" .text (·.value) fun value rule => { rule with value },
    .required "key" .text (·.key) fun key rule => { rule with key }]

def boolean (key : String) (value : Bool) : GameRule :=
  ⟨.boolean, if value then "true" else "false", key⟩

def integer (key : String) (value : Int64) : GameRule :=
  ⟨.integer, String.ofList (Decimal.signedDigits value.toInt), key⟩

def untyped (rule : GameRule) : GameRule := { rule with type := .untyped }

/-- The truth value of a rule of that type; every text but `true` is false. -/
def asBool (rule : GameRule) : Except Failure Bool :=
  if rule.type = .boolean then .ok (rule.value == "true")
  else .error (.invalidArgument ("游戏规则 " ++ rule.key ++ " 不是布尔类型"))

/-- The whole number of a rule of that type. -/
def asInteger (rule : GameRule) : Except Failure Int64 :=
  if rule.type = .integer then
    match Decimal.readSigned .signed64 rule.value.toList with
    | .ok value => .ok (Int64.ofInt value)
    | .error cause =>
      .error (.invalidArgument ("游戏规则 " ++ rule.key ++ " 的值无效: " ++ cause.message))
  else .error (.invalidArgument ("游戏规则 " ++ rule.key ++ " 不是整数类型"))

end GameRule

end ServerManagement
