import ServerManagement.Client.Operations

/-!
# Operations by name

Operations that are asked for by their names, with their arguments as members of an object. Results
are values again.
-/

set_option autoImplicit false

namespace ServerManagement.Client

open ServerManagement.Json
open ServerManagement.Wire

/-- An operation with a result as a value, and a bound on its calls. -/
abbrev NamedOperation : Type := (limit : Nat) × Exchange (Except Failure Value) limit

/-- An operation whose result is written as a value. -/
def written {α : Type} {limit : Nat} (codec : Codec α)
    (exchange : Exchange (Except Failure α) limit) : NamedOperation :=
  ⟨limit, exchange.map fun result => result.map codec.toValue⟩

/-- Use an argument; one that cannot be read is reported by its name. -/
def withArgument {α : Type} (decoder : Decoder α) (arguments : Value) (name : String)
    (use : α → NamedOperation) : Except String NamedOperation :=
  match decoder.ofValue ((arguments.member? name).getD .null) with
  | .ok argument => .ok (use argument)
  | .error _ => .error name

def withList {α : Type} (element : Codec α) (arguments : Value) (name : String)
    (use : List α → NamedOperation) : Except String NamedOperation :=
  withArgument (Codec.list element).toDecoder arguments name use

def withAddresses (arguments : Value) (name : String) (use : List Address → NamedOperation) :
    Except String NamedOperation :=
  match (Codec.list Codec.text).ofValue ((arguments.member? name).getD .null) with
  | .error _ => .error name
  | .ok texts =>
    match texts.mapM fun text => Address.parse? text.toList with
    | some addresses => .ok (use addresses)
    | none => .error name

/-- A flag is false unless it is given. -/
def withFlag (arguments : Value) (name : String) (use : Bool → NamedOperation) :
    Except String NamedOperation :=
  match arguments.member? name with
  | none | some .null => .ok (use false)
  | some (.bool flag) => .ok (use flag)
  | some _ => .error name

def writtenPlayers {limit : Nat} (exchange : Exchange (Except Failure (List Player)) limit) :
    NamedOperation :=
  written (.list Player.record.codec) exchange

def writtenBans (operation : Operation (List PlayerBan)) : NamedOperation :=
  written (.list PlayerBan.record.codec) operation

def writtenAddressBans (operation : Operation (List AddressBan)) : NamedOperation :=
  written (.list AddressBan.record.codec) operation

def writtenOperators (operation : Operation (List Operator)) : NamedOperation :=
  written (.list Operator.record.codec) operation

/-- The operation of a name, or the name of the part that cannot be understood. -/
def named (name : String) (arguments : Value) : Except String NamedOperation :=
  match name with
  | "players" => .ok (writtenPlayers players)
  | "kick_players" =>
    withList Kick.record.codec arguments "kicks" fun kicks => writtenPlayers (kickPlayers kicks)
  | "server_status" => .ok (written ServerState.record.codec serverStatus)
  | "save" => withFlag arguments "flush" fun flush => written .bool (save flush)
  | "stop" => .ok (written .bool stop)
  | "system_message" =>
    withArgument SystemMessage.record.decoder arguments "message" fun message =>
      written .bool (sendSystemMessage message)
  | "allowlist" => .ok (writtenPlayers allowlist)
  | "allowlist_set" =>
    withList Player.record.codec arguments "players" fun given =>
      writtenPlayers (allowlistSet given)
  | "allowlist_add" =>
    withList Player.record.codec arguments "players" fun given =>
      writtenPlayers (allowlistAdd given)
  | "allowlist_remove" =>
    withList Player.record.codec arguments "players" fun given =>
      writtenPlayers (allowlistRemove given)
  | "allowlist_clear" => .ok (writtenPlayers allowlistClear)
  | "bans" => .ok (writtenBans bans)
  | "bans_set" =>
    withList PlayerBan.record.codec arguments "bans" fun given => writtenBans (bansSet given)
  | "bans_add" =>
    withList PlayerBan.record.codec arguments "bans" fun given => writtenBans (bansAdd given)
  | "bans_remove" =>
    withList Player.record.codec arguments "players" fun given => writtenBans (bansRemove given)
  | "bans_clear" => .ok (writtenBans bansClear)
  | "ip_bans" => .ok (writtenAddressBans addressBans)
  | "ip_bans_set" =>
    withList AddressBan.record.codec arguments "bans" fun given =>
      writtenAddressBans (addressBansSet given)
  | "ip_bans_add" =>
    withList NewAddressBan.record.codec arguments "bans" fun given =>
      writtenAddressBans (addressBansAdd given)
  | "ip_bans_remove" =>
    withAddresses arguments "ips" fun addresses =>
      writtenAddressBans (addressBansRemove addresses)
  | "ip_bans_clear" => .ok (writtenAddressBans addressBansClear)
  | "operators" => .ok (writtenOperators operators)
  | "operators_set" =>
    withList Operator.record.codec arguments "operators" fun given =>
      writtenOperators (operatorsSet given)
  | "operators_add" =>
    withList Operator.record.codec arguments "operators" fun given =>
      writtenOperators (operatorsAdd given)
  | "operators_remove" =>
    withList Player.record.codec arguments "players" fun given =>
      writtenOperators (operatorsRemove given)
  | "operators_clear" => .ok (writtenOperators operatorsClear)
  | "gamerules" => .ok (written (.list GameRule.record.codec) gameRules)
  | "gamerule_update" =>
    withArgument GameRule.record.decoder arguments "rule" fun rule =>
      written GameRule.record.codec (gameRuleUpdate rule)
  | _ => .error "api"

end ServerManagement.Client
