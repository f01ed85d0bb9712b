import ServerManagement.Client.Exchange
import ServerManagement.Server.Ban
import ServerManagement.Server.GameRule
import ServerManagement.Server.Message
import ServerManagement.Server.State

/-!
# Operations

What a client can ask of a server. Operations that change a list answer with the whole list as it is
afterwards.
-/

set_option autoImplicit false

namespace ServerManagement.Client

open ServerManagement.Wire

/-- An operation of one call with a typed result, as most are. -/
abbrev Operation (α : Type) : Type := Exchange (Except Failure α) 1

def request {α : Type} (path : MethodPath) (params : Params) (decoder : Decoder α) : Operation α :=
  .single path.render params decoder

def playersDecoder : Decoder (List Player) := (Codec.list Player.record.codec).toDecoder

/-! ## Players -/

def players : Operation (List Player) := request (.ofRoot "players") .none playersDecoder

/-- Kick players. Only those who are online are kicked, and what becomes of the kick does not
matter: the players that are online afterwards tell. -/
def kickPlayers (kicks : List Kick) : Exchange (Except Failure (List Player)) 3 :=
  .call (MethodPath.ofRoot "players").render .none fun outcome =>
    match decodeOutcome playersDecoder outcome with
    | .error failure => .done (.error failure)
    | .ok online =>
      match kicks.filter fun kick => isOnline online kick.player.name with
      | [] => .done (.ok online)
      | present =>
        .call ((MethodPath.ofRoot "players").add "kick").render
          (.one ((Codec.list Kick.record.codec).toValue present)) fun _ => players

/-! ## The server -/

/-- The method that tells the state of the server. -/
def statusPath : MethodPath := (MethodPath.ofRoot "server").add "status"

def serverStatus : Operation ServerState := request statusPath .none ServerState.record.decoder

/-- Save the world, perhaps at once. -/
def save (flush : Bool) : Operation Bool :=
  request ((MethodPath.ofRoot "server").add "save") (.one (.bool flush)) Codec.bool.toDecoder

def stop : Operation Bool :=
  request ((MethodPath.ofRoot "server").add "stop") .none Codec.bool.toDecoder

def sendSystemMessage (message : SystemMessage) : Operation Bool :=
  request ((MethodPath.ofRoot "server").add "system_message")
    (.one (SystemMessage.record.codec.toValue message)) Codec.bool.toDecoder

/-! ## Lists -/

/-- Ask for a list, or clear it. -/
def listRequest {α : Type} (path : MethodPath) (element : Codec α) : Operation (List α) :=
  request path .none (Codec.list element).toDecoder

def listChange {α β : Type} (path : MethodPath) (given : Codec α) (element : Codec β)
    (items : List α) : Operation (List β) :=
  request path (.one ((Codec.list given).toValue items)) (Codec.list element).toDecoder

def allowlist : Operation (List Player) := listRequest (.ofRoot "allowlist") Player.record.codec

/-- Replace the players that may join. Each of them needs an identifier. -/
def allowlistSet (players : List Player) : Operation (List Player) :=
  match players.find? (·.id.isNone) with
  | some player =>
    .done (.error (.invalidArgument ("玩家 '" ++ player.name ++ "' 必须带有 UUID")))
  | none =>
    listChange ((MethodPath.ofRoot "allowlist").add "set") Player.record.codec Player.record.codec
      players

def allowlistAdd : List Player → Operation (List Player) :=
  listChange ((MethodPath.ofRoot "allowlist").add "add") Player.record.codec Player.record.codec

def allowlistRemove : List Player → Operation (List Player) :=
  listChange ((MethodPath.ofRoot "allowlist").add "remove") Player.record.codec Player.record.codec

def allowlistClear : Operation (List Player) :=
  listRequest ((MethodPath.ofRoot "allowlist").add "clear") Player.record.codec

def bans : Operation (List PlayerBan) := listRequest (.ofRoot "bans") PlayerBan.record.codec

def bansSet : List PlayerBan → Operation (List PlayerBan) :=
  listChange ((MethodPath.ofRoot "bans").add "set") PlayerBan.record.codec PlayerBan.record.codec

def bansAdd : List PlayerBan → Operation (List PlayerBan) :=
  listChange ((MethodPath.ofRoot "bans").add "add") PlayerBan.record.codec PlayerBan.record.codec

def bansRemove : List Player → Operation (List PlayerBan) :=
  listChange ((MethodPath.ofRoot "bans").add "remove") Player.record.codec PlayerBan.record.codec

def bansClear : Operation (List PlayerBan) :=
  listRequest ((MethodPath.ofRoot "bans").add "clear") PlayerBan.record.codec

def addressBans : Operation (List AddressBan) :=
  listRequest (.ofRoot "ip_bans") AddressBan.record.codec

def addressBansSet : List AddressBan → Operation (List AddressBan) :=
  listChange ((MethodPath.ofRoot "ip_bans").add "set") AddressBan.record.codec
    AddressBan.record.codec

def addressBansAdd : List NewAddressBan → Operation (List AddressBan) :=
  listChange ((MethodPath.ofRoot "ip_bans").add "add") NewAddressBan.record.codec
    AddressBan.record.codec

/-- Lift the bans of addresses, which are sent in their canonical form. -/
def addressBansRemove (addresses : List Address) : Operation (List AddressBan) :=
  listChange ((MethodPath.ofRoot "ip_bans").add "remove") .text AddressBan.record.codec
    (addresses.map Address.render)

def addressBansClear : Operation (List AddressBan) :=
  listRequest ((MethodPath.ofRoot "ip_bans").add "clear") AddressBan.record.codec

def operators : Operation (List Operator) := listRequest (.ofRoot "operators") Operator.record.codec

def operatorsSet : List Operator → Operation (List Operator) :=
  listChange ((MethodPath.ofRoot "operators").add "set") Operator.record.codec Operator.record.codec

def operatorsAdd : List Operator → Operation (List Operator) :=
  listChange ((MethodPath.ofRoot "operators").add "add") Operator.record.codec Operator.record.codec

def operatorsRemove : List Player → Operation (List Operator) :=
  listChange ((MethodPath.ofRoot "operators").add "remove") Player.record.codec Operator.record.codec

def operatorsClear : Operation (List Operator) :=
  listRequest ((MethodPath.ofRoot "operators").add "clear") Operator.record.codec

/-! ## Game rules -/

def gameRules : Operation (List GameRule) := listRequest (.ofRoot "gamerules") GameRule.record.codec

/-- Change a game rule. It is sent without its type, and comes back with one. -/
def gameRuleUpdate (rule : GameRule) : Operation GameRule :=
  request ((MethodPath.ofRoot "gamerules").add "update")
    (.one (GameRule.record.codec.toValue rule.untyped)) GameRule.record.decoder

end ServerManagement.Client
