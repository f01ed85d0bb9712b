import ServerManagement.Client.Operations
import ServerManagement.Proofs.Server.AddressReading
import ServerManagement.Proofs.Server.PlainRecords

/-!
The operations that take an argument, as one family: what is sent for an argument, what carries it,
which arguments are refused, and what a list that is answered as it was sent is read as.
-/

set_option autoImplicit false

namespace ServerManagement

open ServerManagement.Json
open ServerManagement.Wire
open Client (Operation)

inductive Endpoint where
  | save
  | systemMessage
  | allowlistSet
  | allowlistAdd
  | allowlistRemove
  | bansSet
  | bansAdd
  | bansRemove
  | addressBansSet
  | addressBansAdd
  | addressBansRemove
  | operatorsSet
  | operatorsAdd
  | operatorsRemove
  | gameRuleUpdate
deriving DecidableEq, Repr

/-- The ban that a server makes of a request to ban an address. -/
def NewAddressBan.ban (request : NewAddressBan) : AddressBan :=
  ⟨request.reason, request.expires, request.ip, request.source⟩

namespace Endpoint

abbrev Argument : Endpoint → Type
  | .save => Bool
  | .systemMessage => SystemMessage
  | .allowlistSet | .allowlistAdd | .allowlistRemove | .bansRemove | .operatorsRemove => List Player
  | .bansSet | .bansAdd => List PlayerBan
  | .addressBansSet => List AddressBan
  | .addressBansAdd => List NewAddressBan
  | .addressBansRemove => List Address
  | .operatorsSet | .operatorsAdd => List Operator
  | .gameRuleUpdate => GameRule

abbrev Result : Endpoint → Type
  | .save | .systemMessage => Bool
  | .allowlistSet | .allowlistAdd | .allowlistRemove => List Player
  | .bansSet | .bansAdd | .bansRemove => List PlayerBan
  | .addressBansSet | .addressBansAdd | .addressBansRemove => List AddressBan
  | .operatorsSet | .operatorsAdd | .operatorsRemove => List Operator
  | .gameRuleUpdate => GameRule

def operation : (endpoint : Endpoint) → endpoint.Argument → Operation endpoint.Result
  | .save => Client.save
  | .systemMessage => Client.sendSystemMessage
  | .allowlistSet => Client.allowlistSet
  | .allowlistAdd => Client.allowlistAdd
  | .allowlistRemove => Client.allowlistRemove
  | .bansSet => Client.bansSet
  | .bansAdd => Client.bansAdd
  | .bansRemove => Client.bansRemove
  | .addressBansSet => Client.addressBansSet
  | .addressBansAdd => Client.addressBansAdd
  | .addressBansRemove => Client.addressBansRemove
  | .operatorsSet => Client.operatorsSet
  | .operatorsAdd => Client.operatorsAdd
  | .operatorsRemove => Client.operatorsRemove
  | .gameRuleUpdate => Client.gameRuleUpdate

def method : Endpoint → String
  | .save => "minecraft:server/save"
  | .systemMessage => "minecraft:server/system_message"
  | .allowlistSet => "minecraft:allowlist/set"
  | .allowlistAdd => "minecraft:allowlist/add"
  | .allowlistRemove => "minecraft:allowlist/remove"
  | .bansSet => "minecraft:bans/set"
  | .bansAdd => "minecraft:bans/add"
  | .bansRemove => "minecraft:bans/remove"
  | .addressBansSet => "minecraft:ip_bans/set"
  | .addressBansAdd => "minecraft:ip_bans/add"
  | .addressBansRemove => "minecraft:ip_bans/remove"
  | .operatorsSet => "minecraft:operators/set"
  | .operatorsAdd => "minecraft:operators/add"
  | .operatorsRemove => "minecraft:operators/remove"
  | .gameRuleUpdate => "minecraft:gamerules/update"

/-! ## What an argument has to do with what is sent -/

/-- A value reads as the argument: as a game rule without its type, which is not written, and as texts
that are read as the addresses. -/
def Carries : (endpoint : Endpoint) → endpoint.Argument → Value → Prop
  | .save => fun flush : Bool => fun element => Codec.bool.ofValue element = .ok flush
  | .systemMessage => fun message : SystemMessage => fun element =>
    SystemMessage.record.ofValue element = .ok message
  | .allowlistSet => fun players : List Player => fun element =>
    (Codec.list Player.record.codec).ofValue element = .ok players ∧
      ∀ player ∈ players, player.id ≠ none
  | .allowlistAdd | .allowlistRemove | .bansRemove | .operatorsRemove =>
    fun players : List Player => fun element =>
      (Codec.list Player.record.codec).ofValue element = .ok players
  | .bansSet | .bansAdd => fun bans : List PlayerBan => fun element =>
    (Codec.list PlayerBan.record.codec).ofValue element = .ok bans
  | .addressBansSet => fun bans : List AddressBan => fun element =>
    (Codec.list AddressBan.record.codec).ofValue element = .ok bans
  | .addressBansAdd => fun bans : List NewAddressBan => fun element =>
    (Codec.list NewAddressBan.record.codec).ofValue element = .ok bans
  | .addressBansRemove => fun addresses : List Address => fun element =>
    ∃ texts, (Codec.list Codec.text).ofValue element = .ok texts ∧
      (texts.mapM fun text => Address.parse? text.toList) = some addresses
  | .operatorsSet | .operatorsAdd => fun operators : List Operator => fun element =>
    (Codec.list Operator.record.codec).ofValue element = .ok operators
  | .gameRuleUpdate => fun rule : GameRule => fun element =>
    GameRule.record.ofValue element = .ok { rule with type := .untyped } ∧
      element.member? "type" = none

/-- An argument is refused for a reason: the first of the players for the allowlist who has no
identifier. -/
def Refuses : (endpoint : Endpoint) → endpoint.Argument → Failure → Prop
  | .allowlistSet => fun players : List Player => fun failure =>
    ∃ earlier player later, players = earlier ++ player :: later ∧
      (∀ other ∈ earlier, other.id ≠ none) ∧ player.id = none ∧
      failure = .invalidArgument ("玩家 '" ++ player.name ++ "' 必须带有 UUID")
  | .save | .systemMessage | .allowlistAdd | .allowlistRemove | .bansSet | .bansAdd | .bansRemove
  | .addressBansSet | .addressBansAdd | .addressBansRemove | .operatorsSet | .operatorsAdd
  | .operatorsRemove | .gameRuleUpdate => fun _ _ => False

/-- The result when a list that is set or added to is answered with what was sent. -/
def echo? : (endpoint : Endpoint) → endpoint.Argument → Option endpoint.Result
  | .allowlistSet | .allowlistAdd => fun players : List Player => some players
  | .bansSet | .bansAdd => fun bans : List PlayerBan => some bans
  | .addressBansSet => fun bans : List AddressBan => some bans
  | .addressBansAdd => fun bans : List NewAddressBan => some (bans.map NewAddressBan.ban)
  | .operatorsSet | .operatorsAdd => fun operators : List Operator => some operators
  | .save | .systemMessage | .allowlistRemove | .bansRemove | .addressBansRemove
  | .operatorsRemove | .gameRuleUpdate => fun _ => none

def element : (endpoint : Endpoint) → endpoint.Argument → Value
  | .save => Codec.bool.toValue
  | .systemMessage => SystemMessage.record.codec.toValue
  | .allowlistSet | .allowlistAdd | .allowlistRemove | .bansRemove | .operatorsRemove =>
    (Codec.list Player.record.codec).toValue
  | .bansSet | .bansAdd => (Codec.list PlayerBan.record.codec).toValue
  | .addressBansSet => (Codec.list AddressBan.record.codec).toValue
  | .addressBansAdd => (Codec.list NewAddressBan.record.codec).toValue
  | .addressBansRemove => fun addresses : List Address =>
    (Codec.list Codec.text).toValue (addresses.map Address.render)
  | .operatorsSet | .operatorsAdd => (Codec.list Operator.record.codec).toValue
  | .gameRuleUpdate => fun rule : GameRule => GameRule.record.codec.toValue rule.untyped

def decoder : (endpoint : Endpoint) → Decoder endpoint.Result
  | .save | .systemMessage => Codec.bool.toDecoder
  | .allowlistSet | .allowlistAdd | .allowlistRemove => (Codec.list Player.record.codec).toDecoder
  | .bansSet | .bansAdd | .bansRemove => (Codec.list PlayerBan.record.codec).toDecoder
  | .addressBansSet | .addressBansAdd | .addressBansRemove =>
    (Codec.list AddressBan.record.codec).toDecoder
  | .operatorsSet | .operatorsAdd | .operatorsRemove => (Codec.list Operator.record.codec).toDecoder
  | .gameRuleUpdate => GameRule.record.decoder

variable {endpoint : Endpoint} {argument : endpoint.Argument} {failure : Failure}

/-! ## Refusals -/

/-- A refused argument is reported, and nothing is asked of the server. -/
theorem operation_of_refuses (refused : endpoint.Refuses argument failure) :
    endpoint.operation argument = .done (.error failure) := by
  cases endpoint with
  | allowlistSet =>
      obtain ⟨earlier, player, later, rfl, identified, missing, rfl⟩ := refused
      have skipped : earlier.find? (·.id.isNone) = none :=
        List.find?_eq_none.mpr fun other member absent =>
          identified other member (Option.isNone_iff_eq_none.mp absent)
      have first : (earlier ++ player :: later).find? (·.id.isNone) = some player := by
        rw [List.find?_append, skipped, List.find?_cons_of_pos (by simp [missing]), Option.none_or]
      simp only [operation, Client.allowlistSet, first]
  | _ => exact refused.elim

theorem identified_of_accepted {players : List Player}
    (accepted : ∀ failure, ¬allowlistSet.Refuses players failure) :
    ∀ player ∈ players, player.id ≠ none := by
  cases found : players.find? (·.id.isNone) with
  | none =>
      intro player member missing
      exact List.find?_eq_none.mp found player member (Option.isNone_iff_eq_none.mpr missing)
  | some first =>
      obtain ⟨absent, earlier, later, rfl, identified⟩ := List.find?_eq_some_iff_append.mp found
      refine absurd ⟨earlier, first, later, rfl, fun other inside missing => ?_,
        Option.isNone_iff_eq_none.mp absent, rfl⟩ (accepted _)
      have known := identified other inside
      simp [missing] at known

/-- Any other argument makes one call. -/
theorem operation_of_accepted (accepted : ∀ failure, ¬endpoint.Refuses argument failure) :
    endpoint.operation argument =
      .single endpoint.method (.one (endpoint.element argument)) endpoint.decoder := by
  cases endpoint with
  | allowlistSet =>
      have nobody : argument.find? (·.id.isNone) = none :=
        List.find?_eq_none.mpr fun player member absent =>
          identified_of_accepted accepted player member (Option.isNone_iff_eq_none.mp absent)
      simp only [operation, Client.allowlistSet, nobody]
      rfl
  | _ => rfl

/-! ## What is sent -/

theorem isPlain_element (endpoint : Endpoint) (argument : endpoint.Argument) :
    (endpoint.element argument).IsPlain ∧ (endpoint.element argument).depth ≤ 3 :=
  match endpoint with
  | .save => writesPlain_bool 3 argument
  | .systemMessage => writesPlain_systemMessage 0 argument
  | .allowlistSet | .allowlistAdd | .allowlistRemove | .bansRemove | .operatorsRemove =>
    (writesPlain_player 1).list argument
  | .bansSet | .bansAdd => (writesPlain_playerBan 0).list argument
  | .addressBansSet => (writesPlain_addressBan 1).list argument
  | .addressBansAdd => (writesPlain_newAddressBan 0).list argument
  | .addressBansRemove => (writesPlain_text 2).list (argument.map Address.render)
  | .operatorsSet | .operatorsAdd => (writesPlain_operator 0).list argument
  | .gameRuleUpdate => writesPlain_gameRule 2 argument.untyped

theorem mapM_parse?_render (addresses : List Address) :
    ((addresses.map Address.render).mapM fun text => Address.parse? text.toList) =
      some addresses := by
  induction addresses with
  | nil => rfl
  | cons address addresses ih =>
      rw [List.map_cons, List.mapM_cons, Address.parse?_render, ih]
      rfl

/-- What is sent carries the argument. -/
theorem carries_element (accepted : ∀ failure, ¬endpoint.Refuses argument failure) :
    endpoint.Carries argument (endpoint.element argument) :=
  match endpoint with
  | .save => readsBack_bool argument
  | .systemMessage => RecordType.readsBack .systemMessage (fun _ => trivial) argument
  | .allowlistSet => ⟨readsBack_player.list argument, identified_of_accepted accepted⟩
  | .allowlistAdd | .allowlistRemove | .bansRemove | .operatorsRemove =>
    readsBack_player.list argument
  | .bansSet | .bansAdd => (RecordType.readsBack .playerBan fun _ => trivial).list argument
  | .addressBansSet => (RecordType.readsBack .addressBan fun _ => trivial).list argument
  | .addressBansAdd => (RecordType.readsBack .newAddressBan fun _ => trivial).list argument
  | .addressBansRemove =>
    ⟨argument.map Address.render, readsBack_text.list _, mapM_parse?_render argument⟩
  | .operatorsSet | .operatorsAdd => (RecordType.readsBack .operator fun _ => trivial).list argument
  | .gameRuleUpdate =>
    ⟨Record.ofValue_toValue (RecordType.isIndependent .gameRule) (GameRule.restores trivial), rfl⟩

/-! ## What is answered as it was sent -/

/-- A request to ban an address reads as a ban: the player it names is a member that bans do not
have. -/
theorem ofValue_newAddressBan (request : NewAddressBan) :
    AddressBan.record.ofValue (NewAddressBan.record.codec.toValue request) = .ok request.ban := by
  obtain ⟨members, same, moved, ascending⟩ := NewAddressBan.record.members_toValue
    (RecordType.isIndependent .newAddressBan).names request
  have read : AddressBan.record.ofValue (.object (NewAddressBan.record.members request)) =
      .ok request.ban := rfl
  have distinct := Record.nodup_keys_members (RecordType.isIndependent .newAddressBan).names request
  rw [same]
  exact Record.ofValue_object_perm (RecordType.isIndependent .addressBan) moved.symm distinct read

theorem ofValue_element {expected : endpoint.Result}
    (echoed : endpoint.echo? argument = some expected) :
    endpoint.decoder.ofValue (endpoint.element argument) = .ok expected := by
  cases endpoint with
  | allowlistSet | allowlistAdd =>
      obtain rfl := Option.some.inj echoed
      exact readsBack_player.list argument
  | bansSet | bansAdd =>
      obtain rfl := Option.some.inj echoed
      exact (RecordType.readsBack .playerBan fun _ => trivial).list argument
  | addressBansSet =>
      obtain rfl := Option.some.inj echoed
      exact (RecordType.readsBack .addressBan fun _ => trivial).list argument
  | addressBansAdd =>
      obtain rfl := Option.some.inj echoed
      exact ofItems_map ofValue_newAddressBan argument
  | operatorsSet | operatorsAdd =>
      obtain rfl := Option.some.inj echoed
      exact (RecordType.readsBack .operator fun _ => trivial).list argument
  | save | systemMessage | allowlistRemove | bansRemove | addressBansRemove | operatorsRemove
  | gameRuleUpdate => cases echoed

end Endpoint

end ServerManagement
