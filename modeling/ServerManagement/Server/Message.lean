import ServerManagement.Server.Player

/-!
# Messages

Texts for players: a literal text, or the key of a localised text with its parameters; and the two
requests that carry them, kicks and system messages.
-/

set_option autoImplicit false

namespace ServerManagement

open ServerManagement.Wire

structure Message where
  translatable : String
  translatableParams : List String
  literal : String
deriving DecidableEq

/-- The fields of a message; all may be missing. -/
def Message.record : Record Message where
  name := "Message"
  blank := ⟨"", [], ""⟩
  fields := [
    .defaulted "translatable" .text (·.translatable) fun translatable message =>
      { message with translatable },
    .defaulted "translatableParams" (.list .text) (·.translatableParams)
      fun translatableParams message => { message with translatableParams },
    .defaulted "literal" .text (·.literal) fun literal message => { message with literal }]

def Message.ofText (literal : String) : Message := ⟨"", [], literal⟩

/-- A player to be kicked, with the message that the player is shown. -/
structure Kick where
  player : Player
  message : Message
deriving DecidableEq

def Kick.record : Record Kick where
  name := "KickPlayer"
  blank := ⟨Player.record.blank, Message.record.blank⟩
  fields := [
    .required "player" Player.record.codec (·.player) fun player kick => { kick with player },
    .required "message" Message.record.codec (·.message) fun message kick => { kick with message }]

/-- A message to some players, or to all when none are given. -/
structure SystemMessage where
  receivingPlayers : List Player
  overlay : Bool
  message : Message
deriving DecidableEq

def SystemMessage.record : Record SystemMessage where
  name := "SystemMessage"
  blank := ⟨[], false, Message.record.blank⟩
  fields := [
    .defaulted "receivingPlayers" (.listOrNull Player.record.codec) (·.receivingPlayers)
      fun receivingPlayers message => { message with receivingPlayers },
    .required "overlay" .bool (·.overlay) fun overlay message => { message with overlay },
    .required "message" Message.record.codec (·.message) fun body message =>
      { message with message := body }]

def Player.kick (player : Player) (message : Message) : Kick := ⟨.named player.name, message⟩

def Player.systemMessage (player : Player) (message : Message) (overlay : Bool) : SystemMessage :=
  ⟨[player], overlay, message⟩

end ServerManagement
