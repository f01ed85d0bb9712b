import ServerManagement.Server.Uuid
import ServerManagement.Wire.Record

/-!
# Players and operators
-/

set_option autoImplicit false

namespace ServerManagement

open ServerManagement.Wire

/-- A player, by name and perhaps identifier. -/
structure Player where
  name : String
  id : Option Uuid
deriving DecidableEq

def Player.record : Record Player where
  name := "Player"
  blank := ⟨"", none⟩
  fields := [
    .required "name" .text (·.name) fun name player => { player with name },
    .optional "id" Uuid.codec (·.id) fun id player => { player with id }]

def Player.named (name : String) : Player := ⟨name, none⟩

/-- Some player of the list has the name, compared exactly. -/
def isOnline (players : List Player) (name : String) : Bool :=
  players.any fun player => player.name == name

/-- A player with rights over the server. -/
structure Operator where
  permissionLevel : Int32
  bypassesPlayerLimit : Bool
  player : Player
deriving DecidableEq

def Operator.record : Record Operator where
  name := "Operator"
  blank := ⟨0, false, Player.record.blank⟩
  fields := [
    .required "permissionLevel" .int32 (·.permissionLevel) fun permissionLevel operator =>
      { operator with permissionLevel },
    .required "bypassesPlayerLimit" .bool (·.bypassesPlayerLimit) fun bypassesPlayerLimit operator =>
      { operator with bypassesPlayerLimit },
    .required "player" Player.record.codec (·.player) fun player operator =>
      { operator with player }]

end ServerManagement
