import ServerManagement.Server.Player

/-!
# The server's state
-/

set_option autoImplicit false

namespace ServerManagement

open ServerManagement.Wire

structure Version where
  protocol : Int32
  name : String
deriving DecidableEq

def Version.record : Record Version where
  name := "Version"
  blank := ⟨0, ""⟩
  fields := [
    .required "protocol" .int32 (·.protocol) fun protocol version => { version with protocol },
    .required "name" .text (·.name) fun name version => { version with name }]

/-- The parts of a text between occurrences of a character. -/
def splitAt (separator : Char) : List Char → List (List Char)
  | [] => [[]]
  | c :: rest =>
    match splitAt separator rest with
    | [] => [[c]]
    | part :: parts => if c = separator then [] :: part :: parts else (c :: part) :: parts

def versionNumber? (text : List Char) : Option UInt32 :=
  match Decimal.readSigned .unsigned32 text with
  | .ok value => some (UInt32.ofNat value.toNat)
  | .error _ => none

/-- The three numbers of a version's name, if it has exactly three. -/
def Version.numbers? (version : Version) : Option (UInt32 × UInt32 × UInt32) :=
  match splitAt '.' version.name.toList with
  | [major, minor, patch] =>
    match versionNumber? major, versionNumber? minor, versionNumber? patch with
    | some major, some minor, some patch => some (major, minor, patch)
    | _, _, _ => none
  | _ => none

structure ServerState where
  players : List Player
  started : Bool
  version : Version
deriving DecidableEq

def ServerState.record : Record ServerState where
  name := "ServerState"
  blank := ⟨[], false, Version.record.blank⟩
  fields := [
    .defaulted "players" (.listOrNull Player.record.codec) (·.players) fun players state =>
      { state with players },
    .required "started" .bool (·.started) fun started state => { state with started },
    .defaulted "version" Version.record.codec (·.version) fun version state =>
      { state with version }]

def ServerState.isOnline (state : ServerState) (name : String) : Bool :=
  ServerManagement.isOnline state.players name

end ServerManagement
