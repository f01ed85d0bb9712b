import ServerManagement.Client.Method
import ServerManagement.Envelope.Payload
import ServerManagement.Server.GameRule
import ServerManagement.Server.State

/-!
# Server events

The notifications whose meaning is known: their topics, and what they carry. Some carry a value;
others only say that something happened.
-/

set_option autoImplicit false

namespace ServerManagement

open ServerManagement.Json

inductive EventKind where
  | playerJoined
  | playerLeft
  | serverStarted
  | serverStopping
  | serverSaving
  | serverSaved
  | serverStatus
  | gameRuleUpdated
deriving DecidableEq, Repr

inductive ServerEvent where
  | player (player : Player)
  | state (state : ServerState)
  | rule (rule : GameRule)
  /-- Nothing; it has happened. -/
  | signal
deriving DecidableEq

def EventKind.path : EventKind → MethodPath
  | .playerJoined => (MethodPath.notification.add "players").add "joined"
  | .playerLeft => (MethodPath.notification.add "players").add "left"
  | .serverStarted => (MethodPath.notification.add "server").add "started"
  | .serverStopping => (MethodPath.notification.add "server").add "stopping"
  | .serverSaving => (MethodPath.notification.add "server").add "saving"
  | .serverSaved => (MethodPath.notification.add "server").add "saved"
  | .serverStatus => (MethodPath.notification.add "server").add "status"
  | .gameRuleUpdated => (MethodPath.notification.add "gamerules").add "updated"

/-- The kind of events that a stream is named for. -/
def EventKind.named? : String → Option EventKind
  | "players_joined" => some .playerJoined
  | "players_left" => some .playerLeft
  | "server_started" => some .serverStarted
  | "server_stopping" => some .serverStopping
  | "server_saving" => some .serverSaving
  | "server_saved" => some .serverSaved
  | "server_status_updates" => some .serverStatus
  | "gamerules_updated" => some .gameRuleUpdated
  | _ => none

def EventKind.topic (kind : EventKind) : String := kind.path.render

/-- Read an event from a notification. One that reports an error, or whose parameter is not of the
wanted type, is no event. -/
def EventKind.decode (kind : EventKind) (notification : Notification) :
    Except Failure ServerEvent :=
  match kind with
  | .playerJoined | .playerLeft => (notification.decodeParam Player.record.decoder).map .player
  | .serverStatus => (notification.decodeParam ServerState.record.decoder).map .state
  | .gameRuleUpdated => (notification.decodeParam GameRule.record.decoder).map .rule
  | .serverStarted | .serverStopping | .serverSaving | .serverSaved =>
    (checkError notification.error).map fun _ => .signal

/-- The event as a value; a signal is null. -/
def ServerEvent.toValue : ServerEvent → Value
  | .player who => Player.record.codec.toValue who
  | .state current => ServerState.record.codec.toValue current
  | .rule updated => GameRule.record.codec.toValue updated
  | .signal => .null

end ServerManagement
