import ServerManagement.Address.Basic
import ServerManagement.Calendar.Expiry
import ServerManagement.Envelope.Failure
import ServerManagement.Server.Player

/-!
# Bans

Bans of players and of addresses. A ban keeps its end as the text that the server uses; new bans
must end in the future.
-/

set_option autoImplicit false

namespace ServerManagement

open ServerManagement.Calendar (Moment)
open ServerManagement.Wire

structure PlayerBan where
  reason : String
  expires : String
  source : String
  player : Player
deriving DecidableEq

structure AddressBan where
  reason : String
  expires : String
  ip : String
  source : String
deriving DecidableEq

/-- A request to ban an address, perhaps that of a player. -/
structure NewAddressBan where
  reason : String
  expires : String
  ip : String
  source : String
  player : Player
deriving DecidableEq

def PlayerBan.record : Record PlayerBan where
  name := "UserBan"
  blank := ⟨"", "", "", Player.record.blank⟩
  fields := [
    .defaulted "reason" .text (·.reason) fun reason ban => { ban with reason },
    .defaulted "expires" .text (·.expires) fun expires ban => { ban with expires },
    .defaulted "source" .text (·.source) fun source ban => { ban with source },
    .required "player" Player.record.codec (·.player) fun player ban => { ban with player }]

def AddressBan.record : Record AddressBan where
  name := "IpBan"
  blank := ⟨"", "", "", ""⟩
  fields := [
    .defaulted "reason" .text (·.reason) fun reason ban => { ban with reason },
    .defaulted "expires" .text (·.expires) fun expires ban => { ban with expires },
    .required "ip" .text (·.ip) fun ip ban => { ban with ip },
    .defaulted "source" .text (·.source) fun source ban => { ban with source }]

/-- The fields of a request to ban an address. -/
def NewAddressBan.record : Record NewAddressBan where
  name := "IncomingIpBan"
  blank := ⟨"", "", "", "", Player.record.blank⟩
  fields := [
    .defaulted "reason" .text (·.reason) fun reason ban => { ban with reason },
    .defaulted "expires" .text (·.expires) fun expires ban => { ban with expires },
    .required "ip" .text (·.ip) fun ip ban => { ban with ip },
    .defaulted "source" .text (·.source) fun source ban => { ban with source },
    .defaulted "player" Player.record.codec (·.player) fun player ban => { ban with player }]

/-- The text of an end that has not passed yet. -/
def futureExpiry (now expires : Moment) : Except Failure String :=
  if expires.isBefore now then
    .error (.invalidArgument ("过期时间已过: " ++ expires.expiryText))
  else .ok expires.expiryText

/-- The end of a ban has passed. Without a readable end a ban never ends. -/
def hasExpired (now : Moment) (expires : String) : Bool :=
  match Moment.ofExpiryText? expires with
  | some moment => moment.isBefore now
  | none => false

def banAddress (ip : String) : Except Failure Address :=
  match Address.parse? ip.toList with
  | some address => .ok address
  | none =>
    .error (.invalidArgument ("无效的封禁 IP " ++ ip ++ ": invalid IP address syntax"))

def PlayerBan.create (now : Moment) (player : Player) (expires : Moment) (reason source : String) :
    Except Failure PlayerBan :=
  match futureExpiry now expires with
  | .error failure => .error failure
  | .ok expires => .ok ⟨reason, expires, source, player⟩

def AddressBan.create (now : Moment) (address : Address) (expires : Moment)
    (reason source : String) : Except Failure AddressBan :=
  match futureExpiry now expires with
  | .error failure => .error failure
  | .ok expires => .ok ⟨reason, expires, address.render, source⟩

/-- Ban an address, naming a player. -/
def NewAddressBan.create (now : Moment) (address : Address) (player : Player) (expires : Moment)
    (reason source : String) : Except Failure NewAddressBan :=
  match futureExpiry now expires with
  | .error failure => .error failure
  | .ok expires => .ok ⟨reason, expires, address.render, source, player⟩

def AddressBan.address (ban : AddressBan) : Except Failure Address := banAddress ban.ip

def NewAddressBan.address (ban : NewAddressBan) : Except Failure Address := banAddress ban.ip

end ServerManagement
