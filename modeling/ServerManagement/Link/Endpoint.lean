import ServerManagement.Envelope.Failure
import ServerManagement.Link.Settings

/-!
# Endpoints

The address of the management service as a text, from a host, a port, a path and whether the
transport is secured.
-/

set_option autoImplicit false

namespace ServerManagement

structure ClientOptions where
  path : String
  secure : Bool
  /-- The time limit of calls, in milliseconds. -/
  callTimeout : Nat
  settings : Settings
deriving DecidableEq, Repr

namespace ClientOptions

def standard : ClientOptions := ⟨"/", false, 5000, .standard⟩

/-- Set the path. The empty path changes nothing; a missing slash is put in front. -/
def withPath (options : ClientOptions) (path : String) : ClientOptions :=
  if path = "" then options
  else { options with path := if path.toList.head? = some '/' then path else "/" ++ path }

def withSecure (options : ClientOptions) (secure : Bool) : ClientOptions :=
  { options with secure := secure }

def withCallTimeout (options : ClientOptions) (milliseconds : Nat) : ClientOptions :=
  { options with callTimeout := milliseconds }

def withSettings (options : ClientOptions) (settings : Settings) : ClientOptions :=
  { options with settings := settings }

/-- A host as it stands in an address; one with colons is put into brackets. -/
def hostText (host : String) : String :=
  if ':' ∈ host.toList ∧ host.toList.head? ≠ some '[' then "[" ++ host ++ "]" else host

def endpoint (options : ClientOptions) (host : String) (port : UInt16) : Except Failure String :=
  if host = "" then .error (.connect "无效的主机名")
  else if port = 0 then .error (.connect "无效的端口")
  else .ok ((if options.secure then "wss" else "ws") ++ "://" ++ hostText host ++ ":" ++
    String.ofList (Decimal.digits port.toNat) ++ options.path)

end ClientOptions

end ServerManagement
