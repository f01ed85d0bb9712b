import ServerManagement.Link.Address
import ServerManagement.Link.Endpoint
import ServerManagement.Session.Basic

/-!
# Dialling

Opening a connection to a service: the address and the credentials are checked, then the peer
answers the handshake or does not.
-/

set_option autoImplicit false

namespace ServerManagement

inductive Dialling where
  /-- The handshake succeeded, with a status line. -/
  | connected (status : String)
  /-- The handshake was refused, with a status line. -/
  | rejected (status : String)
  | silent
  /-- There was no way to the service. -/
  | unreachable

/-- What a status line says; without one there was no way to the service. -/
def Dialling.ofStatus (status : String) : Dialling :=
  if status = "" then .unreachable
  else if status.startsWith "101" then .connected status
  else .rejected status

inductive DialFault where
  | badAddress
  | badToken
  | rejected (status : String)
  | silent (milliseconds : Nat)
  | unreachable
deriving DecidableEq, Repr

/-- The reason that is told, if one is. -/
def DialFault.reason? : DialFault → Option String
  | .badAddress => none
  | .badToken => some "无效的令牌"
  | .rejected status => some ("HTTP error: " ++ status)
  | .silent milliseconds => some ("握手超时 (" ++ Failure.count milliseconds ++ "ms)")
  | .unreachable => none

/-- The failure to open a connection to an address. -/
def DialFault.failure (address : String) (fault : DialFault) : Failure :=
  match fault.reason? with
  | some reason => .connectTo address reason
  | none => .connect address

/-- The token may stand in a header: it has no control characters but tabs. -/
def isHeaderText (token : String) : Bool :=
  token.toList.all fun c => c == '\t' || (' ' ≤ c && c != '\x7f')

/-- The header that carries the token; blanks at its end are not sent. -/
def authorization (token : String) : String :=
  String.ofList (("Bearer " ++ token).toList.reverse.dropWhile fun c => c == ' ' || c == '\t').reverse

/-- The line logged when a connection has been opened. -/
def connectionOpened (address status : String) : LogLine :=
  ⟨.info, "已连接到 " ++ address ++ " (HTTP " ++ status ++ ")"⟩

/-- Open a connection. The result is the line to be logged. -/
def dial (address token : String) (settings : Settings) (dialling : Dialling) :
    Except Failure LogLine :=
  if !Link.isDiallable address then .error (DialFault.failure address .badAddress)
  else if !isHeaderText token then .error (DialFault.failure address .badToken)
  else
    match dialling with
    | .connected status => .ok (connectionOpened address status)
    | .rejected status => .error (DialFault.failure address (.rejected status))
    | .silent => .error (DialFault.failure address (.silent settings.ioTimeout))
    | .unreachable => .error (DialFault.failure address .unreachable)

/-- Open a connection to the service of a host. -/
def ClientOptions.connect (options : ClientOptions) (host : String) (port : UInt16)
    (token : String) (dialling : Dialling) : Except Failure LogLine :=
  match options.endpoint host port with
  | .error failure => .error failure
  | .ok address =>
    dial address token (options.settings.withCallTimeout options.callTimeout) dialling

end ServerManagement
