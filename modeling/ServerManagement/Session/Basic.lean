import ServerManagement.Correlation.Basic
import ServerManagement.Link.Settings
import ServerManagement.Notice.Stream
import ServerManagement.Session.Outbound

/-!
# Sessions

A connection as its users see it: calls that wait for their responses, subscribers, the way out to
the peer and the reader of what comes in, under a clock that only moves when it is told to. All that
happens is recorded in the order in which it happens.
-/

set_option autoImplicit false

namespace ServerManagement

structure Call where
  number : Nat
  id : UInt64
  method : String
  ticket : Nat
  /-- The time that the call was given, in milliseconds. -/
  limit : Nat
  deadline : Nat
  token : Option Token
deriving DecidableEq

/-- What a caller asks for: a time limit, and a token that gives the call up. -/
structure CallTerms where
  limit : Option Nat
  token : Option Token
deriving DecidableEq

def CallTerms.standard : CallTerms := ⟨none, none⟩

inductive ReaderState where
  | running
  | stopped
  /-- Stopped by the logger, leaving the notice board open. -/
  | crashed
  /-- Stopped from outside, leaving the notice board open. -/
  | aborted
deriving DecidableEq, Repr

/-- Someone who closes the connection and waits until it is closed. -/
structure Closer where
  number : Nat
  deadline : Nat
deriving DecidableEq, Repr

/-- What can be seen of a session. Calls and closers are numbered from zero. -/
inductive Occurrence where
  | arrived (arrival : Arrival)
  | logged (line : LogLine)
  | ended (call : Nat) (result : Except Failure Response)
  | closed (closer : Nat) (result : Except Failure Unit)
  /-- A call drew an identifier that is still in use, and never ends. -/
  | drewTwice (call : Nat) (id : UInt64)
  /-- The logger stopped a closer, who is never told of the end. -/
  | closerLost (closer : Nat)

def Occurrence.arrival? : Occurrence → Option Arrival
  | .arrived arrival => some arrival
  | .logged _ | .ended _ _ | .closed _ _ | .drewTwice _ _ | .closerLost _ => none

def Occurrence.line? : Occurrence → Option LogLine
  | .logged line => some line
  | .arrived _ | .ended _ _ | .closed _ _ | .drewTwice _ _ | .closerLost _ => none

def Occurrence.outcome? (number : Nat) : Occurrence → Option (Except Failure Response)
  | .ended call result => if call = number then some result else none
  | .arrived _ | .logged _ | .closed _ _ | .drewTwice _ _ | .closerLost _ => none

/-- The result of a closer whose connection is down. -/
def Occurrence.closing? (number : Nat) : Occurrence → Option (Except Failure Unit)
  | .closed closer result => if closer = number then some result else none
  | .arrived _ | .logged _ | .ended _ _ | .drewTwice _ _ | .closerLost _ => none

structure Session where
  now : Nat
  callTimeout : Nat
  ioTimeout : Nat
  /-- The logger stops whoever reports an error to it. -/
  loggerPanics : Bool
  isClosed : Bool
  correlator : Correlator
  board : Board
  streams : List EventStream
  cancelled : List Token
  calls : List Call
  callCount : Nat
  closer : Option Closer
  closerCount : Nat
  reader : ReaderState
  outbound : Outbound
  history : List Occurrence

namespace Session

/-- A session at time zero over a line that holds so many bytes. -/
def create (settings : Settings) (lineCapacity : Nat) (loggerPanics : Bool) : Session where
  now := 0
  callTimeout := settings.callTimeout
  ioTimeout := settings.ioTimeout
  loggerPanics := loggerPanics
  isClosed := false
  correlator := .empty
  board := .create settings.noticeCapacity
  streams := []
  cancelled := []
  calls := []
  callCount := 0
  closer := none
  closerCount := 0
  reader := .running
  outbound := .create settings.outboundCapacity lineCapacity
  history := []

/-- The number of calls whose response may still come. -/
def pending (session : Session) : Nat := session.correlator.size

def isCancelled (session : Session) (token : Token) : Bool := session.cancelled.contains token

/-- A call that has not ended, by number. -/
def call? (session : Session) (number : Nat) : Option Call :=
  session.calls.find? fun call => call.number == number

def record (session : Session) (occurrence : Occurrence) : Session :=
  { session with history := session.history ++ [occurrence] }

/-- Take everything back that a call holds: its registration and its place in the line of those who
wait for room. A letter in the queue stays there. -/
def dismiss (session : Session) (call : Call) : Session :=
  { session with
    calls := session.calls.filter fun other => other.number ≠ call.number
    correlator := (session.correlator.remove call.id).2.abandon call.ticket
    outbound := session.outbound.withdraw call.number }

def finish (session : Session) (call : Call) (result : Except Failure Response) : Session :=
  (session.dismiss call).record (.ended call.number result)

end Session

end ServerManagement
