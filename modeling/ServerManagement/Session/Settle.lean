import ServerManagement.Session.Basic

/-!
# Settling

What a session does by itself after something has happened, until nothing can move: letters go out,
responses reach their callers, deadlines are kept, streams pass events on, and a closing connection
is taken down.
-/

set_option autoImplicit false

namespace ServerManagement

/-- The line logged when a connection has been taken down. -/
def connectionClosed : LogLine := ⟨.info, "连接已关闭"⟩

/-- The line logged for a task that did not end in time. -/
def taskAborted (milliseconds : Nat) : LogLine :=
  ⟨.error, "后台任务未在 " ++ Failure.count milliseconds ++ "ms 内退出，已中止"⟩

/-- The failure of closing a connection one of whose tasks has crashed. -/
def taskCrashed : Failure := .transport "后台任务异常退出"

def Writer.isDone : Writer → Bool
  | .ended | .crashed | .aborted => true
  | .idle | .blocked _ _ | .closing _ _ => false

namespace Session

/-! ## The way out -/

/-- Pass on what was seen of the way out. -/
def note (session : Session) : Effect → Session
  | .arrived arrival => session.record (.arrived arrival)
  | .logged line => session.record (.logged line)
  | .admitted _ => session
  | .refused number =>
    match session.call? number with
    | some call => session.finish call (.error .queueClosed)
    | none => session

/-- Pass on what was seen of the way out, in order. -/
def noteAll (session : Session) (effects : List Effect) : Session := effects.foldl note session

def writeTerms (session : Session) : WriteTerms :=
  ⟨session.now + session.ioTimeout, session.loggerPanics⟩

def settleOutbound (session : Session) : Session :=
  let (effects, outbound) := session.outbound.settle session.writeTerms
  { session with outbound }.noteAll effects

/-! ## The reader -/

/-- The reader stops, and no notification will come. -/
def stopReader (session : Session) : Session :=
  { session with reader := .stopped, board := session.board.close }

/-- The reader notices that the connection is to be closed. -/
def settleReader (session : Session) : Session :=
  if session.outbound.isStopping ∧ session.reader = .running then session.stopReader else session

/-! ## Calls -/

/-- Give a call its response. While its letter waits for room, the response waits too. -/
def collect (session : Session) (call : Call) : Session :=
  if session.outbound.isWaiting call.number then session
  else
    match session.correlator.take call.ticket with
    | (.empty, _) => session
    | (.value response, correlator) => { session with correlator }.finish call (.ok response)
    | (.closed, _) => session.finish call (.error .replyLost)

def expire (session : Session) (call : Call) : Session :=
  if call.deadline ≤ session.now then
    session.finish call (.error (.timeout call.method call.limit))
  else session

/-- Give calls their responses, then end those whose time is up. -/
def settleCalls (session : Session) : Session :=
  let session := session.calls.foldl collect session
  session.calls.foldl expire session

/-! ## Closing -/

def cutWriter (session : Session) : Session :=
  if session.outbound.writer.isDone then session
  else
    let (effects, outbound) := session.outbound.halt .aborted
    { session.record (.logged (taskAborted session.ioTimeout)) with outbound }.noteAll effects

def cutReader (session : Session) : Session :=
  if session.reader = .running then
    { session.record (.logged (taskAborted session.ioTimeout)) with reader := .aborted }
  else session

def isDown (session : Session) : Bool :=
  session.outbound.writer.isDone && session.reader != .running

/-- The result of closing a connection that is down. -/
def closeResult (session : Session) : Except Failure Unit :=
  if session.outbound.writer = .crashed ∨ session.reader = .crashed then .error taskCrashed
  else .ok ()

/-- The one who waits for the connection to be down goes on. -/
def dischargeCloser (session : Session) (closer : Closer) : Session :=
  { (session.record (.logged connectionClosed)).record
      (.closed closer.number session.closeResult) with closer := none }

/-- The one who waits for the connection to be down is stopped by the logger, to which it reports a
task that has not ended in time. No task is cut off. -/
def loseCloser (session : Session) (closer : Closer) : Session :=
  { (session.record (.logged (taskAborted session.ioTimeout))).record
      (.closerLost closer.number) with closer := none }

/-- Serve the one who waits for the connection to be down. At the deadline tasks that have not ended
are cut off, unless the logger panics at the report of the first. -/
def settleCloser (session : Session) : Session :=
  match session.closer with
  | none => session
  | some closer =>
    if session.isDown then session.dischargeCloser closer
    else if closer.deadline ≤ session.now then
      if session.loggerPanics then session.loseCloser closer
      else session.cutWriter.cutReader.dischargeCloser closer
    else session

/-- A closing frame that has been blocked for too long is given up. -/
def settleClosing (session : Session) : Session :=
  match session.outbound.writer with
  | .closing _ deadline =>
    if deadline ≤ session.now then
      { session with outbound := { session.outbound with writer := .ended } }
    else session
  | _ => session

/-! ## Streams -/

def settleStreams (session : Session) : Session :=
  let (board, streams) := EventStream.settle session.cancelled session.board session.streams
  { session with board, streams }

/-- Let everything go on until nothing can move. The end of a closing frame that is given up may be
all that the closer still waits for. -/
def settle (session : Session) : Session :=
  session.settleOutbound.settleReader.settleCalls.settleCloser.settleClosing.settleCloser
    |>.settleStreams

end Session

end ServerManagement
