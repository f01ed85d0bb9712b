import ServerManagement.Session.Settle

/-!
# Steps of a session

What users and the peer can do to a session, and what is left to chance. After each step the session
settles, so that what is seen between two steps is a state in which nothing can move.
-/

set_option autoImplicit false

namespace ServerManagement

open ServerManagement.Json (Bytes)

inductive Incoming where
  /-- The bytes of a text or binary frame. -/
  | data (frame : Bytes)
  /-- A frame that keeps the connection alive. -/
  | control
  | farewell
  | broken
  /-- Nothing more comes in. -/
  | ended

/-- A frame as the peer sends it. -/
inductive Frame where
  | text (content : String)
  | binary (content : Bytes)
  | ping (payload : Bytes)
  | pong (payload : Bytes)
  | raw (payload : Bytes)
  | close

def Frame.incoming : Frame → Incoming
  | .text content => .data (Json.bytesOf content)
  | .binary content => .data content
  | .ping _ | .pong _ | .raw _ => .control
  | .close => .farewell

/-- The line logged when the peer closes its side. -/
def peerClosed : LogLine := ⟨.info, "远端关闭连接"⟩

/-- The line logged when nothing more comes in. -/
def streamEnded : LogLine := ⟨.info, "连接已断开"⟩

/-- The line logged when nothing more can be read. -/
def readFailed : LogLine := ⟨.error, "读取响应失败"⟩

/-- The line logged for a frame that is no envelope. -/
def frameRejected (failure : Failure) : LogLine := ⟨.error, "解码响应失败: " ++ failure.message⟩

namespace Session

inductive Step where
  | call (method : String) (params : Params) (terms : CallTerms)
  /-- The caller goes without waiting for the result. -/
  | abandonCall (call : Nat)
  | cancel (token : Token)
  | setCallTimeout (milliseconds : Nat)
  | advance (milliseconds : Nat)
  | receive (incoming : Incoming)
  | pause
  | resume
  | vanish
  | subscribe (topic : String)
  | unsubscribe (topic : String)
  | readMailbox (mailbox : Nat)
  | abandonMailbox (mailbox : Nat)
  | openStream (kind : EventKind) (token : Token)
  | readStream (stream : Nat)
  | abandonStream (stream : Nat)
  | close
  /-- The closer goes without waiting until the connection is down. -/
  | abandonClose (closer : Nat)
  | release
  /-- Of the letters in its queue and a stop the writer goes for either, as it happens: from now on
  it takes the letters of calls before this one first. -/
  | linger (call : Nat)

inductive Answer where
  | done
  | call (number : Nat)
  | closer (number : Nat)
  | mailbox (result : Except Failure Nat)
  | stream (result : Except Failure Nat)
  | notification (receipt : Receipt Notification)
  | event (receipt : Receipt ServerEvent)

/-! ## Calls -/

/-- The time that a call gets: what its caller asks for, but at most the connection's limit. -/
def timeFor (session : Session) (terms : CallTerms) : Nat :=
  match terms.limit with
  | some limit => min limit session.callTimeout
  | none => session.callTimeout

/-- Enter a call in the table and hand its letter in. -/
def enroll (session : Session) (number : Nat) (request : Request) (terms : CallTerms) : Session :=
  match session.correlator.register request.id with
  | (.duplicate, correlator) =>
    { session with correlator }.record (.drewTwice number request.id)
  | (.fresh ticket, correlator) =>
    let limit := session.timeFor terms
    { session with
      correlator
      calls := session.calls ++
        [⟨number, request.id, request.method, ticket, limit, session.now + limit, terms.token⟩]
      outbound := session.outbound.post ⟨number, request⟩ }

/-- Start a call. It fails at once when the connection is closed, when its parameters cannot be
sent, and when its token has been cancelled; the last two use an identifier up. -/
def startCall (session : Session) (method : String) (params : Params) (terms : CallTerms) :
    Session :=
  let number := session.callCount
  let session := { session with callCount := number + 1 }
  if session.isClosed then session.record (.ended number (.error .queueClosed))
  else
    let (id, correlator) := session.correlator.nextId
    let session := { session with correlator }
    match Request.create id method params with
    | .error failure => session.record (.ended number (.error failure))
    | .ok request =>
      if terms.token.any session.isCancelled then
        session.record (.ended number (.error (.cancelled method)))
      else session.enroll number request terms

def abandonCall (session : Session) (number : Nat) : Session :=
  match session.call? number with
  | some call => session.dismiss call
  | none => session

/-- Cancel a token, and with it its calls. -/
def cancel (session : Session) (token : Token) : Session :=
  let session := { session with cancelled := token :: session.cancelled }
  session.calls.foldl (fun session call =>
    if call.token = some token then session.finish call (.error (.cancelled call.method))
    else session) session

/-! ## The peer -/

def failReading (session : Session) (line : LogLine) : Session :=
  let session := session.record (.logged line)
  if session.loggerPanics then { session with reader := .crashed } else session.stopReader

/-- Deal with something that came in. After the reader has stopped, nothing has an effect. -/
def receive (session : Session) (incoming : Incoming) : Session :=
  if session.reader ≠ .running then session
  else
    match incoming with
    | .control => session
    | .broken => session.failReading readFailed
    | .ended => (session.record (.logged streamEnded)).stopReader
    | .farewell =>
      let outbound := session.outbound
      { (session.record (.logged peerClosed)).stopReader with
        outbound := { outbound with line := { outbound.line with isClosing := true } } }
    | .data frame =>
      match decodeFrame frame with
      | .error failure => session.failReading (frameRejected failure)
      | .ok (.response response) =>
        { session with correlator := (session.correlator.resolve response).2 }
      | .ok (.notification notification) =>
        { session with board := (session.board.post notification).2 }

def withLine (session : Session) (line : Line) : Session :=
  { session with outbound := { session.outbound with line } }

def resume (session : Session) : Session :=
  let (arrived, line) := session.outbound.line.resume
  (session.withLine line).noteAll (arrived.map .arrived)

def vanish (session : Session) : Session :=
  (session.withLine session.outbound.line.vanish).receive .broken

/-! ## Streams -/

def openStream (session : Session) (kind : EventKind) (token : Token) : Answer × Session :=
  match session.board.subscribe kind.topic with
  | (.error failure, board) => (.stream (.error failure), { session with board })
  | (.ok mailbox, board) =>
    (.stream (.ok session.streams.length),
      { session with board, streams := session.streams ++ [.create kind mailbox token] })

def readStream (session : Session) (number : Nat) : Answer × Session :=
  match session.streams[number]? with
  | none => (.event .closed, session)
  | some stream =>
    let (receipt, stream) := stream.read
    (.event receipt, { session with streams := session.streams.set number stream })

/-! ## Closing -/

/-- Close the connection. Only the first who does waits until it is down. -/
def close (session : Session) : Session :=
  let number := session.closerCount
  let session := { session with closerCount := number + 1 }
  if session.isClosed then session.record (.closed number (.ok ()))
  else
    { session with
      isClosed := true
      outbound := session.outbound.stop
      closer := some ⟨number, session.now + session.ioTimeout⟩ }.settleCloser

def abandonClose (session : Session) (number : Nat) : Session :=
  match session.closer with
  | some closer => if closer.number = number then { session with closer := none } else session
  | none => session

/-! ## Runs -/

def act (session : Session) : Step → Answer × Session
  | .call method params terms =>
    (.call session.callCount, session.startCall method params terms)
  | .abandonCall number => (.done, session.abandonCall number)
  | .cancel token => (.done, session.cancel token)
  | .setCallTimeout milliseconds => (.done, { session with callTimeout := milliseconds })
  | .advance milliseconds => (.done, { session with now := session.now + milliseconds })
  | .receive incoming => (.done, session.receive incoming)
  | .pause => (.done, session.withLine session.outbound.line.pause)
  | .resume => (.done, session.resume)
  | .vanish => (.done, session.vanish)
  | .subscribe topic =>
    let (result, board) := session.board.subscribe topic
    (.mailbox result, { session with board })
  | .unsubscribe topic => (.done, { session with board := session.board.unsubscribe topic })
  | .readMailbox mailbox =>
    let (receipt, board) := session.board.read mailbox
    (.notification receipt, { session with board })
  | .abandonMailbox mailbox => (.done, { session with board := session.board.abandon mailbox })
  | .openStream kind token => session.openStream kind token
  | .readStream stream => session.readStream stream
  | .abandonStream stream =>
    (.done, { session with streams := session.streams.modify stream EventStream.abandon })
  | .close => (.closer session.closerCount, session.close)
  | .abandonClose number => (.done, session.abandonClose number)
  | .release => (.done, { session with outbound := session.outbound.stop })
  | .linger call => (.done, { session with outbound := { session.outbound with linger := call } })

/-- A step, run until nothing can move. -/
def step (session : Session) (next : Step) : Answer × Session :=
  let (answer, session) := session.act next
  (answer, session.settle)

def run (session : Session) (steps : List Step) : Session :=
  steps.foldl (fun session next => (session.step next).2) session

end Session

end ServerManagement
