import ServerManagement.Notice.Board
import ServerManagement.Notice.Event

/-!
# Event streams

A stream subscribes to the topic of its kind and passes the events on to its reader. It has room for
one event, and holds one more while the reader takes its time; everything else waits in the mailbox.
A stream ends when its token is cancelled, when its reader goes, or when its mailbox is empty and no
longer linked to a topic. Ending gives the topic up.
-/

set_option autoImplicit false

namespace ServerManagement

/-- Signals that stop calls and streams are known by name. -/
abbrev Token := String

structure EventStream where
  kind : EventKind
  mailbox : Nat
  token : Token
  /-- The event that the reader finds next. -/
  ready : Option ServerEvent
  /-- The event that waits for the reader to make room. -/
  held : Option ServerEvent
  isAbandoned : Bool
  isLive : Bool
deriving DecidableEq

namespace EventStream

def create (kind : EventKind) (mailbox : Nat) (token : Token) : EventStream :=
  ⟨kind, mailbox, token, none, none, false, true⟩

def offer (stream : EventStream) : EventStream :=
  match stream.ready with
  | some _ => stream
  | none => { stream with ready := stream.held, held := none }

/-- Take notifications until an event has to be held. What cannot be read is skipped. -/
def pull (stream : EventStream) : List Notification → EventStream × List Notification
  | [] => (stream, [])
  | notification :: unread =>
    if stream.held.isSome then (stream, notification :: unread)
    else
      match stream.kind.decode notification with
      | .error _ => pull stream unread
      | .ok event => pull ({ stream with held := some event }.offer) unread

/-- The stream has stopped; what its reader finds stays. -/
def finish (stream : EventStream) : EventStream := { stream with held := none, isLive := false }

/-- End a stream: give up its topic, whoever is subscribed to it, and its mailbox. -/
def retire (board : Board) (stream : EventStream) : Board × EventStream :=
  ((board.unsubscribe stream.kind.topic).abandon stream.mailbox, stream.finish)

/-- Let a stream go as far as it can. -/
def advance (cancelled : List Token) (board : Board) (stream : EventStream) :
    Board × EventStream :=
  if !stream.isLive then (board, stream)
  else if cancelled.contains stream.token || stream.isAbandoned then retire board stream
  else
    let (stream, unread) := stream.offer.pull (board.mailbox stream.mailbox).unread
    let board := board.keep stream.mailbox unread
    if stream.held.isNone && unread.isEmpty && !board.isLinked stream.mailbox then
      retire board stream
    else (board, stream)

/-- Let the streams of a list go in turn. -/
def sweep (cancelled : List Token) (board : Board) : List EventStream → Board × List EventStream
  | [] => (board, [])
  | stream :: streams =>
    let (board, stream) := stream.advance cancelled board
    let (board, streams) := sweep cancelled board streams
    (board, stream :: streams)

def liveCount (streams : List EventStream) : Nat := streams.countP (·.isLive)

/-- Let all streams go until none can; the end of one may take away another one's topic. -/
def settle (cancelled : List Token) (board : Board) (streams : List EventStream) :
    Board × List EventStream :=
  let swept := sweep cancelled board streams
  if liveCount swept.2 < liveCount streams then settle cancelled swept.1 swept.2 else swept
termination_by liveCount streams

def read (stream : EventStream) : Receipt ServerEvent × EventStream :=
  match stream.ready with
  | some event => (.value event, { stream with ready := none })
  | none => (if stream.isLive then .empty else .closed, stream)

def abandon (stream : EventStream) : EventStream :=
  { stream with ready := none, isAbandoned := true }

end EventStream

end ServerManagement
