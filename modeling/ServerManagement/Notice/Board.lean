import ServerManagement.Directory
import ServerManagement.Envelope.Failure
import ServerManagement.Receipt

/-!
# The notice board

Hands notifications to the subscribers of their topics. Every subscription has a mailbox of bounded
size; a notification that finds the mailbox full is lost, so that posting never waits. When a topic
is given up, its mailbox stays readable until it is empty.
-/

set_option autoImplicit false

namespace ServerManagement

/-- The notifications that a subscriber has not read yet. -/
structure Mailbox where
  unread : List Notification
  /-- The subscriber has gone without cancelling the subscription. -/
  isAbandoned : Bool
deriving DecidableEq

/-- Topics, each with the number of its mailbox. Mailboxes count subscriptions from zero. -/
structure Board where
  capacity : Nat
  isClosed : Bool
  topics : Directory String Nat
  mailboxes : List Mailbox
deriving DecidableEq

inductive Posting where
  | delivered
  | noSubscriber
  | dropped
  | closed
deriving DecidableEq, Repr

def Mailbox.missing : Mailbox := ⟨[], true⟩

namespace Board

/-- A board without subscribers. Mailboxes hold at least one notification. -/
def create (capacity : Nat) : Board := ⟨max capacity 1, false, .empty, []⟩

def standardCapacity : Nat := 8

def topicCount (board : Board) : Nat := board.topics.size

def isSubscribed (board : Board) (topic : String) : Bool := board.topics.contains topic

def mailbox (board : Board) (number : Nat) : Mailbox := board.mailboxes.getD number .missing

/-- Some topic still leads to the mailbox. -/
def isLinked (board : Board) (number : Nat) : Bool :=
  board.topics.entries.any fun entry => entry.2 == number

/-- Subscribe to a topic; a topic has at most one subscriber. -/
def subscribe (board : Board) (topic : String) : Except Failure Nat × Board :=
  if board.isClosed then (.error .noticesClosed, board)
  else if board.isSubscribed topic then (.error (.topicTaken topic), board)
  else
    let number := board.mailboxes.length
    (.ok number,
      { board with
        topics := board.topics.insert topic number
        mailboxes := board.mailboxes ++ [⟨[], false⟩] })

/-- The words for a second subscription by a subscriber who relies on being the first. -/
def duplicateMessage (topic : String) : String :=
  "notification handler for '" ++ topic ++ "' already registered"

def unsubscribe (board : Board) (topic : String) : Board :=
  { board with topics := board.topics.erase topic }

/-- Hand a notification to the subscriber of its topic. A subscriber that has gone loses the
topic. -/
def post (board : Board) (notification : Notification) : Posting × Board :=
  if board.isClosed then (.closed, board)
  else
    match board.topics.find? notification.method with
    | none => (.noSubscriber, board)
    | some number =>
      let box := board.mailbox number
      if box.isAbandoned then (.noSubscriber, board.unsubscribe notification.method)
      else if board.capacity ≤ box.unread.length then (.dropped, board)
      else
        (.delivered,
          { board with
            mailboxes := board.mailboxes.set number
              { box with unread := box.unread ++ [notification] } })

def read (board : Board) (number : Nat) : Receipt Notification × Board :=
  let box := board.mailbox number
  match box.unread with
  | notification :: unread =>
    (.value notification,
      { board with mailboxes := board.mailboxes.set number { box with unread } })
  | [] => (if board.isLinked number then .empty else .closed, board)

/-- Leave only some of the unread notifications in a mailbox. -/
def keep (board : Board) (number : Nat) (unread : List Notification) : Board :=
  { board with mailboxes := board.mailboxes.modify number fun box => { box with unread } }

/-- The subscriber goes; what it has not read is lost. -/
def abandon (board : Board) (number : Nat) : Board :=
  { board with mailboxes := board.mailboxes.set number .missing }

def close (board : Board) : Board :=
  if board.isClosed then board else { board with isClosed := true, topics := .empty }

end Board

end ServerManagement
