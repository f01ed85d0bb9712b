import ServerManagement.Notice.Board

/-!
# Runs of the notice board

Sequences of operations on one board, whose mailboxes are held under names.
-/

set_option autoImplicit false

namespace ServerManagement

/-- A board and the mailboxes that are held, by name. -/
structure NamedBoard where
  board : Board
  holders : Directory String Nat

namespace NamedBoard

inductive Step where
  /-- Subscribe; a strict subscriber relies on being the first. -/
  | subscribe (topic name : String) (strict : Bool)
  | unsubscribe (topic : String)
  | post (notification : Notification)
  | read (name : String)
  | drop (name : String)
  | close
  | isSubscribed (topic : String)

inductive Answer where
  | done
  | subscribed
  | failed (failure : Failure)
  /-- A strict subscriber found the topic taken. -/
  | subscribedTwice (topic : String)
  | posted (posting : Posting)
  | receipt (receipt : Receipt Notification)
  | flag (flag : Bool)
  | unknownName
deriving DecidableEq

def create (capacity : Nat) : NamedBoard := ⟨.create capacity, .empty⟩

/-- Hold a mailbox under a name. A mailbox that was held under it is given up. -/
def hold (state : NamedBoard) (name : String) (number : Nat) : NamedBoard where
  board :=
    match state.holders.find? name with
    | some older => state.board.abandon older
    | none => state.board
  holders := state.holders.insert name number

def refusal (strict : Bool) : Failure → Answer
  | .topicTaken topic => if strict then .subscribedTwice topic else .failed (.topicTaken topic)
  | failure => .failed failure

def step (state : NamedBoard) : Step → Answer × NamedBoard
  | .subscribe topic name strict =>
    match state.board.subscribe topic with
    | (.ok number, board) => (.subscribed, { state with board }.hold name number)
    | (.error failure, _) => (refusal strict failure, state)
  | .unsubscribe topic => (.done, { state with board := state.board.unsubscribe topic })
  | .post notification =>
    let (posting, board) := state.board.post notification
    (.posted posting, { state with board })
  | .read name =>
    match state.holders.find? name with
    | none => (.unknownName, state)
    | some number =>
      let (receipt, board) := state.board.read number
      (.receipt receipt, { state with board })
  | .drop name =>
    match state.holders.find? name with
    | none => (.flag false, state)
    | some number => (.flag true, ⟨state.board.abandon number, state.holders.erase name⟩)
  | .close => (.done, { state with board := state.board.close })
  | .isSubscribed topic => (.flag (state.board.isSubscribed topic), state)

end NamedBoard

end ServerManagement
