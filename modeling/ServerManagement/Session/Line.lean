import ServerManagement.Envelope.Basic

/-!
# The line

The way from the client to its peer. It holds a limited number of bytes. A peer that reads takes
everything at once; what is written to one that pauses stays under way until it reads again.
-/

set_option autoImplicit false

namespace ServerManagement

/-- A request on its way out, with the number of the call that it belongs to. -/
structure Letter where
  call : Nat
  request : Request
deriving DecidableEq

def Letter.text (letter : Letter) : String := letter.request.render

inductive Arrival where
  | letter (letter : Letter)
  | close
deriving DecidableEq

inductive Peer where
  | reading
  | paused
  | gone
deriving DecidableEq, Repr

/-- The line with the bytes that it holds and the complete frames among them. -/
structure Line where
  capacity : Nat
  peer : Peer
  /-- The peer has closed its side, and only a closing frame may follow from this one. -/
  isClosing : Bool
  heldBytes : Nat
  underWay : List Arrival
deriving DecidableEq

/-- What became of bytes that were written. -/
inductive Uptake where
  | taken (arrived : List Arrival)
  /-- The line is full; so many bytes could not be written. -/
  | blocked (left : Nat)
  | refused
deriving DecidableEq

/-- The bytes of a frame with its header: two to ten bytes for its length, four for its mask. -/
def frameSize (text : String) : Nat :=
  let payload := text.utf8ByteSize
  payload + 4 + (if payload < 126 then 2 else if payload < 65536 then 4 else 10)

def closeSize : Nat := 6

namespace Line

/-- A line to a peer that reads. -/
def create (capacity : Nat) : Line := ⟨capacity, .reading, false, 0, []⟩

def write (line : Line) (bytes : Nat) (arrival : Arrival) : Uptake × Line :=
  match line.peer with
  | .reading => (.taken [arrival], line)
  | .paused =>
    let room := line.capacity - line.heldBytes
    if bytes ≤ room then
      (.taken [],
        { line with
          heldBytes := line.heldBytes + bytes
          underWay := line.underWay ++ [arrival] })
    else (.blocked (bytes - room), { line with heldBytes := line.capacity })
  | .gone => (.refused, line)

def pause (line : Line) : Line :=
  if line.peer = .reading then { line with peer := .paused } else line

/-- The peer reads again, and what was under way arrives. -/
def resume (line : Line) : List Arrival × Line :=
  if line.peer = .paused then
    (line.underWay, { line with peer := .reading, heldBytes := 0, underWay := [] })
  else ([], line)

/-- The peer vanishes, with everything that was under way. -/
def vanish (line : Line) : Line := { line with peer := .gone, heldBytes := 0, underWay := [] }

end Line

end ServerManagement
