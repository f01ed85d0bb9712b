import ServerManagement.Directory
import ServerManagement.Envelope.Basic
import ServerManagement.Receipt

/-!
# The correlator

Hands out identifiers, and leads each response to the one who asked. A registration enters an
identifier in the table and gives its holder a ticket for a slot. The entry goes when a response
arrives or when the registration is withdrawn, so a slot is filled at most once.
-/

set_option autoImplicit false

namespace ServerManagement

/-- What has become of a registration, as the holder of its ticket sees it. -/
inductive Slot where
  /-- An entry of the table leads here and nothing has come yet. -/
  | awaiting
  | answered (response : Response)
  /-- The response was taken, or the entry went without one. -/
  | closed
  | abandoned
deriving DecidableEq

/-- The entry that led to the slot is gone. -/
def Slot.unlisted : Slot → Slot
  | .awaiting => .closed
  | slot => slot

/-- The table of entries and the slots they lead to. Tickets count registrations from zero. -/
structure Correlator where
  lastId : UInt64
  entries : Directory UInt64 Nat
  slots : List Slot
deriving DecidableEq

inductive Registration where
  | fresh (ticket : Nat)
  | duplicate
deriving DecidableEq, Repr

namespace Correlator

/-- Nothing is registered and no identifier has been handed out. -/
def empty : Correlator := ⟨0, .empty, []⟩

def nextId (correlator : Correlator) : UInt64 × Correlator :=
  (correlator.lastId + 1, { correlator with lastId := correlator.lastId + 1 })

def size (correlator : Correlator) : Nat := correlator.entries.size

def isEmpty (correlator : Correlator) : Bool := correlator.size == 0

/-- The slot of a ticket; one that was never handed out is closed. -/
def slot (correlator : Correlator) (ticket : Nat) : Slot := correlator.slots.getD ticket .closed

/-- Enter an identifier. To enter one that has an entry is a mistake of the caller: the older
registration is closed, and the new entry leads to a slot that nobody holds. -/
def register (correlator : Correlator) (id : UInt64) : Registration × Correlator :=
  let ticket := correlator.slots.length
  let entries := correlator.entries.insert id ticket
  match correlator.entries.find? id with
  | none =>
    (.fresh ticket,
      { correlator with
        entries
        slots := correlator.slots ++ [.awaiting] })
  | some older =>
    (.duplicate,
      { correlator with
        entries
        slots := correlator.slots.modify older Slot.unlisted ++ [.abandoned] })

/-- The words for a second registration of an identifier. -/
def duplicateMessage (id : UInt64) : String :=
  "request id " ++ String.ofList (Decimal.digits id.toNat) ++ " registered twice"

/-- Lead a response to its slot. The answer says whether someone holds the ticket. -/
def resolve (correlator : Correlator) (response : Response) : Bool × Correlator :=
  match response.id with
  | none => (false, correlator)
  | some id =>
    match correlator.entries.find? id with
    | none => (false, correlator)
    | some ticket =>
      let rest := { correlator with entries := correlator.entries.erase id }
      match correlator.slot ticket with
      | .awaiting => (true, { rest with slots := rest.slots.set ticket (.answered response) })
      | _ => (false, rest)

/-- Withdraw a registration. The answer says whether there was an entry. -/
def remove (correlator : Correlator) (id : UInt64) : Bool × Correlator :=
  match correlator.entries.find? id with
  | none => (false, correlator)
  | some ticket =>
    (true,
      { correlator with
        entries := correlator.entries.erase id
        slots := correlator.slots.modify ticket Slot.unlisted })

def take (correlator : Correlator) (ticket : Nat) : Receipt Response × Correlator :=
  match correlator.slot ticket with
  | .awaiting => (.empty, correlator)
  | .answered response =>
    (.value response, { correlator with slots := correlator.slots.set ticket .closed })
  | .closed => (.closed, correlator)
  | .abandoned => (.closed, correlator)

def abandon (correlator : Correlator) (ticket : Nat) : Correlator :=
  { correlator with slots := correlator.slots.set ticket .abandoned }

end Correlator

end ServerManagement
