import ServerManagement.Correlation.Basic

/-!
# Runs of the correlator

Sequences of operations on one correlator, whose tickets are held under names.
-/

set_option autoImplicit false

namespace ServerManagement

open ServerManagement.Json

/-- A correlator and the tickets that are held, by name. -/
structure NamedCorrelator where
  correlator : Correlator
  tickets : Directory String Nat

namespace NamedCorrelator

inductive Step where
  | nextId
  | register (id : UInt64) (name : String)
  | resolve (response : Response)
  | remove (id : UInt64)
  | take (name : String)
  | drop (name : String)

inductive Answer where
  | id (id : UInt64)
  | registered
  | registeredTwice (id : UInt64)
  | flag (flag : Bool)
  | receipt (receipt : Receipt Response)
  | unknownName
deriving DecidableEq

/-- Nothing is registered and no ticket is held. -/
def empty : NamedCorrelator := ⟨.empty, .empty⟩

/-- Hold a ticket under a name. A ticket that was held under it is given up. -/
def hold (state : NamedCorrelator) (name : String) (ticket : Nat) : NamedCorrelator where
  correlator :=
    match state.tickets.find? name with
    | some older => state.correlator.abandon older
    | none => state.correlator
  tickets := state.tickets.insert name ticket

def step (state : NamedCorrelator) : Step → Answer × NamedCorrelator
  | .nextId =>
    let (id, correlator) := state.correlator.nextId
    (.id id, { state with correlator })
  | .register id name =>
    match state.correlator.register id with
    | (.fresh ticket, correlator) => (.registered, { state with correlator }.hold name ticket)
    | (.duplicate, correlator) => (.registeredTwice id, { state with correlator })
  | .resolve response =>
    let (found, correlator) := state.correlator.resolve response
    (.flag found, { state with correlator })
  | .remove id =>
    let (found, correlator) := state.correlator.remove id
    (.flag found, { state with correlator })
  | .take name =>
    match state.tickets.find? name with
    | none => (.unknownName, state)
    | some ticket =>
      let (receipt, correlator) := state.correlator.take ticket
      (.receipt receipt, { state with correlator })
  | .drop name =>
    match state.tickets.find? name with
    | none => (.flag false, state)
    | some ticket =>
      (.flag true, ⟨state.correlator.abandon ticket, state.tickets.erase name⟩)

end NamedCorrelator

end ServerManagement
