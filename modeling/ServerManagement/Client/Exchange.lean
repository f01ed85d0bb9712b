import ServerManagement.Client.Method
import ServerManagement.Envelope.Payload

/-!
# Exchanges

What a client does for one operation: it makes calls, each of which may depend on the outcome of the
one before, and ends with a result. The type bounds the number of calls.
-/

set_option autoImplicit false

namespace ServerManagement

open ServerManagement.Json
open ServerManagement.Wire

/-- An exchange of at most so many calls with a result. -/
inductive Exchange (ρ : Type) : Nat → Type where
  | done {limit : Nat} (result : ρ) : Exchange ρ limit
  | call {limit : Nat} (method : String) (params : Params)
      (next : Except Failure Response → Exchange ρ limit) : Exchange ρ (limit + 1)

def Exchange.map {ρ σ : Type} (change : ρ → σ) {limit : Nat} : Exchange ρ limit → Exchange σ limit
  | .done result => .done (change result)
  | .call method params next => .call method params fun outcome => (next outcome).map change

def Params.one (value : Value) : Params := .ok (.array [value])

def decodeOutcome {α : Type} (decoder : Decoder α) (outcome : Except Failure Response) :
    Except Failure α :=
  match outcome with
  | .error failure => .error failure
  | .ok response => response.decodeResult decoder

def Exchange.single {α : Type} (method : String) (params : Params) (decoder : Decoder α) :
    Exchange (Except Failure α) 1 :=
  .call method params fun outcome => .done (decodeOutcome decoder outcome)

end ServerManagement
