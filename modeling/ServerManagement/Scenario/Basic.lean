import ServerManagement.Client.Exchange
import ServerManagement.Scenario.Reply
import ServerManagement.Session.Step

/-!
# Scenarios

A session in use: a client runs tasks that go by name and reads subscriptions that go by name, while
the peer answers requests from a script. A task is an exchange whose current call has not ended.
-/

set_option autoImplicit false

namespace ServerManagement

open ServerManagement.Json

/-- An exchange that waits for the outcome of a call. -/
structure Task (ρ : Type) where
  call : Nat
  terms : CallTerms
  rest : Nat
  next : Except Failure Response → Exchange ρ rest

inductive Receiver where
  | mailbox (number : Nat)
  | stream (number : Nat)

inductive Ending (ρ : Type) where
  | result (result : ρ)
  | aborted
  /-- The connection that it closed is down. -/
  | closed (result : Except Failure Unit)

structure Scenario (ρ : Type) where
  session : Session
  tasks : Directory String (Task ρ)
  closers : Directory String Nat
  receivers : Directory String Receiver
  scripts : Directory String (List Reply)
  hasClient : Bool
  isReleased : Bool
  /-- How much of the session's history has been dealt with. -/
  seen : Nat
  endings : List (String × Ending ρ)

namespace Scenario

variable {ρ : Type}

def create (session : Session) : Scenario ρ :=
  ⟨session, .empty, .empty, .empty, .empty, true, false, 0, []⟩

def isRunning (scenario : Scenario ρ) (name : String) : Bool :=
  scenario.tasks.contains name || scenario.closers.contains name

def act (scenario : Scenario ρ) (next : Session.Step) : Session.Answer × Scenario ρ :=
  let (answer, session) := scenario.session.step next
  (answer, { scenario with session })

/-- Do a step of the session whose answer tells nothing. -/
def perform (scenario : Scenario ρ) (next : Session.Step) : Scenario ρ := (scenario.act next).2

def conclude (scenario : Scenario ρ) (name : String) (ending : Ending ρ) : Scenario ρ :=
  { scenario with endings := scenario.endings ++ [(name, ending)] }

/-- Go on with an exchange as the task of a name, up to its next call. -/
def proceed (scenario : Scenario ρ) (name : String) (terms : CallTerms) {limit : Nat} :
    Exchange ρ limit → Scenario ρ
  | .done result => scenario.conclude name (.result result)
  | .call method params next =>
    let number := scenario.session.callCount
    let scenario := scenario.perform (.call method params terms)
    { scenario with tasks := scenario.tasks.insert name ⟨number, terms, _, next⟩ }

/-- The peer answers a request if its script has an answer left. -/
def answer (scenario : Scenario ρ) (request : Request) : Scenario ρ :=
  match scenario.scripts.find? request.method with
  | some (reply :: replies) =>
    { scenario with scripts := scenario.scripts.insert request.method replies }.perform
      (.receive (.data (bytesOf (reply.frame request.id))))
  | some [] | none => scenario

def notice (scenario : Scenario ρ) : Occurrence → Scenario ρ
  | .arrived (.letter letter) =>
    match Request.record.decoder.parse (bytesOf letter.text) with
    | .ok request => scenario.answer request
    | .error _ => scenario
  | .ended number result =>
    match scenario.tasks.entries.find? fun entry => entry.2.call == number with
    | some (name, task) =>
      { scenario with tasks := scenario.tasks.erase name }.proceed name task.terms
        (task.next result)
    | none => scenario
  | .closed number result =>
    match scenario.closers.entries.find? fun entry => entry.2 == number with
    | some (name, _) =>
      { scenario with closers := scenario.closers.erase name }.conclude name (.closed result)
    | none => scenario
  | .closerLost number =>
    match scenario.closers.entries.find? fun entry => entry.2 == number with
    | some (name, _) => { scenario with closers := scenario.closers.erase name }
    | none => scenario
  | .arrived .close | .logged _ | .drewTwice _ _ => scenario

/-- Deal with everything that has occurred so far. -/
def round (scenario : Scenario ρ) : Scenario ρ :=
  (scenario.session.history.drop scenario.seen).foldl notice
    { scenario with seen := scenario.session.history.length }

/-- How many answers are left in the scripts, and how many calls may still be made by tasks. -/
def work (scenario : Scenario ρ) : Nat :=
  scenario.scripts.entries.foldr (fun entry rest => entry.2.length + rest) 0 +
    scenario.tasks.entries.foldr (fun entry rest => entry.2.rest + rest) 0

/-- Deal with what has occurred until nothing new occurs: something new only occurs when an answer
or a call has been used. -/
def settle (scenario : Scenario ρ) : Scenario ρ :=
  let next := scenario.round
  if next.work < scenario.work then settle next else next
termination_by scenario.work

/-- Let the connection go once nobody needs it. -/
def letGo (scenario : Scenario ρ) : Scenario ρ :=
  if !scenario.hasClient && !scenario.isReleased && scenario.tasks.entries.isEmpty &&
      scenario.closers.entries.isEmpty then
    { scenario.perform .release with isReleased := true }
  else scenario

end Scenario

end ServerManagement
