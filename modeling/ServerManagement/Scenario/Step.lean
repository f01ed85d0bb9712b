import ServerManagement.Scenario.Basic

/-!
# Steps of a scenario

The steps that a scenario is made of, with what each one answers and what can be seen of it.
-/

set_option autoImplicit false

namespace ServerManagement

namespace Scenario

/-- A step. Names are those of tasks and receiving ends. -/
inductive Step (ρ : Type) where
  | start (name : String) (limit : Nat) (exchange : Exchange ρ limit) (terms : CallTerms)
  | abort (name : String)
  | cancel (token : Token)
  | setCallTimeout (milliseconds : Nat)
  | callTimeout
  | isClosed
  | advance (milliseconds : Nat)
  | script (method : String) (replies : List Reply)
  | receive (incoming : Incoming)
  | pause
  | resume
  | vanish
  /-- Subscribe; a strict subscriber relies on being the first. -/
  | subscribe (topic name : String) (strict : Bool)
  | unsubscribe (topic : String)
  | isSubscribed (topic : String)
  | board
  | openStream (kind : EventKind) (name : String) (token : Token)
  | read (name : String)
  | drop (name : String)
  /-- Close the connection and let the time pass until it is down. -/
  | close
  | closeAs (name : String)
  | dropClient

inductive Answer where
  | done
  | noClient
  | nameTaken
  | unknownName
  | flag (flag : Bool)
  | number (number : Nat)
  | board (topics : Nat) (isClosed : Bool)
  | subscribed
  | streaming
  | failed (failure : Failure)
  /-- A strict subscriber found the topic taken. -/
  | subscribedTwice (topic : String)
  | notification (receipt : Receipt Notification)
  | event (receipt : Receipt ServerEvent)
  | closed (result : Except Failure Unit) (elapsed : Nat)

structure Observation (ρ : Type) where
  answer : Answer
  arrivals : List Arrival
  endings : List (String × Ending ρ)
  log : List LogLine
  /-- The number of pending calls, as long as there is a client to ask. -/
  pending : Option Nat

variable {ρ : Type}

def withClient (scenario : Scenario ρ) (act : Answer × Scenario ρ) : Answer × Scenario ρ :=
  if scenario.hasClient then act else (.noClient, scenario)

/-- Do something under a name that no task has. -/
def withName (scenario : Scenario ρ) (name : String) (act : Answer × Scenario ρ) :
    Answer × Scenario ρ :=
  scenario.withClient (if scenario.isRunning name then (.nameTaken, scenario) else act)

def abandon (scenario : Scenario ρ) : Receiver → Scenario ρ
  | .mailbox number => scenario.perform (.abandonMailbox number)
  | .stream number => scenario.perform (.abandonStream number)

/-- Hold a receiving end under a name. One that was held under it goes. -/
def hold (scenario : Scenario ρ) (name : String) (receiver : Receiver) : Scenario ρ :=
  let older := scenario.receivers.find? name
  let scenario := { scenario with receivers := scenario.receivers.insert name receiver }
  match older with
  | some older => scenario.abandon older
  | none => scenario

def refusal (strict : Bool) : Failure → Answer
  | .topicTaken topic => if strict then .subscribedTwice topic else .failed (.topicTaken topic)
  | failure => .failed failure

def abort (scenario : Scenario ρ) (name : String) : Answer × Scenario ρ :=
  match scenario.tasks.find? name, scenario.closers.find? name with
  | some task, _ =>
    (.flag true, ({ scenario with tasks := scenario.tasks.erase name }.perform
      (.abandonCall task.call)).conclude name .aborted)
  | none, some number =>
    (.flag true, ({ scenario with closers := scenario.closers.erase name }.perform
      (.abandonClose number)).conclude name .aborted)
  | none, none => (.flag false, scenario)

def subscribe (scenario : Scenario ρ) (topic name : String) (strict : Bool) :
    Answer × Scenario ρ :=
  match scenario.act (.subscribe topic) with
  | (.mailbox (.ok number), scenario) => (.subscribed, scenario.hold name (.mailbox number))
  | (.mailbox (.error failure), scenario) => (refusal strict failure, scenario)
  | (_, scenario) => (.done, scenario)

def openStream (scenario : Scenario ρ) (kind : EventKind) (name : String) (token : Token) :
    Answer × Scenario ρ :=
  match scenario.act (.openStream kind token) with
  | (.stream (.ok number), scenario) => (.streaming, scenario.hold name (.stream number))
  | (.stream (.error failure), scenario) => (.failed failure, scenario)
  | (_, scenario) => (.done, scenario)

def read (scenario : Scenario ρ) (name : String) : Answer × Scenario ρ :=
  match scenario.receivers.find? name with
  | none => (.unknownName, scenario)
  | some (.mailbox number) =>
    match scenario.act (.readMailbox number) with
    | (.notification receipt, scenario) => (.notification receipt, scenario)
    | (_, scenario) => (.done, scenario)
  | some (.stream number) =>
    match scenario.act (.readStream number) with
    | (.event receipt, scenario) => (.event receipt, scenario)
    | (_, scenario) => (.done, scenario)

/-- Close the connection. Until it is down the time passes; nothing else can end the wait. Nothing is
told to a closer that the logger stops. -/
def close (scenario : Scenario ρ) : Answer × Scenario ρ :=
  let start := scenario.session.history.length
  let number := scenario.session.closerCount
  let limit := scenario.session.ioTimeout
  let scenario := (scenario.perform .close).settle
  match (scenario.session.history.drop start).findSome? (Occurrence.closing? number) with
  | some result => (.closed result 0, scenario)
  | none =>
    let scenario := scenario.perform (.advance limit)
    match (scenario.session.history.drop start).findSome? (Occurrence.closing? number) with
    | some result => (.closed result limit, scenario)
    | none => (.done, scenario)

def respond (scenario : Scenario ρ) : Step ρ → Answer × Scenario ρ
  | .start name _ exchange terms =>
    scenario.withName name (.done, scenario.proceed name terms exchange)
  | .abort name => scenario.abort name
  | .cancel token => (.done, scenario.perform (.cancel token))
  | .setCallTimeout milliseconds =>
    scenario.withClient (.number milliseconds, scenario.perform (.setCallTimeout milliseconds))
  | .callTimeout => scenario.withClient (.number scenario.session.callTimeout, scenario)
  | .isClosed => scenario.withClient (.flag scenario.session.isClosed, scenario)
  | .advance milliseconds => (.done, scenario.perform (.advance milliseconds))
  | .script method replies =>
    let queue := (scenario.scripts.find? method).getD [] ++ replies
    (.number queue.length, { scenario with scripts := scenario.scripts.insert method queue })
  | .receive incoming => (.done, scenario.perform (.receive incoming))
  | .pause => (.done, scenario.perform .pause)
  | .resume => (.done, scenario.perform .resume)
  | .vanish => (.done, scenario.perform .vanish)
  | .subscribe topic name strict => scenario.withClient (scenario.subscribe topic name strict)
  | .unsubscribe topic => scenario.withClient (.done, scenario.perform (.unsubscribe topic))
  | .isSubscribed topic =>
    scenario.withClient (.flag (scenario.session.board.isSubscribed topic), scenario)
  | .board =>
    (.board scenario.session.board.topicCount scenario.session.board.isClosed, scenario)
  | .openStream kind name token => scenario.withClient (scenario.openStream kind name token)
  | .read name => scenario.read name
  | .drop name =>
    match scenario.receivers.find? name with
    | none => (.flag false, scenario)
    | some receiver =>
      (.flag true, { scenario with receivers := scenario.receivers.erase name }.abandon receiver)
  | .close => scenario.withClient scenario.close
  | .closeAs name =>
    scenario.withName name
      (.done, { scenario with
        closers := scenario.closers.insert name scenario.session.closerCount }.perform .close)
  | .dropClient => (.flag scenario.hasClient, { scenario with hasClient := false })

def step (scenario : Scenario ρ) (next : Step ρ) : Observation ρ × Scenario ρ :=
  let start := scenario.session.history.length
  let (answer, scenario) := { scenario with endings := [] }.respond next
  let scenario := scenario.settle.letGo
  let recent := scenario.session.history.drop start
  ({ answer
     arrivals := recent.filterMap Occurrence.arrival?
     endings := scenario.endings
     log := recent.filterMap Occurrence.line?
     pending := if scenario.hasClient then some scenario.session.pending else none },
    scenario)

/-- Steps one after the other, with what can be seen of each. -/
def run (scenario : Scenario ρ) : List (Step ρ) → List (Observation ρ)
  | [] => []
  | next :: steps =>
    let (observation, scenario) := scenario.step next
    observation :: scenario.run steps

end Scenario

end ServerManagement
