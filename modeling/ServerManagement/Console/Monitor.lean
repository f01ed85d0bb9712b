import ServerManagement.Client.Operations
import ServerManagement.Console.Startup
import ServerManagement.Session.Step

/-!
# Watching a server

The console asks a server for its state, tells it, and then tells who comes and goes until the
connection ends. Everything it does is a function of what comes in.
-/

set_option autoImplicit false

namespace ServerManagement.Console

inductive Stage where
  | asking (call : Nat)
  /-- Reading the streams of those who come and of those who go. -/
  | watching (joined left : Nat)
  | finished (fault : Option Fault)

structure Monitor where
  session : Session
  stage : Stage
  log : List String

def startLine : String := "mcsmp-cli 启动"

def endLine : String := "mcsmp-cli 退出"

def stateLine (state : ServerState) : String :=
  "服务器 " ++ state.version.name ++ " (协议 " ++
    String.ofList (Decimal.signedDigits state.version.protocol.toInt) ++ "), 已启动: " ++
    (if state.started then "true" else "false") ++ ", 在线玩家: " ++
    Failure.count state.players.length

def joinedLine (player : Player) : String := "玩家加入: " ++ player.name

def leftLine (player : Player) : String := "玩家离开: " ++ player.name

/-- The bytes that the line to the server holds. -/
def lineCapacity : Nat := 1048576

/-- The token that ends the streams of a console. -/
def watchToken : Token := "watch"

namespace Monitor

def act (monitor : Monitor) (next : Session.Step) : Session.Answer × Monitor :=
  let (answer, session) := monitor.session.step next
  (answer, { monitor with session })

def tell (monitor : Monitor) (line : String) : Monitor :=
  { monitor with log := monitor.log ++ [line] }

def fail (monitor : Monitor) (failure : Failure) : Monitor :=
  { monitor with stage := .finished (some (.failed failure)) }

/-- Ask for the server's state over a fresh connection. -/
def start (settings : Settings) : Monitor :=
  let session := Session.create settings lineCapacity false
  let monitor : Monitor := ⟨session, .asking session.callCount, [startLine]⟩
  (monitor.act (.call Client.statusPath.render .none .standard)).2

/-- Open the streams of those who come and go. -/
def watch (monitor : Monitor) : Monitor :=
  match monitor.act (.openStream .playerJoined watchToken) with
  | (.stream (.ok joined), monitor) =>
    match monitor.act (.openStream .playerLeft watchToken) with
    | (.stream (.ok left), monitor) => { monitor with stage := .watching joined left }
    | (.stream (.error failure), monitor) => monitor.fail failure
    | (_, monitor) => monitor
  | (.stream (.error failure), monitor) => monitor.fail failure
  | (_, monitor) => monitor

def settleAsking (monitor : Monitor) (call : Nat) : Monitor :=
  match monitor.session.history.findSome? (Occurrence.outcome? call) with
  | none => monitor
  | some outcome =>
    match decodeOutcome ServerState.record.decoder outcome with
    | .error failure => monitor.fail failure
    | .ok state => (monitor.tell (stateLine state)).watch

def finish (monitor : Monitor) : Monitor :=
  let (_, monitor) := monitor.act (.cancel watchToken)
  let (_, monitor) := monitor.act .close
  { monitor.tell endLine with stage := .finished none }

/-- Read one event of a stream and tell it. The answer says whether the stream may have more. -/
def readOne (monitor : Monitor) (stream : Nat) (line : Player → String) :
    Receipt Unit × Monitor :=
  match monitor.act (.readStream stream) with
  | (.event (.value (.player player)), monitor) => (.value (), monitor.tell (line player))
  | (.event .empty, monitor) => (.empty, monitor)
  | (_, monitor) => (.closed, monitor)

/-- Tell what the streams hold, at most so many events, and stop when one of them has ended. -/
def drain : Nat → Nat → Nat → Monitor → Monitor
  | 0, _, _, monitor => monitor
  | events + 1, joined, left, monitor =>
    match monitor.readOne joined joinedLine with
    | (.value _, monitor) => drain events joined left monitor
    | (.closed, monitor) => monitor.finish
    | (.empty, monitor) =>
      match monitor.readOne left leftLine with
      | (.value _, monitor) => drain events joined left monitor
      | (.closed, monitor) => monitor.finish
      | (.empty, monitor) => monitor

def streamRoom (monitor : Monitor) : Nat := 2 * (monitor.session.board.capacity + 2) + 1

def settle (monitor : Monitor) : Monitor :=
  match monitor.stage with
  | .asking call => monitor.settleAsking call
  | .watching joined left => drain monitor.streamRoom joined left monitor
  | .finished _ => monitor

def receive (monitor : Monitor) (incoming : Incoming) : Monitor :=
  (monitor.act (.receive incoming)).2.settle

def advance (monitor : Monitor) (milliseconds : Nat) : Monitor :=
  (monitor.act (.advance milliseconds)).2.settle

end Monitor

structure Report where
  exitCode : Nat
  log : List String
  fault : Option Fault

def Report.ofFault (log : List String) (fault : Fault) : Report := ⟨1, log, some fault⟩

def Monitor.report? (monitor : Monitor) : Option Report :=
  match monitor.stage with
  | .finished none => some ⟨0, monitor.log, none⟩
  | .finished (some fault) => some (.ofFault monitor.log fault)
  | .asking _ | .watching _ _ => none

/-- Start the console: the connection that it watches, or the report of why there is none. -/
def launch (environment : Environment) (dialling : Dialling) : Except Report Monitor :=
  match Startup.ofEnvironment environment with
  | .error fault => .error (.ofFault [startLine] fault)
  | .ok startup =>
    match startup.options.connect startup.host startup.port startup.token dialling with
    | .error failure => .error (.ofFault [startLine] (.failed failure))
    | .ok _ =>
      .ok (.start (startup.options.settings.withCallTimeout startup.options.callTimeout))

end ServerManagement.Console
