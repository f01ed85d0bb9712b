import ServerManagement.Link.Dial

/-!
# Starting the console

What the environment of the console says about the service to watch, and how its faults are told.
-/

set_option autoImplicit false

namespace ServerManagement.Console

open ServerManagement.Decimal (Refusal)

abbrev Environment := Directory String String

/-- The service to watch, and how. -/
structure Startup where
  host : String
  port : UInt16
  token : String
  options : ClientOptions

inductive Fault where
  | badPort (text : String) (cause : Refusal)
  | noToken
  | failed (failure : Failure)

def Fault.message : Fault → String
  | .badPort text _ => "无效的端口: " ++ text
  | .noToken => "缺少环境变量 MCSMP_TOKEN"
  | .failed failure => failure.message

/-- The cause, where there is one behind the message. -/
def Fault.cause? : Fault → Option String
  | .badPort _ cause => some cause.message
  | .noToken => some "environment variable not found"
  | .failed _ => none

/-- The port that is used when none is given. -/
def standardPort : UInt16 := 25585

/-- The words that switch something on, in small letters. -/
def isAffirmative (text : String) : Bool :=
  ["1", "true", "yes"].contains (String.ofList (text.toList.map Char.toLower))

def portOf (environment : Environment) : Except Fault UInt16 :=
  match environment.find? "MCSMP_PORT" with
  | none => .ok standardPort
  | some text =>
    match Decimal.readSigned .unsigned16 text.toList with
    | .ok value => .ok (UInt16.ofNat value.toNat)
    | .error cause => .error (.badPort text cause)

/-- Read the environment. A bad port is told before a missing token. -/
def Startup.ofEnvironment (environment : Environment) : Except Fault Startup :=
  match portOf environment with
  | .error fault => .error fault
  | .ok port =>
    match environment.find? "MCSMP_TOKEN" with
    | none => .error .noToken
    | some token =>
      .ok
        { host := (environment.find? "MCSMP_HOST").getD "localhost"
          port
          token
          options := (ClientOptions.standard.withPath
            ((environment.find? "MCSMP_PATH").getD "")).withSecure
              (((environment.find? "MCSMP_TLS").map isAffirmative).getD false) }

/-- What is said to the service first: its address and who asks. Nothing is said to a service that
cannot be dialled. -/
def greeting (environment : Environment) : List String :=
  match Startup.ofEnvironment environment with
  | .error _ => []
  | .ok startup =>
    match startup.options.endpoint startup.host startup.port with
    | .error _ => []
    | .ok address =>
      if Link.isDiallable address && isHeaderText startup.token then
        [address, "Authorization: " ++ authorization startup.token]
      else []

end ServerManagement.Console
