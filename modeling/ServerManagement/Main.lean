import ServerManagement.Console.Monitor

/-!
# The console

Watches a server over the standard streams. The first lines written are the address of the service
and the credentials, the first line read is the status of the handshake; from then on every line is
a frame. What there is to tell goes to the standard error stream.
-/

set_option autoImplicit false

namespace ServerManagement.Console

def variableNames : List String :=
  ["MCSMP_HOST", "MCSMP_PORT", "MCSMP_TOKEN", "MCSMP_PATH", "MCSMP_TLS"]

def readEnvironment : IO Environment :=
  variableNames.foldlM (fun environment name => do
    match ← IO.getEnv name with
    | some value => return environment.insert name value
    | none => return environment) Directory.empty

def withoutEnd (line : String) : String :=
  String.ofList (line.toList.filter fun c => c != '\n' && c != '\r')

def putLines (stream : IO.FS.Stream) (lines : List String) : IO Unit := do
  for line in lines do stream.putStrLn line
  stream.flush

/-- The text of what goes to the peer; a closing has none. -/
def frameText? : Arrival → Option String
  | .letter letter => some letter.text
  | .close => none

def conclude (report : Report) : IO UInt32 := do
  let error ← IO.getStderr
  match report.fault with
  | none => pure ()
  | some fault =>
    putLines error (("Error: " ++ fault.message) ::
      match fault.cause? with
      | some cause => ["", "Caused by:", "    " ++ cause]
      | none => [])
  return UInt32.ofNat report.exitCode

/-- Watch until the end; so much of the history and of the log has been written. -/
partial def watch (monitor : Monitor) (written told since : Nat) : IO UInt32 := do
  putLines (← IO.getStdout)
    (((monitor.session.history.drop written).filterMap Occurrence.arrival?).filterMap frameText?)
  putLines (← IO.getStderr) (monitor.log.drop told)
  match monitor.report? with
  | some report => conclude report
  | none =>
    let written := monitor.session.history.length
    let told := monitor.log.length
    let line ← (← IO.getStdin).getLine
    if line.isEmpty then IO.sleep 10
    let now ← IO.monoMsNow
    let monitor := monitor.advance (now - since)
    let frame := if line.isEmpty then Frame.close else .text (withoutEnd line)
    watch (monitor.receive frame.incoming) written told now

/-- Start the console with the environment of the process. -/
def runConsole : IO UInt32 := do
  let environment ← readEnvironment
  let lines := greeting environment
  let dialling ←
    if lines.isEmpty then pure Dialling.unreachable
    else do
      putLines (← IO.getStdout) lines
      let status ← (← IO.getStdin).getLine
      pure (Dialling.ofStatus (withoutEnd status))
  match launch environment dialling with
  | .error report =>
    putLines (← IO.getStderr) report.log
    conclude report
  | .ok monitor => watch monitor 0 0 (← IO.monoMsNow)

end ServerManagement.Console

def main : IO UInt32 := ServerManagement.Console.runConsole
