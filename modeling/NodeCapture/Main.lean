import NodeCapture.CommandLine.Basic
import NodeCapture.Json.Reader
import NodeCapture.Kubectl.Basic

/-!
# The program

    Reads the command line, does what it asks for, prints the output and ends with the
    exit code. The program leaves kubectl to its caller: each call is written to the
    error output as a line of JSON, and the reply to it is read from the input as a line
    of JSON, with the members that a rule of a script has for its reply.

    What a command does follows from the replies alone. So it is done once more with
    each reply that comes in, until no call is left without one.
-/

namespace NodeCapture

/-- The variables of the environment that are read. -/
def environmentNames : List String :=
  ["KUBECONFIG", "KUBECONFIG_CONTENT", "KUBECTL_PATH", "LOG_LEVEL", "LOG_FORMAT",
    "CAPTURECTL_API_KEY", "CAPTURECTL_API_HOST", "CAPTURECTL_API_PORT", "CAPTURECTL_NAMESPACE",
    "CAPTURECTL_DEBUG_IMAGE", "CAPTURECTL_POD_PREFIX", "CAPTURECTL_CAPTURE_DIR",
    "CAPTURECTL_CAPTURE_PREFIX", "CAPTURECTL_WAIT_TIMEOUT", "CAPTURECTL_COMMAND_TIMEOUT",
    "CAPTURECTL_MAX_CONCURRENCY"]

/-- How kubectl behaves as far as there are replies, of which the first comes first. -/
def Kubectl.ofReplies (replies : List Reply) : Kubectl := fun exchanges _ =>
  replies[exchanges.length]?.getD (.transportError "no reply")

/-- The first call that has no reply yet. -/
def CommandReport.unanswered? (r : CommandReport) (replies : List Reply) : Option Call :=
  (r.exchanges.reverse[replies.length]?).map Exchange.call

/-- Reads a reply. -/
def Reply.ofLine (line : String) : Reply :=
  match Json.read line.toList with
  | .ok j => (Rule.read j).reply
  | .error _ => .transportError "no reply"

/-- The kubeconfig that a command is told, if it is at a cluster. -/
def Command.kubeconfig? : Command → Option String
  | .atCluster kubeconfig _ => kubeconfig
  | _ => none

/-- The variables of the environment that are set. -/
def readEnvironment : IO Environment :=
  environmentNames.filterMapM
    (fun name => do return (← IO.getEnv name).map (fun value => (name, value)))

/-- The time of the clock: that of a file which is made for it. -/
def readClock : IO Moment := do
  let (_, path) ← IO.FS.createTempFile
  let time := (← path.metadata).modified
  IO.FS.removeFile path
  return Moment.ofSeconds time.sec (time.nsec.toNat / 1000)

/-- The machine, with the kubeconfig that a command uses if that is there. -/
def readMachine (env : Environment) (kubeconfig : Option String) : IO Machine := do
  let home := (← IO.getEnv "HOME").getD "/root"
  let m : Machine :=
    { env := env
      files := LocalFiles.basic (LocalPath.follow [] (LocalPath.components home.toList))
      contents := [] }
  let named := nonEmpty kubeconfig <|> nonEmpty (env.get? "KUBECONFIG")
  match m.files.locate (firstOfPaths (named.getD Machine.usualKubeconfig)) with
  | .error _ => return m
  | .ok path =>
    try
      return m.write path (← IO.FS.readFile path.text)
    catch _ => return m

/-- Does a command with the replies so far, and asks for the next one as long as there is
    a call without one. -/
partial def converse (run : Kubectl → CommandReport) (replies : List Reply) : IO CommandReport := do
  let report := run (Kubectl.ofReplies replies)
  match report.unanswered? replies with
  | none => return report
  | some call =>
    IO.eprintln call.toJson.compact
    let line ← (← IO.getStdin).getLine
    converse run (replies ++ [Reply.ofLine line])

/-- Runs a command line. -/
def runProgram (words : List String) : IO UInt32 := do
  let env ← readEnvironment
  match Configuration.ofEnvironment env with
  | .error e =>
    IO.eprintln e.message
    return 1
  | .ok configuration =>
    let kubeconfig := (Command.ofWords words).toOption.bind Command.kubeconfig?
    let m ← readMachine env kubeconfig
    let now ← readClock
    let run (kubectl : Kubectl) : CommandReport :=
      Workplace.runWords ⟨m, configuration, fun _ => kubectl, now, (· != .infinite false)⟩ words
    let report ← converse run []
    IO.print report.output
    match report.ending with
    | .broken fault => IO.eprintln fault.message
    | .misused _ => IO.eprintln Workplace.help.output
    | _ => pure ()
    return UInt32.ofNat report.exitCode

end NodeCapture

/-- The entry point. -/
def main (args : List String) : IO UInt32 := NodeCapture.runProgram args
