import NodeCapture.Json.Basic
import NodeCapture.Number
import NodeCapture.Settings
import NodeCapture.System

/-!
# Calls of kubectl

    A call has arguments and possibly a standard input. It either exits with a code and
    output, or cannot be made at all. Everything that the program learns about the
    cluster comes from such replies.
-/

namespace NodeCapture

/-- A call: its arguments, and the standard input if one is passed. -/
structure Call where
  args : List String
  input : Option String := none
  deriving DecidableEq

/-- What a process leaves behind. -/
structure CommandResult where
  exitCode : Int := 0
  stdout : String := ""
  stderr : String := ""
  deriving DecidableEq

/-- Whether a process ended well. -/
def CommandResult.succeeded (r : CommandResult) : Bool := r.exitCode == 0

/-- A text without the blanks at its ends. -/
def stripped (text : String) : String := String.ofList (strip text.toList)

/-- The report of a call that ended badly, with its error output or else its output. -/
def describeFailure (args : List String) (r : CommandResult) : String :=
  let detail := if (stripped r.stderr).isEmpty then stripped r.stdout else stripped r.stderr
  "Command kubectl " ++ String.intercalate " " args ++ " failed with exit code "
    ++ integerText r.exitCode ++ ": " ++ detail

/-- How a call is answered: by an exit, by a transport that fails, or by a fault that
    nothing provides for. -/
inductive Reply where
  | exited (result : CommandResult)
  | transportError (text : String)
  | crashed (text : String)
  deriving DecidableEq

/-- A call and the reply to it. -/
structure Exchange where
  call : Call
  reply : Reply
  deriving DecidableEq

/-- How kubectl behaves: the reply to a call after the exchanges so far, of which the last
    comes first. -/
abbrev Kubectl := List Exchange → Call → Reply

/-! ## Running the program -/

/-- How kubectl is run. -/
structure Runner where
  kubeconfig : Option String := none
  path : String := "kubectl"
  timeout : Option Seconds := none

/-- What becomes of a process that is started. -/
inductive ProcessEnd where
  | exited (result : CommandResult)
  | timedOut
  | notStarted (code : Int)
  deriving DecidableEq

/-- The text of a number of seconds. -/
def Seconds.text : Seconds → String
  | whole n => integerText n
  | real x => x.shortest

namespace Runner

/-- The command line in front of the arguments. -/
def baseCommand (r : Runner) : List String :=
  r.path :: match nonEmpty r.kubeconfig with
    | some config => ["--kubeconfig", config]
    | none => []

/-- The command line of a call. -/
def command (r : Runner) (call : Call) : List String := r.baseCommand ++ call.args

/-- The reply to a call whose process ends in a way. -/
def reply (r : Runner) : ProcessEnd → Reply
  | .exited result => .exited result
  | .timedOut =>
    .transportError
      ("kubectl timed out after " ++ ((r.timeout.map Seconds.text).getD "None") ++ "s")
  | .notStarted code =>
    .transportError ("Unable to run " ++ r.path ++ ": " ++ (OsError.message ⟨code, r.path⟩))

end Runner

/-! ## Scripted kubectl

    A script answers calls by rules: the first rule that fits the arguments and has not
    been used up. A call that no rule fits exits well without output. -/

/-- A rule: how the arguments start, the reply, and how often the rule answers, if that is
    limited. -/
structure Rule where
  start : String
  reply : Reply
  times : Option Int := none

/-- A list of rules. -/
abbrev Script := List Rule

/-- Writes a call: its arguments, and its input if it has one. -/
def Call.toJson (c : Call) : Json :=
  .object (("args", .ofTexts c.args) :: match c.input with
    | some input => [("input", .string input)]
    | none => [])

/-- Reads what a process leaves behind. -/
def CommandResult.read (j : Json) : CommandResult :=
  ⟨(j.intAt? "exit_code").getD 0, j.textAt "stdout", j.textAt "stderr"⟩

/-- Reads a rule. -/
def Rule.read (j : Json) : Rule :=
  let reply : Reply :=
    match j.textAt? "transport_error", j.textAt? "raise" with
    | some text, _ => .transportError text
    | none, some text => .crashed text
    | none, none => .exited (CommandResult.read j)
  ⟨j.textAt "prefix", reply, j.intAt? "times"⟩

namespace Script

/-- Whether a rule fits a text of arguments. -/
def fits (args : List Char) (rule : Rule) : Bool :=
  rule.start.toList.isPrefixOf args && (match rule.times with
    | none => true
    | some n => decide (0 < n))

/-- The reply to a text of arguments, and the script after it. -/
def answer (args : List Char) : Script → Reply × Script
  | [] => (.exited {}, [])
  | rule :: rest =>
    if fits args rule then (rule.reply, { rule with times := rule.times.map (· - 1) } :: rest)
    else
      let (reply, rest) := answer args rest
      (reply, rule :: rest)

/-- The arguments of a call as one text. -/
def callText (c : Call) : List Char := (String.intercalate " " c.args).toList

/-- The script after some exchanges, of which the last comes first. -/
def after (script : Script) : List Exchange → Script
  | [] => script
  | e :: earlier => (answer (callText e.call) (after script earlier)).2

/-- How kubectl behaves by a script. -/
def kubectl (script : Script) : Kubectl :=
  fun exchanges c => (answer (callText c) (script.after exchanges)).1

end Script

end NodeCapture
