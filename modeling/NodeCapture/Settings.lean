import NodeCapture.Json.Basic
import NodeCapture.Number
import NodeCapture.Text.Quoted

/-!
# Settings

    Where debug pods run and what they are called, where capture files lie, and how
    kubectl is run. Settings come with defaults, which variables of the environment
    replace.
-/

namespace NodeCapture

/-- Variables of the environment. -/
abbrev Environment := List (String × String)

/-- The value of a variable. -/
def Environment.get? (env : Environment) (name : String) : Option String :=
  (env.find? (fun v => v.1 == name)).map (·.2)

/-- The settings of one set of debug pods and capture files. -/
structure Settings where
  namespaceName : String := "default"
  debugImage : String := "mcr.microsoft.com/dotnet/runtime-deps:6.0"
  podPrefix : String := "debug-"
  captureDir : String := "/tmp"
  capturePrefix : String := "capturectl_"
  tcpdumpBase : String := "tcpdump --snapshot-length=0 -vvv"
  waitTimeout : Int := 300
  commandTimeout : Option Seconds := some (.real (.ofInt 900))
  maxConcurrentCommands : Int := 8
  kubectlPath : String := "kubectl"

namespace Settings

/-- The settings without any variable set. -/
def defaults : Settings := {}

/-- The directory of capture files without slashes at its end. -/
def trimmedDir (s : Settings) : String :=
  String.ofList (s.captureDir.toList.reverse.dropWhile (· == '/')).reverse

/-- What the path of every capture file begins with. -/
def basePath (s : Settings) : String := s.trimmedDir ++ "/" ++ s.capturePrefix

/-- The name of the debug pod of a node. -/
def podName (s : Settings) (node : String) : String := s.podPrefix ++ node

/-- The path of the file of a capture. -/
def filePath (s : Settings) (capture : String) : String := s.basePath ++ capture ++ ".cap"

/-- Reads the settings from variables of the environment. An empty timeout counts as none
    given. -/
def ofEnvironment (env : Environment) : Except NumberError Settings := do
  let text (name : String) (default : String) : String := (env.get? name).getD default
  let number (name : String) (default : Int) : Except NumberError Int :=
    match env.get? name with
    | some value => readWhole value
    | none => .ok default
  let waitTimeout ← number "CAPTURECTL_WAIT_TIMEOUT" defaults.waitTimeout
  let commandTimeout ←
    match env.get? "CAPTURECTL_COMMAND_TIMEOUT" with
    | some value =>
      if value.isEmpty then .ok defaults.commandTimeout
      else (readFloat value).map (some ∘ Seconds.real)
    | none => .ok defaults.commandTimeout
  let maxConcurrentCommands ← number "CAPTURECTL_MAX_CONCURRENCY" defaults.maxConcurrentCommands
  return {
    namespaceName := text "CAPTURECTL_NAMESPACE" defaults.namespaceName
    debugImage := text "CAPTURECTL_DEBUG_IMAGE" defaults.debugImage
    podPrefix := text "CAPTURECTL_POD_PREFIX" defaults.podPrefix
    captureDir := text "CAPTURECTL_CAPTURE_DIR" defaults.captureDir
    capturePrefix := text "CAPTURECTL_CAPTURE_PREFIX" defaults.capturePrefix
    waitTimeout := waitTimeout
    commandTimeout := commandTimeout
    maxConcurrentCommands := maxConcurrentCommands
    kubectlPath := text "KUBECTL_PATH" defaults.kubectlPath }

end Settings

/-- A text, where it is given and not empty. -/
def nonEmpty (text : Option String) : Option String :=
  match text with
  | some s => if s.isEmpty then none else some s
  | none => none

/-- The command line that captures into a file, with an interface and a filter where they
    are given. -/
def tcpdumpCommand (s : Settings) (capture : String) (interface filter : Option String) : String :=
  let parts :=
    [s.tcpdumpBase,
     match nonEmpty interface with
     | some name => "-i " ++ shellQuote name
     | none => "",
     "-w " ++ shellQuote (s.filePath capture),
     match nonEmpty filter with
     | some text => shellQuote text
     | none => ""]
  String.intercalate " " (parts.filter (fun part => !part.isEmpty))

/-! ## Settings as JSON

    Settings are written with all their members, and read with defaults for those that
    are absent. A real number of seconds is written as a text. -/

/-- Reads a length of time. -/
def Seconds.read? : Json → Option Seconds
  | .int n => some (.whole n)
  | .real x => some (.real x)
  | .string s => (readReal s.toList).map .real
  | _ => none

/-- Writes a length of time. -/
def Seconds.toJson : Option Seconds → Json
  | none => .null
  | some (.whole n) => .int n
  | some (.real x) => .string x.shortest

namespace Settings

/-- Reads settings. -/
def read (j : Json) : Settings where
  namespaceName := (j.textAt? "namespace").getD defaults.namespaceName
  debugImage := (j.textAt? "debug_image").getD defaults.debugImage
  podPrefix := (j.textAt? "pod_prefix").getD defaults.podPrefix
  captureDir := (j.textAt? "capture_dir").getD defaults.captureDir
  capturePrefix := (j.textAt? "capture_prefix").getD defaults.capturePrefix
  tcpdumpBase := (j.textAt? "tcpdump_base").getD defaults.tcpdumpBase
  waitTimeout := (j.intAt? "wait_timeout").getD defaults.waitTimeout
  commandTimeout :=
    match j.get? "command_timeout" with
    | some value => Seconds.read? value
    | none => defaults.commandTimeout
  maxConcurrentCommands := (j.intAt? "max_concurrent_commands").getD defaults.maxConcurrentCommands
  kubectlPath := (j.textAt? "kubectl_path").getD defaults.kubectlPath

/-- Writes settings. -/
def toJson (s : Settings) : Json :=
  .object [("namespace", .string s.namespaceName), ("debug_image", .string s.debugImage),
    ("pod_prefix", .string s.podPrefix), ("capture_dir", .string s.captureDir),
    ("capture_prefix", .string s.capturePrefix), ("tcpdump_base", .string s.tcpdumpBase),
    ("wait_timeout", .int s.waitTimeout), ("command_timeout", Seconds.toJson s.commandTimeout),
    ("max_concurrent_commands", .int s.maxConcurrentCommands),
    ("kubectl_path", .string s.kubectlPath)]

end Settings

end NodeCapture
