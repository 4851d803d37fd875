import NodeCapture.Settings
import NodeCapture.Text.Case

/-!
# Configuration of the process

    Where the cluster is found, how the server is reached and protected, and how much is
    logged. Everything comes from variables of the environment and has a default.
-/

namespace NodeCapture

/-- The configuration of the process. -/
structure Configuration where
  kubeconfig : String := ""
  apiKey : String := ""
  apiHost : String := "127.0.0.1"
  apiPort : Int := 8080
  logLevel : String := "INFO"
  logFormat : String := "%(asctime)s - %(name)s - %(levelname)s - %(message)s"

/-- A configuration lacks values that must be there. -/
structure MissingConfiguration where
  names : List String
  deriving DecidableEq

/-- The wording of the error. -/
def MissingConfiguration.message (e : MissingConfiguration) : String :=
  "Missing required configuration: " ++ String.intercalate ", " e.names

namespace Configuration

/-- The configuration without any variable set. -/
def defaults : Configuration := {}

/-- Reads the configuration from variables of the environment. -/
def ofEnvironment (env : Environment) : Except NumberError Configuration := do
  let text (name : String) (default : String) : String := (env.get? name).getD default
  let port ←
    match env.get? "CAPTURECTL_API_PORT" with
    | some value => readWhole value
    | none => .ok defaults.apiPort
  return {
    kubeconfig := text "KUBECONFIG" defaults.kubeconfig
    apiKey := text "CAPTURECTL_API_KEY" defaults.apiKey
    apiHost := text "CAPTURECTL_API_HOST" defaults.apiHost
    apiPort := port
    logLevel := upper (text "LOG_LEVEL" defaults.logLevel)
    logFormat := text "LOG_FORMAT" defaults.logFormat }

/-- The values that must be there, with their names. -/
def requiredValues (c : Configuration) : List (String × String) := [("KUBECONFIG", c.kubeconfig)]

/-- What a configuration lacks, if it lacks anything. -/
def missing? (c : Configuration) : Option MissingConfiguration :=
  match c.requiredValues.filter (fun v => v.2.isEmpty) with
  | [] => none
  | lacking => some ⟨lacking.map (·.1)⟩

end Configuration

/-! ## Loggers -/

/-- The levels with their names. -/
def logLevels : List (String × Int) :=
  [("DEBUG", 10), ("INFO", 20), ("WARNING", 30), ("WARN", 30), ("ERROR", 40), ("CRITICAL", 50),
   ("FATAL", 50), ("NOTSET", 0)]

/-- The verbs that log something. They are not levels, and no level either that could be
    defaulted. -/
def logVerbs : List String :=
  ["debug", "info", "warning", "warn", "error", "critical", "fatal", "exception", "log", "disable"]

/-- A verb stands where a level should be. -/
inductive LogLevelFault where
  | verb
  deriving DecidableEq

/-- The level of a name; a name without one stands for the level of information. -/
def logLevelNamed (name : String) : Except LogLevelFault Int :=
  if logVerbs.contains name then .error .verb
  else .ok (((logLevels.find? (fun l => l.1 == name)).map (·.2)).getD 20)

/-- A logger: its level, and the level of its handler once it has one. -/
structure Logger where
  level : Int := 0
  handler : Option Int := none

namespace Logger

/-- Sets the level of a logger; the first time it also gets its handler, which keeps that
    level. -/
def setUp (l : Logger) (level : Int) : Logger := ⟨level, some (l.handler.getD level)⟩

/-- Sets a logger up once for each entry: at a level of its own, or at the configured
    one. -/
def setUpAll (configured : String) (levels : List (Option Int)) : Except LogLevelFault Logger :=
  levels.foldlM
    (fun l level => do
      let level ← match level with
        | some n => pure n
        | none => logLevelNamed configured
      return l.setUp level) {}

/-- A logger passes records on to others as long as it has no handler. -/
def propagates (l : Logger) : Bool := l.handler.isNone

end Logger

end NodeCapture
