import NodeCapture.Configuration
import NodeCapture.Kubeconfig
import NodeCapture.Station

/-!
# Setting an orchestrator up

    The kubeconfig is looked for where the caller says, where the configuration or the
    environment says, or at its usual place; the environment can also hold its content.
    The current context gives the name of the cluster. The settings come from the
    environment.
-/

namespace NodeCapture

/-- What a setup can see of the machine: variables, files, the texts of some files, the
    Linux nodes that the cluster would list, and how deep a document of the client may be
    nested. -/
structure Machine where
  env : Environment
  files : LocalFiles
  contents : List (LocalPath × String)
  linuxNodes : List String := []
  nesting : Nat := Json.usualNesting

/-- Why an orchestrator cannot be set up. -/
inductive SetupFault where
  | notFound (place : String)
  | path (fault : PathFault)
  | number (error : NumberError)
  | unreadable (error : OsError)
  | kubeconfig (fault : KubeconfigFault)
  | noWorkers

namespace SetupFault

/-- The wording of a fault. -/
def message : SetupFault → String
  | notFound place => "Kubeconfig not found: " ++ place
  | .path fault => fault.message
  | number error => error.message
  | unreadable error => error.message
  | kubeconfig fault => fault.message
  | noWorkers => "max_workers must be greater than 0"

/-- Whether a fault is reported to the user; the others are not foreseen. -/
def isForeseen : SetupFault → Bool
  | unreadable _ | kubeconfig .unfitShape | kubeconfig (.malformed _ _) => false
  | _ => true

end SetupFault

/-- The text before the first colon. -/
def firstOfPaths (paths : String) : String := String.ofList (paths.toList.takeWhile (· != ':'))

namespace Machine

/-- Where the content of a kubeconfig in the environment is written to. -/
def contentPath : LocalPath := ["ci-kubeconfig.yaml", "tmp"]

/-- Where a kubeconfig usually is. -/
def usualKubeconfig : String := "~/.kube/config"

/-- Writes a file. -/
def write (m : Machine) (path : LocalPath) (text : String) : Machine :=
  { m with
    files := { m.files with files := path :: m.files.files }
    contents := (path, text) :: m.contents }

/-- The text of a file; one without a text is empty. -/
def contentOf (m : Machine) (path : LocalPath) : String :=
  ((m.contents.find? (fun entry => entry.1 == path)).map (·.2)).getD ""

/-- Finds the kubeconfig: the content in the environment goes first, unless a path is
    given. -/
def resolveKubeconfig (m : Machine) (path : Option String) :
    Except SetupFault (LocalPath × Machine) :=
  match nonEmpty path, m.env.get? "KUBECONFIG_CONTENT" with
  | none, some content => .ok (contentPath, m.write contentPath content)
  | given, _ =>
    let candidate := (given <|> nonEmpty (m.env.get? "KUBECONFIG")).getD usualKubeconfig
    match m.files.locate (firstOfPaths candidate) with
    | .error fault => .error (.path fault)
    | .ok resolved =>
      if m.files.pathExists resolved then .ok (resolved, m) else .error (.notFound resolved.text)

/-- The name of the cluster of a kubeconfig. -/
def clusterName (m : Machine) (path : LocalPath) : Except SetupFault String :=
  if m.files.isDirectory path then .error (.unreadable ⟨21, path.text⟩)
  else if m.files.pathExists path then
    match Kubeconfig.clusterName path.text (m.contentOf path) with
    | .ok name => .ok name
    | .error fault => .error (.kubeconfig fault)
  else .error (.kubeconfig .noFile)

end Machine

/-- An orchestrator that is set up, and how kubectl is run for it. -/
structure Setup where
  station : Station
  runner : Runner

namespace Setup

/-- A station with nothing done yet; its settings must allow for one command at a time at
    least. -/
def open? (settings : Settings) (orchestrator : Orchestrator) (files : LocalFiles)
    (nesting : Nat := Json.usualNesting) : Except SetupFault Station :=
  if settings.maxConcurrentCommands ≤ 0 then .error .noWorkers
  else .ok ⟨settings, orchestrator, { files := files, nesting := nesting }⟩

/-- Sets an orchestrator up for the kubeconfig at a path or at the configured one. -/
def build (m : Machine) (path : Option String) (configured : String) (discover : Bool) :
    Except SetupFault Setup := do
  let (path, m) ← m.resolveKubeconfig (nonEmpty path <|> nonEmpty (some configured))
  let settings ← (Settings.ofEnvironment m.env).mapError .number
  let cluster ← m.clusterName path
  let nodes := if discover then m.linuxNodes else []
  let station ← open? settings (Orchestrator.create cluster nodes) m.files m.nesting
  return ⟨station, ⟨some path.text, settings.kubectlPath, settings.commandTimeout⟩⟩

end Setup

namespace Station

/-- Makes sure that a node is known, listing the nodes if need be; yields an error where
    it is not listed either. -/
def ensureKnown (kubectl : Kubectl) (st : Station) (node : String) : Station × Option String :=
  let st :=
    if st.orchestrator.knows node then st
    else match st.orchestrator.beginNodes with
      | (o, .begun operation) =>
        (Station.carryOut kubectl { st with orchestrator := o } operation).1
      | _ => st
  if st.orchestrator.knows node then (st, none)
  else (st, some ((nonEmpty st.session.error).getD
    ("Node " ++ node ++ " not found in cluster " ++ st.session.cluster)))

end Station

end NodeCapture
