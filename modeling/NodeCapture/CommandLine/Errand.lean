import NodeCapture.Json.Writer
import NodeCapture.Projection
import NodeCapture.Setup

/-!
# Errands

    An errand is what a command does at a cluster: it carries out intents one after
    another, prints lines and waits. It can fail for a cause, and it does not go on
    where a wait is never over; what it did before stays done.
-/

namespace NodeCapture

/-- Why a command fails. -/
inductive CommandFault where
  | setup (fault : SetupFault)
  | reported (error : String)
  | unlisted (node : String)
  | unknownPod (pod node : String)
  | inStatus (node : String) (status : NodeStatus)
  | alreadyRunning (capture node : String)
  | notStarted
  | notStopped
  | notDownloaded
  | noPod (node : String)
  | transport (error : UnknownName)
  | protocol (error : AppProtocol.Unknown)
  | validation (error : ValidationError)

namespace CommandFault

/-- The wording of a fault. -/
def message : CommandFault → String
  | .setup fault => fault.message
  | reported error => error
  | unlisted node => "Node " ++ node ++ " not found"
  | unknownPod pod node => "Pod " ++ pod ++ " not found on node " ++ node
  | inStatus node status => "Node " ++ node ++ " is " ++ Named.name status
  | alreadyRunning capture node => "Capture " ++ capture ++ " is already running on " ++ node
  | notStarted => "Capture did not start"
  | notStopped => "Capture did not stop"
  | notDownloaded => "Download failed"
  | noPod node => "No debug pod on " ++ node ++ "; run `capturectl capture create-pod` first"
  | .transport error => error.message
  | .protocol error => error.message
  | .validation error => String.intercalate "\n" error.summary

/-- A reported error, or a fault where none is reported. -/
def reportedOr (error : Option String) (fault : CommandFault) : CommandFault :=
  match nonEmpty error with
  | some error => reported error
  | none => fault

end CommandFault

/-- Why an errand does not get to its last step: it failed, or it waits for ever. -/
inductive Halt where
  | failed (fault : CommandFault)
  | waiting

/-- What an errand works at: the station, the lines that were printed and the waits, of
    which the last come first. -/
structure Counter where
  station : Station
  printed : List String := []
  waits : List Binary64 := []

/-- What a command does at a cluster. -/
abbrev Errand (α : Type) := ExceptT Halt (StateM Counter) α

namespace Errand

/-- Prints a line. -/
def say (line : String) : Errand Unit := modify (fun c => { c with printed := line :: c.printed })

/-- Waits for some seconds; `wakes` tells of which waits there is an end. -/
def wait (wakes : Binary64 → Bool) (seconds : Binary64) : Errand Unit := do
  modify (fun c => { c with waits := seconds :: c.waits })
  if !wakes seconds then throw .waiting

/-- Fails. -/
def fail {α : Type} (fault : CommandFault) : Errand α := throw (.failed fault)

/-- Fails if an error is reported. -/
def failOn (error : Option String) : Errand Unit :=
  match nonEmpty error with
  | some error => fail (.reported error)
  | none => pure ()

/-- Goes on with a value, unless there is an error in its place. -/
def expect {ε α : Type} (fault : ε → CommandFault) : Except ε α → Errand α
  | .ok a => pure a
  | .error e => fail (fault e)

/-- The session. -/
def session : Errand Session := do return (← get).station.session

/-- The state of a node; one without a state is one of which nothing is known. -/
def node (name : String) : Errand Node := do return ((← get).station.node? name).getD {}

/-- Carries an intent out to the end of its operation. -/
def carryOut (kubectl : Kubectl) (intent : Intent) : Errand Unit := do
  let c ← get
  match c.station.runIntent kubectl intent with
  | .ok (station, _) => set { c with station := station }
  | .error e => fail (.validation e)

/-- Makes sure that a node is known. -/
def ensureKnown (kubectl : Kubectl) (name : String) : Errand Unit := do
  let c ← get
  let (station, error) := c.station.ensureKnown kubectl name
  set { c with station := station }
  match error with
  | some error => fail (.reported error)
  | none => pure ()

/-- Does something last, whether what comes before it fails or not; its own fault goes
    first. Behind a wait that is never over nothing is done. -/
def withLast {α : Type} (errand : Errand α) (last : Errand Unit) : Errand α :=
  ExceptT.mk do
    match ← errand.run with
    | .error .waiting => return .error .waiting
    | result =>
      match ← last.run with
      | .ok _ => return result
      | .error halt => return .error halt

/-- Makes sure that a node is known, and checks it. -/
def check (kubectl : Kubectl) (name : String) : Errand Unit := do
  ensureKnown kubectl name
  carryOut kubectl (.checkNode name)

end Errand

/-! ## Inspecting nodes

    The commands that list the nodes, the pods and the interfaces of a node, or show the
    state of a node. -/

namespace Errand

variable (kubectl : Kubectl)

/-- Lists the nodes of the cluster. -/
def listNodes : Errand Unit := do
  carryOut kubectl .listNodes
  let s ← session
  failOn s.error
  say ("📡 Nodes in cluster " ++ s.cluster ++ ":")
  s.reference.names.forM (fun name => say ("  • " ++ name))

/-- Lists the pods on a node that filters can name. -/
def listPods (name : String) : Errand Unit := do
  carryOut kubectl .listNodes
  carryOut kubectl (.listPods name)
  let s ← session
  match s.reference.get? name with
  | none => fail (.reportedOr s.error (.unlisted name))
  | some item =>
    failOn ((s.node? name).bind Node.error)
    (item.pods.getD []).forM (fun pod => say (pod.name ++ "\t" ++ pod.address))

/-- Prints the state of a node. -/
def sayNode (name : String) (n : Node) : Errand Unit := do
  say ("🔍 " ++ name ++ ": " ++ Named.name n.status)
  (nonEmpty n.captureName).toList.forM (fun capture => say ("   running capture: " ++ capture))
  n.captures.forM
    (fun c => say ("   completed: " ++ c.name ++ " (" ++ integerText c.sizeKb ++ " KB)"))
  failOn n.error

/-- Shows the state of a node, as JSON if asked to. -/
def checkNode (name : String) (asJson : Bool) : Errand Unit := do
  check kubectl name
  let n ← node name
  if asJson then say (Json.indented 0 n.describe) else sayNode name n

/-- Lists the interfaces of a node with a debug pod. -/
def listInterfaces (name : String) : Errand Unit := do
  check kubectl name
  carryOut kubectl (.listInterfaces name)
  let n ← node name
  failOn n.error
  match n.interfaces with
  | .loaded names => names.forM say
  | _ => fail (.noPod name)

end Errand

end NodeCapture
