import NodeCapture.Operation.Basic
import NodeCapture.Session

/-!
# Intents and their operations

    The orchestrator owns the session. An intent is held against the status of its node;
    if it may be carried out, its transition is applied at once. The intents for remote
    operations then leave an operation outstanding, which ends with a response that is
    folded into the session. Every new state of the session is published.
-/

namespace NodeCapture

/-- What a user can ask for. -/
inductive Intent where
  | select (node : Option String)
  | setFilters (node : String) (change : SelectionChange)
  | selectScenario (node : String) (kind : Option ScenarioKind)
  | setScenario (node : String) (scenario : Option Scenario)
  | setProtocol (node : String) (protocol : Option AppProtocol)
  | setFilterText (node : String) (text : Option String)
  | checkNode (node : String)
  | createPod (node : String)
  | deletePod (node : String)
  | startCapture (node capture : String)
  | stopCapture (node : String)
  | download (node capture localPath : String)
  | listNodes
  | listPods (node : String)
  | listInterfaces (node : String)

namespace Intent

/-- Whether an intent asks for a remote operation. -/
def isRemote : Intent → Bool
  | select _ | setFilters .. | selectScenario .. | setScenario .. | setProtocol ..
  | setFilterText .. =>
    false
  | _ => true

end Intent

/-- What becomes of an intent: an operation has begun, a local change was made, or nothing
    is done. -/
inductive Answer where
  | begun (operation : Nat)
  | done
  | refused
  deriving DecidableEq

/-- The session of a cluster, the operations that are outstanding in it, how many there
    have been, and the states that were published, of which the last comes first. -/
structure Orchestrator where
  session : Session
  outstanding : List (Nat × Request) := []
  submitted : Nat := 0
  published : List Session := []

namespace Orchestrator

/-- An orchestrator for a cluster of which some nodes are known. -/
def create (cluster : String) (initialNodes : List String) : Orchestrator :=
  { session := Session.create cluster initialNodes }

/-- The state of a node. -/
def node? (o : Orchestrator) (node : String) : Option Node := o.session.node? node

/-- Puts a new state of the session in the place of the old one. -/
def publish (o : Orchestrator) (s : Session) : Orchestrator :=
  { o with session := s, published := s :: o.published }

/-- Changes the state of a node. -/
def updateNode (o : Orchestrator) (node : String) (f : Node → Node) : Orchestrator :=
  o.publish (o.session.updateNode node f)

/-- The state of a node whose status is one of some. -/
def nodeIn? (o : Orchestrator) (node : String) (statuses : NodeStatus → Bool) : Option Node :=
  (o.node? node).filter (fun n => statuses n.status)

/-- Whether a node can be acted on at all. -/
def knows (o : Orchestrator) (node : String) : Bool := o.session.knows node

/-- Leaves a new operation outstanding. -/
def submit (o : Orchestrator) (r : Request) : Orchestrator × Answer :=
  ({ o with outstanding := o.outstanding ++ [(o.submitted, r)], submitted := o.submitted + 1 },
    .begun o.submitted)

/-- Changes the filters of a node, where its status allows that. -/
def edit (o : Orchestrator) (node : String) (f : Node → Node) : Orchestrator × Answer :=
  match o.nodeIn? node NodeStatus.isEditable with
  | some _ => (o.updateNode node f, .done)
  | none => (o, .refused)

/-- Applies the transition of an operation to a node and leaves the operation
    outstanding. -/
def begin (o : Orchestrator) (node : String) (f : Node → Node) (r : Request) :
    Orchestrator × Answer :=
  (o.updateNode node f).submit r

/-- The filters that a capture starts with: the interface, and the filter text that was
    entered or else derived. -/
def startFilters (n : Node) : CaptureFilters where
  interface := n.selection.interface
  filterText := nonEmpty (some (n.selection.filterText.getD (derivedFilter n.selection)))

/-- A name that is fit for a capture, or the error of the request that would carry it. -/
def checkedName (kind : OperationKind) (name : Option String) : Except ValidationError String :=
  ((checkCaptureName (.ofText? name)).under (.field "capture")).titled kind.requestTitle

/-- Checks a node of which nothing is known yet. -/
def beginCheck (o : Orchestrator) (node : String) : Orchestrator × Answer :=
  if o.knows node then
    let o := o.publish (o.session.ensureNode node)
    match o.nodeIn? node (· == .unknown) with
    | some _ => o.begin node Node.markChecking (.checkNode node)
    | none => (o, .refused)
  else (o, .refused)

/-- Creates the debug pod of a node that has none. -/
def beginCreation (o : Orchestrator) (node : String) : Orchestrator × Answer :=
  match o.nodeIn? node (· == .clean) with
  | some _ => o.begin node Node.markCreatingPod (.createPod node)
  | none => (o, .refused)

/-- Deletes the debug pod of a node, unless a file is being downloaded from it. -/
def beginDeletion (o : Orchestrator) (node : String) : Orchestrator × Answer :=
  match o.nodeIn? node (· == .podRunning) with
  | some n =>
    if n.captures.any (fun c => c.status == .downloading) then (o, .refused)
    else o.begin node Node.markDeletingPod (.deletePod node)
  | none => (o, .refused)

/-- Starts a capture with the filters of a node. -/
def beginStart (o : Orchestrator) (node capture : String) :
    Except ValidationError (Orchestrator × Answer) :=
  match o.nodeIn? node (· == .podRunning) with
  | some n => do
    let name ← checkedName .startCapture (some capture)
    return o.begin node (fun n => n.markCaptureStarting name)
      (.startCapture node name (startFilters n))
  | none => .ok (o, .refused)

/-- Stops the capture of a node. -/
def beginStop (o : Orchestrator) (node : String) : Except ValidationError (Orchestrator × Answer) :=
  match o.nodeIn? node (· == .captureRunning) with
  | some n => do
    let name ← checkedName .stopCapture n.captureName
    return o.begin node Node.markCaptureStopping (.stopCapture node name)
  | none => .ok (o, .refused)

/-- Downloads a completed capture of a node, unless that is being done already. -/
def beginDownload (o : Orchestrator) (node capture path : String) :
    Except ValidationError (Orchestrator × Answer) :=
  match o.nodeIn? node NodeStatus.hasPod with
  | some n =>
    match n.captures.find? (fun c => c.name == capture) with
    | some c =>
      if c.status = .downloading then .ok (o, .refused)
      else do
        let name ← checkedName .download (some capture)
        return o.begin node (fun n => n.markDownloading name) (.download node name path)
    | none => .ok (o, .refused)
  | none => .ok (o, .refused)

/-- Lists the nodes, unless that was done before. -/
def beginNodes (o : Orchestrator) : Orchestrator × Answer :=
  if o.session.reference.nodes.isNotLoaded then
    (o.publish o.session.setNodesLoading).submit .listNodes
  else (o, .refused)

/-- Lists the pods on a listed node, unless that was done before. -/
def beginPods (o : Orchestrator) (node : String) : Orchestrator × Answer :=
  match o.session.reference.get? node with
  | some item =>
    if item.pods.isNotLoaded then
      (o.publish (o.session.setPodsLoading node)).submit (.listPods node)
    else (o, .refused)
  | none => (o, .refused)

/-- Lists the interfaces of a node with a debug pod, unless that was done before. -/
def beginInterfaces (o : Orchestrator) (node : String) : Orchestrator × Answer :=
  match o.nodeIn? node NodeStatus.hasPod with
  | some n =>
    if n.interfaces.isNotLoaded then o.begin node Node.markInterfacesLoading (.listInterfaces node)
    else (o, .refused)
  | none => (o, .refused)

/-- Selects a known node or none. -/
def select (o : Orchestrator) (node : Option String) : Orchestrator × Answer :=
  match node with
  | none => (o.publish (o.session.select none), .done)
  | some name =>
    if o.knows name then (o.publish (o.session.select (some name)), .done) else (o, .refused)

/-- Carries an intent out. Only the name of a capture can be an error. -/
def perform (o : Orchestrator) (intent : Intent) : Except ValidationError (Orchestrator × Answer) :=
  match intent with
  | .select node => .ok (o.select node)
  | .setFilters node change =>
    .ok (o.edit node (fun n => n.setSelection (n.selection.change change)))
  | .selectScenario node kind => .ok (o.edit node (fun n => n.selectScenario kind node))
  | .setScenario node scenario => .ok (o.edit node (fun n => n.setScenario scenario))
  | .setProtocol node p => .ok (o.edit node (fun n => n.setAppProtocol p))
  | .setFilterText node text => .ok (o.edit node (fun n => n.setFilterText text))
  | .checkNode node => .ok (o.beginCheck node)
  | .createPod node => .ok (o.beginCreation node)
  | .deletePod node => .ok (o.beginDeletion node)
  | .startCapture node capture => o.beginStart node capture
  | .stopCapture node => o.beginStop node
  | .download node capture path => o.beginDownload node capture path
  | .listNodes => .ok o.beginNodes
  | .listPods node => .ok (o.beginPods node)
  | .listInterfaces node => .ok (o.beginInterfaces node)

/-! ## Responses -/

/-- The request of an outstanding operation. -/
def request? (o : Orchestrator) (operation : Nat) : Option Request :=
  (o.outstanding.find? (fun entry => entry.1 == operation)).map (·.2)

/-- Folds a response into the session. -/
def applyResponse (o : Orchestrator) (r : Response) : Orchestrator := o.publish (o.session.fold r)

/-- Folds a payload that claims to be a response into the session. -/
def applyRaw (o : Orchestrator) (name : String) (payload : Json) : Orchestrator :=
  o.publish (o.session.foldRaw name payload)

/-- Ends an operation with a response. -/
def complete (o : Orchestrator) (operation : Nat) (r : Response) : Orchestrator :=
  { o.applyResponse r with outstanding := o.outstanding.filter (fun entry => entry.1 != operation) }

/-- The response that an operation ends with: its own, or the report of a fault. -/
def responseOf (request : Request) : Except OperationFault Response → Response
  | .ok r => r
  | .error fault => request.failure ("Unexpected error: " ++ fault.message)

end Orchestrator

end NodeCapture
