import NodeCapture.Message.Codec
import NodeCapture.Node
import NodeCapture.ReferenceData

/-!
# The session of a cluster

    A session holds the states of the nodes, the reference data and an error that
    concerns no node. Responses are folded into it. A response to an operation that the
    node is not waiting for changes nothing but the error of the node; one for a node
    without a state is dropped. A payload that is no valid response counts as a failure
    of the operation that it names, as far as it can be told which one that is.
-/

namespace NodeCapture

/-- The session of a cluster. -/
structure Session where
  cluster : String
  initialNodes : List String := []
  selected : Option String := none
  nodes : List (String × Node) := []
  reference : ReferenceData := {}
  error : Option String := none
  deriving DecidableEq

namespace OperationKind

/-- The status that the response to an operation is expected to settle. -/
def awaitedStatus? : OperationKind → Option NodeStatus
  | checkNode => some .checking
  | createPod => some .creatingPod
  | deletePod => some .deletingPod
  | startCapture => some .captureStarting
  | stopCapture => some .captureStopping
  | _ => none

end OperationKind

/-- The state of a name in a list of named states. -/
def findNode (name : String) : List (String × Node) → Option Node
  | [] => none
  | (key, n) :: rest => if key = name then some n else findNode name rest

/-- Changes the state of a name in a list of named states. -/
def modifyNode (name : String) (f : Node → Node) : List (String × Node) → List (String × Node)
  | [] => []
  | (key, n) :: rest =>
    if key = name then (key, f n) :: rest else (key, n) :: modifyNode name f rest

namespace Session

/-- A session in which nothing has happened. -/
def create (cluster : String) (initialNodes : List String) : Session :=
  { cluster := cluster, initialNodes := initialNodes }

/-- The state of a node. -/
def node? (s : Session) (node : String) : Option Node := findNode node s.nodes

/-- Whether a node has a state. -/
def hasNode (s : Session) (node : String) : Bool := (s.node? node).isSome

/-- Gives a node a state, if it has none. -/
def ensureNode (s : Session) (node : String) : Session :=
  if s.hasNode node then s else { s with nodes := s.nodes ++ [(node, {})] }

/-- Whether a node has a state, is an initial node or is listed. -/
def knows (s : Session) (node : String) : Bool :=
  s.hasNode node || s.initialNodes.contains node || s.reference.contains node

/-- Selects a node or none; a node that is not known is not selected. -/
def select (s : Session) (node : Option String) : Session :=
  match node with
  | none => { s with selected := none }
  | some name => if s.knows name then { s.ensureNode name with selected := some name } else s

/-- Changes the state of a node, if it has one. -/
def updateNode (s : Session) (node : String) (f : Node → Node) : Session :=
  { s with nodes := modifyNode node f s.nodes }

/-- The node list is being loaded. -/
def setNodesLoading (s : Session) : Session := { s with reference := s.reference.setNodesLoading }

/-- The node list is no longer loaded, and an error says why. -/
def failNodes (s : Session) (error : String) : Session :=
  { s with reference := s.reference.resetNodes, error := some error }

/-- Sets the pod cell of a node. -/
def setPods (s : Session) (node : String) (pods : Cell (List Pod)) : Session :=
  { s with reference := s.reference.setPods node pods }

/-- The pods of a node are being loaded. -/
def setPodsLoading (s : Session) (node : String) : Session := s.setPods node .loading

/-- The pods of a node are no longer loaded, and an error of the node says why. -/
def failPods (s : Session) (node error : String) : Session :=
  (s.setPods node .notLoaded).updateNode node (fun n => n.withError error)

/-- Takes over a node list; each listed node gets a state. -/
def setNodes (s : Session) (names : List String) : Session :=
  let reference := s.reference.updateNodes names
  { reference.names.foldl ensureNode { s with reference := reference } with error := none }

/-! ## Responses -/

/-- The error of a response that a node is not waiting for. -/
def unexpectedText (kind : OperationKind) (node : String) (status : NodeStatus) : String :=
  "Unexpected " ++ kind.responseTitle ++ " while node " ++ node ++ " is " ++ Named.name status

/-- Folds a response for a node: nothing where the node has no state, an error where it
    waits for another response. -/
def settle (s : Session) (kind : OperationKind) (node : String) (f : Node → Node) : Session :=
  match s.node? node with
  | none => s
  | some n =>
    match kind.awaitedStatus? with
    | none => s.updateNode node f
    | some awaited =>
      if n.status = awaited then s.updateNode node f
      else s.updateNode node (fun n => n.withError (unexpectedText kind node n.status))

/-- Folds a node list. -/
def foldNodes (s : Session) (o : Outcome) (names : List String) : Session :=
  if o.succeeded then s.setNodes names else s.failNodes (Node.errorOr o "Failed to list nodes")

/-- Folds a pod list; one of a node that is not listed is dropped. -/
def foldPods (s : Session) (o : Outcome) (node : String) (pods : List Pod) : Session :=
  if s.reference.contains node then
    if o.succeeded then s.setPods node (.loaded pods)
    else s.failPods node (Node.errorOr o ("Failed to list pods on " ++ node))
  else s

/-- Folds a response. -/
def fold (s : Session) (r : Response) : Session :=
  match r with
  | .nodesListed o names => s.foldNodes o names
  | .podsListed o node pods => s.foldPods o node pods
  | .nodeChecked o node podRunning running completed =>
    s.settle .checkNode node (fun n => n.settleCheck o podRunning running completed)
  | .podCreated o node => s.settle .createPod node (fun n => n.settleCreation o)
  | .podDeleted o node => s.settle .deletePod node (fun n => n.settleDeletion o)
  | .captureStarted o node => s.settle .startCapture node (fun n => n.settleStart o)
  | .captureStopped o node capture => s.settle .stopCapture node (fun n => n.settleStop o capture)
  | .downloaded o node capture path =>
    s.settle .download node (fun n => n.settleDownload o capture path)
  | .interfacesListed o node names =>
    s.settle .listInterfaces node (fun n => n.settleInterfaces o names)

/-! ## Invalid responses -/

/-- The error of an invalid response. -/
def invalidText (name : String) : String := "Received an invalid response for " ++ name

/-- Ends the download of a capture as if it had never begun. -/
def abandonDownload (capture : Option String) (c : Capture) : Capture :=
  if some c.name = capture ∧ c.status = .downloading then { c with status := .completed } else c

/-- What an invalid response to an operation does to the state of its node. -/
def invalidate (kind : OperationKind) (capture : Option String) (error : String) (n : Node) :
    Node :=
  match kind with
  | .download =>
    { n with captures := n.captures.map (abandonDownload capture), error := some error }
  | .listInterfaces =>
    { n with
      interfaces := if n.interfaces.isLoading then .notLoaded else n.interfaces
      error := some error }
  | _ =>
    match kind.awaitedStatus? with
    | some awaited => if n.status = awaited then n.fail error else n.withError error
    | none => n.fail error

/-- Records an invalid response to an operation, for the node and the capture that it
    names, if it names them. -/
def recordInvalid (s : Session) (kind : OperationKind) (node capture : Option String)
    (error : String) : Session :=
  match kind, node with
  | .listNodes, _ => s.failNodes error
  | _, none => { s with error := some error }
  | kind, some name =>
    if s.hasNode name then
      if kind = .listPods then s.failPods name error
      else s.updateNode name (invalidate kind capture error)
    else { s with error := some error }

/-- A text member of a payload. -/
def payloadText? (name : String) (payload : Json) : Option String :=
  match payload.get? name with
  | some (.string s) => some s
  | _ => none

/-- Folds a payload that claims to be the response with a registered name. -/
def foldRaw (s : Session) (name : String) (payload : Json) : Session :=
  match OperationKind.ofName? name with
  | none => { s with error := some ("Received unknown response " ++ name) }
  | some kind =>
    match Response.ofJson kind payload with
    | .ok response => s.fold response
    | .error _ =>
      s.recordInvalid kind (payloadText? "node" payload) (payloadText? "capture_name" payload)
        (invalidText name)

end Session

end NodeCapture
