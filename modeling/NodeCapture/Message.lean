import NodeCapture.Filter
import NodeCapture.Settings

/-!
# Requests and responses

    A request asks for one remote operation. The response to it says how it went,
    repeats the node, and for a download the capture, so that it finds its way to the
    state it concerns.
-/

namespace NodeCapture

/-- The nine remote operations. -/
inductive OperationKind where
  | checkNode
  | createPod
  | deletePod
  | startCapture
  | stopCapture
  | download
  | listInterfaces
  | listNodes
  | listPods
  deriving DecidableEq

namespace OperationKind

/-- All operations in their order of registration. -/
def all : List OperationKind :=
  [checkNode, createPod, deletePod, startCapture, stopCapture, download, listInterfaces,
    listNodes, listPods]

/-- The name under which the messages of an operation are registered. -/
def name : OperationKind → String
  | checkNode => "check_node_state"
  | createPod => "start_debug_pod"
  | deletePod => "delete_debug_pod"
  | startCapture => "start_capture"
  | stopCapture => "stop_capture"
  | download => "download_capture_file"
  | listInterfaces => "get_interfaces"
  | listNodes => "get_all_nodes"
  | listPods => "get_filter_pods_for_node"

/-- The operation with a name. -/
def ofName? (text : String) : Option OperationKind := all.find? (fun k => k.name == text)

/-- The title of an operation in its messages. -/
def title : OperationKind → String
  | checkNode => "CheckNodeState"
  | createPod => "StartDebugPod"
  | deletePod => "DeleteDebugPod"
  | startCapture => "StartCapture"
  | stopCapture => "StopCapture"
  | download => "DownloadCaptureFile"
  | listInterfaces => "GetInterfaces"
  | listNodes => "GetAllNodes"
  | listPods => "GetFilterPodsForNode"

/-- The title of the request for an operation. -/
def requestTitle (k : OperationKind) : String := k.title ++ "Request"

/-- The title of the response to an operation. -/
def responseTitle (k : OperationKind) : String := k.title ++ "Response"

end OperationKind

/-- A character that a capture name may hold. -/
def isCaptureNameChar (c : Char) : Bool := c.isAlphanum || c == '.' || c == '_' || c == '-'

/-- Capture names are used in paths and commands: letters, digits, dots, underscores and
    hyphens, at least one. -/
def isCaptureName (name : String) : Bool := !name.isEmpty && name.toList.all isCaptureNameChar

/-- The interface and filter of a capture that starts. -/
structure CaptureFilters where
  interface : Option String := none
  filterText : Option String := none
  deriving DecidableEq

/-- A completed capture as a response reports it. -/
structure CaptureFile where
  name : String
  sizeKb : Int
  deriving DecidableEq

/-- A request for a remote operation. -/
inductive Request where
  | checkNode (node : String)
  | createPod (node : String)
  | deletePod (node : String)
  | startCapture (node capture : String) (filters : CaptureFilters)
  | stopCapture (node capture : String)
  | download (node capture localPath : String)
  | listInterfaces (node : String)
  | listNodes
  | listPods (node : String)
  deriving DecidableEq

/-- How an operation went. -/
structure Outcome where
  succeeded : Bool
  error : Option String := none
  deriving DecidableEq

/-- The outcome of an operation that went well. -/
def Outcome.success : Outcome := ⟨true, none⟩

/-- The outcome of an operation that failed. -/
def Outcome.failure (error : String) : Outcome := ⟨false, some error⟩

/-- The response to a request. -/
inductive Response where
  | nodeChecked (outcome : Outcome) (node : String) (podRunning : Bool) (running : Option String)
      (completed : List CaptureFile)
  | podCreated (outcome : Outcome) (node : String)
  | podDeleted (outcome : Outcome) (node : String)
  | captureStarted (outcome : Outcome) (node : String)
  | captureStopped (outcome : Outcome) (node : String) (capture : Option CaptureFile)
  | downloaded (outcome : Outcome) (node capture : String) (localPath : Option String)
  | interfacesListed (outcome : Outcome) (node : String) (names : List String)
  | nodesListed (outcome : Outcome) (names : List String)
  | podsListed (outcome : Outcome) (node : String) (pods : List Pod)
  deriving DecidableEq

namespace Request

/-- The operation that a request asks for. -/
def kind : Request → OperationKind
  | checkNode _ => .checkNode
  | createPod _ => .createPod
  | deletePod _ => .deletePod
  | startCapture .. => .startCapture
  | stopCapture .. => .stopCapture
  | download .. => .download
  | listInterfaces _ => .listInterfaces
  | listNodes => .listNodes
  | listPods _ => .listPods

/-- The node that a request concerns. -/
def node? : Request → Option String
  | checkNode n | createPod n | deletePod n | startCapture n _ _ | stopCapture n _ | download n _ _
  | listInterfaces n | listPods n => some n
  | listNodes => none

/-- The response that reports an outcome and nothing else. -/
def bareResponse (o : Outcome) : Request → Response
  | checkNode n => .nodeChecked o n false none []
  | createPod n => .podCreated o n
  | deletePod n => .podDeleted o n
  | startCapture n _ _ => .captureStarted o n
  | stopCapture n _ => .captureStopped o n none
  | download n capture path => .downloaded o n capture (some path)
  | listInterfaces n => .interfacesListed o n []
  | listNodes => .nodesListed o []
  | listPods n => .podsListed o n []

/-- The response that reports the failure of a request. -/
def failure (error : String) (r : Request) : Response := r.bareResponse (.failure error)

end Request

namespace Response

/-- The operation that a response answers. -/
def kind : Response → OperationKind
  | nodeChecked .. => .checkNode
  | podCreated .. => .createPod
  | podDeleted .. => .deletePod
  | captureStarted .. => .startCapture
  | captureStopped .. => .stopCapture
  | downloaded .. => .download
  | interfacesListed .. => .listInterfaces
  | nodesListed .. => .listNodes
  | podsListed .. => .listPods

/-- How the operation went. -/
def outcome : Response → Outcome
  | nodeChecked o .. | podCreated o _ | podDeleted o _ | captureStarted o _
  | captureStopped o .. | downloaded o ..
  | interfacesListed o .. | nodesListed o _ | podsListed o .. => o

/-- The node that a response concerns. -/
def node? : Response → Option String
  | nodeChecked _ n .. | podCreated _ n | podDeleted _ n | captureStarted _ n | captureStopped _ n _
  | downloaded _ n .. | interfacesListed _ n _ | podsListed _ n _ => some n
  | nodesListed .. => none

end Response

end NodeCapture
