import NodeCapture.Message
import NodeCapture.Message.Check

/-!
# Messages as JSON

    Each message is read from an object, of which unknown members are ignored, and
    written as an object of all its fields.
-/

namespace NodeCapture

open Check

/-- The filters of a capture. -/
def CaptureFilters.check : Json → Checked CaptureFilters :=
  record (.notRecord "CaptureFilters") fun ms =>
    (withDefault "interface" (optional text) none ms |>.map CaptureFilters.mk).apply
      (withDefault "pcap_filter_string" (optional text) none ms)

/-- A completed capture. -/
def CaptureFile.check : Json → Checked CaptureFile :=
  record (.notRecord "CompletedCapture") fun ms =>
    (required "name" text ms |>.map CaptureFile.mk).apply (required "size_in_kb" int ms)

/-- A pod. -/
def Pod.check : Json → Checked Pod :=
  record (.notRecord "FilterPodValue") fun ms =>
    (required "name" text ms |>.map Pod.mk).apply (required "ip_address" text ms)

/-- The name of a capture. -/
def checkCaptureName : Json → Checked String
  | .string s => if isCaptureName s then .ok s else .issue .badCaptureName
  | _ => .issue .notText

namespace Request

/-- The members of a request for an operation. -/
def checkMembers (kind : OperationKind) (ms : List (String × Json)) : Checked Request :=
  match kind with
  | .checkNode => (required "node" text ms).map checkNode
  | .createPod => (required "node" text ms).map createPod
  | .deletePod => (required "node" text ms).map deletePod
  | .startCapture =>
    ((required "node" text ms |>.map startCapture).apply
      (required "capture" checkCaptureName ms)).apply
      (withDefault "filters" CaptureFilters.check {} ms)
  | .stopCapture =>
    (required "node" text ms |>.map stopCapture).apply (required "capture" checkCaptureName ms)
  | .download =>
    ((required "node" text ms |>.map download).apply (required "capture" checkCaptureName ms)).apply
      (required "local_path" text ms)
  | .listInterfaces => (required "node" text ms).map listInterfaces
  | .listNodes => .ok listNodes
  | .listPods => (required "node" text ms).map listPods

/-- Reads a request for an operation. -/
def ofJson (kind : OperationKind) (payload : Json) : Except ValidationError Request :=
  (record (.notRecord kind.requestTitle) (checkMembers kind) payload).titled kind.requestTitle

end Request

/-- How an operation went. -/
def Outcome.check (ms : List (String × Json)) : Checked Outcome :=
  (required "succeeded" bool ms |>.map Outcome.mk).apply
    (withDefault "error_message" (optional text) none ms)

namespace Response

/-- The members of the response to an operation. -/
def checkMembers (kind : OperationKind) (ms : List (String × Json)) : Checked Response :=
  let outcome := Outcome.check ms
  let node := required "node" text ms
  match kind with
  | .checkNode =>
    ((((outcome.map nodeChecked).apply node).apply
      (withDefault "is_debug_pod_running" bool false ms)).apply
      (withDefault "running_capture" (optional text) none ms)).apply
      (withDefault "completed_captures" (list CaptureFile.check) [] ms)
  | .createPod => (outcome.map podCreated).apply node
  | .deletePod => (outcome.map podDeleted).apply node
  | .startCapture => (outcome.map captureStarted).apply node
  | .stopCapture =>
    ((outcome.map captureStopped).apply node).apply
      (withDefault "capture" (optional CaptureFile.check) none ms)
  | .download =>
    (((outcome.map downloaded).apply node).apply (required "capture_name" text ms)).apply
      (withDefault "local_capture_path" (optional text) none ms)
  | .listInterfaces =>
    ((outcome.map interfacesListed).apply node).apply (withDefault "value" (list text) [] ms)
  | .listNodes => (outcome.map nodesListed).apply (withDefault "value" (list text) [] ms)
  | .listPods =>
    ((outcome.map podsListed).apply node).apply (withDefault "value" (list Pod.check) [] ms)

/-- Reads the response to an operation. -/
def ofJson (kind : OperationKind) (payload : Json) : Except ValidationError Response :=
  (record (.notRecord kind.responseTitle) (checkMembers kind) payload).titled kind.responseTitle

end Response

/-- The response that reports the failure of a request, of which the error is still to be
    checked. -/
def Request.failureWith (error : Json) (r : Request) : Except ValidationError Response :=
  ((optional text error).under (.field "error_message")
    |>.map (fun e => r.bareResponse ⟨false, e⟩)).titled
    r.kind.responseTitle

/-! ## Writing -/

/-- The object of some filters. -/
def CaptureFilters.toJson (f : CaptureFilters) : Json :=
  .object [("interface", .ofText? f.interface), ("pcap_filter_string", .ofText? f.filterText)]

/-- The object of a completed capture. -/
def CaptureFile.toJson (c : CaptureFile) : Json :=
  .object [("name", .string c.name), ("size_in_kb", .int c.sizeKb)]

/-- The object of a pod. -/
def Pod.toJson (p : Pod) : Json :=
  .object [("name", .string p.name), ("ip_address", .string p.address)]

/-- The fields of a request. -/
def Request.fields : Request → List (String × Json)
  | checkNode n | createPod n | deletePod n | listInterfaces n | listPods n => [("node", .string n)]
  | startCapture n capture filters =>
    [("node", .string n), ("capture", .string capture), ("filters", filters.toJson)]
  | stopCapture n capture => [("node", .string n), ("capture", .string capture)]
  | download n capture path =>
    [("node", .string n), ("capture", .string capture), ("local_path", .string path)]
  | listNodes => []

/-- The fields of an outcome. -/
def Outcome.fields (o : Outcome) : List (String × Json) :=
  [("succeeded", .bool o.succeeded), ("error_message", .ofText? o.error)]

/-- The fields of a response. -/
def Response.fields : Response → List (String × Json)
  | nodeChecked o n podRunning running completed =>
    o.fields ++ [("node", .string n), ("is_debug_pod_running", .bool podRunning),
      ("running_capture", .ofText? running),
      ("completed_captures", .array (completed.map CaptureFile.toJson))]
  | podCreated o n | podDeleted o n | captureStarted o n => o.fields ++ [("node", .string n)]
  | captureStopped o n capture =>
    o.fields ++ [("node", .string n), ("capture", (capture.map CaptureFile.toJson).getD .null)]
  | downloaded o n capture path =>
    o.fields
      ++ [("node", .string n), ("capture_name", .string capture),
          ("local_capture_path", .ofText? path)]
  | interfacesListed o n names => o.fields ++ [("node", .string n), ("value", .ofTexts names)]
  | nodesListed o names => o.fields ++ [("value", .ofTexts names)]
  | podsListed o n pods =>
    o.fields ++ [("node", .string n), ("value", .array (pods.map Pod.toJson))]

end NodeCapture
