import NodeCapture.Json.Writer
import NodeCapture.Session.Loose

/-!
# Responses that were never checked

    A response object can be built without a check, so that any of its attributes may be
    absent or hold any value. Folding reads the attributes one by one as it needs them,
    and takes over what it reads. A fault in reading is recorded like an invalid
    response, with its wording. Recording it needs the node once more: a list or an
    object in its place is a fault again, which escapes.
-/

namespace NodeCapture

/-- What goes wrong in reading an attribute. -/
inductive FieldFault where
  | absent (title field : String)
  | notIterable (value : Json)
  | noField (value : Json) (field : String)
  | noKey (value : Json)

/-- The wording of a fault. -/
def FieldFault.message : FieldFault → String
  | absent title field => "'" ++ title ++ "' object has no attribute '" ++ field ++ "'"
  | notIterable value => "'" ++ value.kindWord ++ "' object is not iterable"
  | noField value field => "'" ++ value.kindWord ++ "' object has no attribute '" ++ field ++ "'"
  | noKey value => "unhashable type: '" ++ value.kindWord ++ "'"

/-- What reading an attribute yields. -/
abbrev FieldRead (α : Type) := Except FieldFault α

/-- The records that a response object holds instead of a JSON value in the attribute that
    is declared to hold them. -/
inductive Records where
  | none
  | files (files : List CaptureFile)
  | file (file : CaptureFile)
  | pods (pods : List Pod)

/-- A response object: its attributes, and the records that it holds; `kind` is none for
    one of no operation. -/
structure ResponseObject where
  kind : Option OperationKind
  fields : List (String × Json)
  records : Records := .none

/-- The optional attributes of responses and their defaults. -/
def defaultFields : List (String × Json) :=
  [("error_message", .null), ("is_debug_pod_running", .bool false), ("running_capture", .null),
    ("completed_captures", .array []), ("capture", .null), ("local_capture_path", .null),
    ("value", .array [])]

/-- The object that is built from some fields without a check. -/
def ResponseObject.construct (kind : Option OperationKind) (fields : List (String × Json)) :
    ResponseObject :=
  ⟨kind, fields ++ defaultFields, .none⟩

/-- The general error of an operation that failed. -/
def OperationKind.failureText : OperationKind → String
  | checkNode => "Node check failed"
  | createPod => "Failed to create debug pod"
  | deletePod => "Failed to delete debug pod"
  | startCapture => "Failed to start capture"
  | stopCapture => "Failed to stop capture"
  | download => "Download failed"
  | listInterfaces => "Failed to list interfaces"
  | listNodes => "Failed to list nodes"
  | listPods => "Failed to list pods on "

/-- The items of a value that can be gone through. -/
def Json.iterated : Json → FieldRead (List Json)
  | .array items => .ok items
  | .string s => .ok (s.toList.map (fun c => .string (String.singleton c)))
  | .object members => .ok (members.map (fun m => .string m.1))
  | value => .error (.notIterable value)

/-- Keys that a value lists, each of which must be one. -/
def Json.iteratedKeys (value : Json) : FieldRead (List Json) := do
  let items ← value.iterated
  match items.find? (fun item => item.key?.isNone) with
  | some item => .error (.noKey item)
  | none => return items

/-- Records that a value lists. No JSON value has the fields of a record, so that there
    must be none. -/
def Json.iteratedRecords {α : Type} (value : Json) : FieldRead (List α) := do
  match ← value.iterated with
  | [] => return []
  | item :: _ => .error (.noField item "name")

namespace ResponseObject

variable (r : ResponseObject) (kind : OperationKind)

/-- An attribute, if it is there. -/
def field? (name : String) : Option Json := Json.lookup? name r.fields

/-- An attribute. -/
def field (name : String) : FieldRead Json :=
  match r.field? name with
  | some value => .ok value
  | none => .error (.absent kind.responseTitle name)

/-- Whether the operation succeeded. -/
def succeeded : FieldRead Bool := do return (← r.field kind "succeeded").isTruthy

/-- The error, or a general text where it is none. -/
def errorOr (text : String) : FieldRead Json := do
  let error ← r.field kind "error_message"
  return if error.isTruthy then error else .string text

/-- The completed captures that a check reports. -/
def files : FieldRead (List CaptureFile) :=
  match r.records with
  | .files files => .ok files
  | _ => do (← r.field kind "completed_captures").iteratedRecords

/-- The capture file that a stop reports. -/
def file? : FieldRead (Option CaptureFile) :=
  match r.records with
  | .file file => .ok (some file)
  | _ => do
    match ← r.field kind "capture" with
    | .null => return none
    | value => .error (.noField value "name")

/-- The pods that a listing reports. -/
def pods : FieldRead (List Pod) :=
  match r.records with
  | .pods pods => .ok pods
  | _ => do (← r.field kind "value").iteratedRecords

/-! ## Reading -/

/-- The state of a node after a failure. -/
def settleFailure (n : LooseNode) : FieldRead LooseNode := do
  let error ← r.errorOr kind kind.failureText
  match kind with
  | .deletePod => return { n.fail error with captures := [] }
  | .download =>
    let capture ← r.field kind "capture_name"
    return { n.updateCapture capture
      (fun c => { c with status := .completed, localPath := .null }) with error := error }
  | .listInterfaces => return { n with interfaces := .notLoaded, error := error }
  | _ => return n.fail error

/-- The state of a node after a check. -/
def settleCheck (n : LooseNode) : FieldRead LooseNode := do
  let podRunning := (← r.field kind "is_debug_pod_running").isTruthy
  let running ← if podRunning then r.field kind "running_capture" else pure .null
  let files ← r.files kind
  return { n with
    status := if podRunning then
      (if running.key? = some .null then .podRunning else .captureRunning) else .clean
    error := .null
    captureName := running
    captures := files.map (fun file => ⟨file.name, file.sizeKb, .completed, .null⟩) }

/-- The state of a node after the stop of a capture; the file must be that of the running
    capture. -/
def settleStop (n : LooseNode) : FieldRead LooseNode := do
  let mismatch : Json :=
    .string ("Stop capture response does not match running capture " ++ n.captureName.inMessage)
  match ← r.file? kind with
  | none => return n.fail mismatch
  | some file =>
    if n.captureName.key? = some (.text file.name) then
      return { n with
        status := .podRunning
        error := .null
        captureName := .null
        captures := n.captures ++ [⟨file.name, file.sizeKb, .completed, .null⟩] }
    else return n.fail mismatch

/-- The state of a node after a success. -/
def settleSuccess (n : LooseNode) : FieldRead LooseNode :=
  match kind with
  | .checkNode => r.settleCheck kind n
  | .createPod => return { n with status := .podRunning, error := .null }
  | .deletePod =>
    return { n with status := .clean, error := .null, captureName := .null, captures := [] }
  | .startCapture => return { n with status := .captureRunning, error := .null }
  | .stopCapture => r.settleStop kind n
  | .download => do
    let path ← r.field kind "local_capture_path"
    let capture ← r.field kind "capture_name"
    return { n.updateCapture capture
      (fun c => { c with status := .downloaded, localPath := path }) with error := .null }
  | .listInterfaces => do
    let names ← (← r.field kind "value").iterated
    return { n with interfaces := .loaded names }
  | .listNodes | .listPods => return n

/-- The state of a node after a response. -/
def settle (n : LooseNode) : FieldRead LooseNode := do
  if ← r.succeeded kind then r.settleSuccess kind n else r.settleFailure kind n

/-- The session after a node list. -/
def applyNodes (s : LooseSession) : FieldRead LooseSession := do
  if ← r.succeeded kind then return s.setNodes (← (← r.field kind "value").iteratedKeys)
  else return s.failNodes (← r.errorOr kind kind.failureText)

/-- The session after a pod list; one of a node that is not listed is dropped. -/
def applyPods (s : LooseSession) : FieldRead LooseSession := do
  let node ← r.field kind "node"
  if s.lists node then
    if ← r.succeeded kind then return s.setPods node (.loaded (← r.pods kind))
    else
      let error ← r.errorOr kind (kind.failureText ++ node.inMessage)
      match node.key? with
      | some key => return s.failPods node key error
      | none => .error (.noKey node)
  else return s

/-- The error of a response that a node is not waiting for. -/
def unexpectedText (node : Json) (status : NodeStatus) : String :=
  Session.unexpectedText kind node.inMessage status

/-- The session after a response for a node: nothing happens where the node has no state,
    and an error is left where it waits for another response. -/
def applyNode (s : LooseSession) : FieldRead LooseSession := do
  let node ← r.field kind "node"
  match node.key? with
  | none => .error (.noKey node)
  | some key =>
    match s.node? key with
    | none => return s
    | some n =>
      if kind.awaitedStatus?.all (fun awaited => n.status = awaited) then
        let n' ← r.settle kind n
        return s.updateNode key (fun _ => n')
      else
        return s.updateNode key (fun n => n.withError (.string (unexpectedText kind node n.status)))

/-- The session after a response, or the fault in reading it. -/
def apply (s : LooseSession) : FieldRead LooseSession :=
  match kind with
  | .listNodes => r.applyNodes kind s
  | .listPods => r.applyPods kind s
  | _ => r.applyNode kind s

end ResponseObject

/-! ## Recording a fault -/

/-- What a response that could not be read does to the state of its node. No capture is
    named, so that downloads stay as they are. -/
def LooseNode.invalidate (kind : OperationKind) (error : Json) (n : LooseNode) : LooseNode :=
  match kind with
  | .download => n.withError error
  | .listInterfaces =>
    { n with
      interfaces := if n.interfaces.isLoading then .notLoaded else n.interfaces
      error := error }
  | _ =>
    if kind.awaitedStatus?.all (fun awaited => n.status = awaited) then n.fail error
    else n.withError error

namespace LooseSession

/-- Records a response to an operation that could not be read, for its node, if there is
    one with a state. Without a node the error is one of the session. -/
def recordFault (s : LooseSession) (kind : OperationKind) (node : Json) (error : Json) :
    FieldRead LooseSession :=
  if kind = .listNodes then return s.failNodes error
  else
    match node.key? with
    | none => .error (.noKey node)
    | some .null => return { s with error := error }
    | some key =>
      if (s.node? key).isSome then
        if kind = .listPods then return s.failPods node key error
        else return s.updateNode key (LooseNode.invalidate kind error)
      else return { s with error := error }

/-- Folds a response object. Only a fault that cannot be recorded is left over. -/
def foldObject (s : LooseSession) (r : ResponseObject) : FieldRead LooseSession :=
  match r.kind with
  | none => .ok s
  | some kind =>
    match r.apply kind s with
    | .ok s => .ok s
    | .error fault =>
      s.recordFault kind ((r.field? "node").getD .null)
        (.string (Session.invalidText kind.responseTitle ++ ": " ++ fault.message))

end LooseSession

/-! ## Responses that were checked -/

/-- The attributes that a response shares with all others. -/
def Response.commonFields (r : Response) : List (String × Json) :=
  [("succeeded", .bool r.outcome.succeeded), ("error_message", .ofText? r.outcome.error)]
    ++ match r.node? with
      | some node => [("node", .string node)]
      | none => []

/-- A response as an object. -/
def Response.object (r : Response) : ResponseObject :=
  match r with
  | .nodeChecked _ _ podRunning running completed =>
    ⟨some r.kind,
      r.commonFields
        ++ [("is_debug_pod_running", .bool podRunning), ("running_capture", .ofText? running)],
      .files completed⟩
  | .captureStopped _ _ (some file) => ⟨some r.kind, r.commonFields, .file file⟩
  | .captureStopped _ _ none => ⟨some r.kind, r.commonFields ++ [("capture", .null)], .none⟩
  | .downloaded _ _ capture path =>
    ⟨some r.kind, r.commonFields
      ++ [("capture_name", .string capture), ("local_capture_path", .ofText? path)], .none⟩
  | .interfacesListed _ _ names =>
    ⟨some r.kind, r.commonFields ++ [("value", .ofTexts names)], .none⟩
  | .nodesListed _ names => ⟨some r.kind, r.commonFields ++ [("value", .ofTexts names)], .none⟩
  | .podsListed _ _ pods => ⟨some r.kind, r.commonFields, .pods pods⟩
  | _ => ⟨some r.kind, r.commonFields, .none⟩

end NodeCapture
