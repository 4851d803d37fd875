import NodeCapture.Filter
import NodeCapture.Message
import NodeCapture.ReferenceData

/-!
# The state of a node

    A node is in one of nine statuses. Five of them are transient: an operation is under
    way that will leave them. An intent applies its transition at once (`mark…`), and
    the response of the operation settles it (`settle…`). A failure goes back to the
    stable status that the transient one came from, or to unknown where that cannot be
    told.
-/

namespace NodeCapture

/-- The life of the debug pod and of a capture on a node. -/
inductive NodeStatus where
  | unknown
  | checking
  | clean
  | creatingPod
  | deletingPod
  | podRunning
  | captureStarting
  | captureRunning
  | captureStopping
  deriving DecidableEq

instance : Named NodeStatus where
  title := "NodeStatus"
  values :=
    [.unknown, .checking, .clean, .creatingPod, .deletingPod, .podRunning, .captureStarting,
      .captureRunning, .captureStopping]
  name
    | .unknown => "Unknown"
    | .checking => "Checking"
    | .clean => "Clean"
    | .creatingPod => "CreatingDebugPod"
    | .deletingPod => "DeletingDebugPod"
    | .podRunning => "DebugPodRunning"
    | .captureStarting => "CaptureStarting"
    | .captureRunning => "CaptureRunning"
    | .captureStopping => "CaptureStopping"

namespace NodeStatus

/-- The statuses in which a capture has a name. -/
def hasCapture : NodeStatus → Bool
  | captureStarting | captureRunning | captureStopping => true
  | _ => false

/-- The statuses in which the debug pod can run commands. -/
def hasPod : NodeStatus → Bool
  | podRunning | captureRunning => true
  | _ => false

/-- The statuses in which filters can be changed. -/
def isEditable (status : NodeStatus) : Bool := !status.hasCapture

/-- Where a failure leads from a status. -/
def rollback : NodeStatus → NodeStatus
  | checking | creatingPod | deletingPod | captureStopping => unknown
  | captureStarting => podRunning
  | status => status

end NodeStatus

/-- How far the download of a capture file is. -/
inductive DownloadStatus where
  | completed
  | downloading
  | downloaded
  deriving DecidableEq

instance : Named DownloadStatus where
  title := "CaptureStatus"
  values := [.completed, .downloading, .downloaded]
  name
    | .completed => "Completed"
    | .downloading => "Downloading"
    | .downloaded => "Downloaded"

/-- A completed capture on a node. -/
structure Capture where
  name : String
  sizeKb : Int
  status : DownloadStatus := .completed
  localPath : Option String := none
  deriving DecidableEq

/-- The state of a node. -/
structure Node where
  status : NodeStatus := .unknown
  error : Option String := none
  captureName : Option String := none
  selection : Selection := {}
  captures : List Capture := []
  interfaces : Cell (List String) := .notLoaded
  deriving DecidableEq

namespace Node

/-- The error of an outcome, or a general text where it has none. -/
def errorOr (outcome : Outcome) (text : String) : String := (nonEmpty outcome.error).getD text

/-- Records an error and leaves a transient status for its stable one. -/
def fail (n : Node) (error : String) : Node :=
  let status := n.status.rollback
  { n with
    status := status
    error := some error
    captureName := if status.hasCapture then n.captureName else none }

/-- Records an error and nothing else. -/
def withError (n : Node) (error : String) : Node := { n with error := some error }

/-! ## Transitions of intents -/

/-- A check begins. -/
def markChecking (n : Node) : Node := { n with status := .checking }

/-- The creation of the debug pod begins. -/
def markCreatingPod (n : Node) : Node := { n with status := .creatingPod }

/-- The deletion of the debug pod begins. -/
def markDeletingPod (n : Node) : Node := { n with status := .deletingPod }

/-- The start of a capture begins. -/
def markCaptureStarting (n : Node) (capture : String) : Node :=
  { n with status := .captureStarting, captureName := some capture }

/-- The stop of the capture begins. -/
def markCaptureStopping (n : Node) : Node := { n with status := .captureStopping }

/-- Changes the completed captures of a name. -/
def updateCapture (n : Node) (capture : String) (f : Capture → Capture) : Node :=
  { n with captures := n.captures.map (fun c => if c.name = capture then f c else c) }

/-- The download of a capture begins. -/
def markDownloading (n : Node) (capture : String) : Node :=
  n.updateCapture capture (fun c => { c with status := .downloading })

/-- The listing of the interfaces begins. -/
def markInterfacesLoading (n : Node) : Node := { n with interfaces := .loading }

/-! ## Settling by responses -/

/-- The status that a successful check finds. -/
def checkedStatus (podRunning : Bool) (running : Option String) : NodeStatus :=
  match podRunning, running with
  | false, _ => .clean
  | true, none => .podRunning
  | true, some _ => .captureRunning

/-- Settles a check. -/
def settleCheck (n : Node) (o : Outcome) (podRunning : Bool) (running : Option String)
    (completed : List CaptureFile) : Node :=
  if o.succeeded then
    { n with
      status := checkedStatus podRunning running
      error := none
      captureName := if podRunning then running else none
      captures := completed.map (fun c => { name := c.name, sizeKb := c.sizeKb }) }
  else n.fail (errorOr o "Node check failed")

/-- Settles the creation of the debug pod. -/
def settleCreation (n : Node) (o : Outcome) : Node :=
  if o.succeeded then { n with status := .podRunning, error := none }
  else n.fail (errorOr o "Failed to create debug pod")

/-- Settles the deletion of the debug pod; the capture files are lost either way. -/
def settleDeletion (n : Node) (o : Outcome) : Node :=
  if o.succeeded then
    { n with status := .clean, error := none, captureName := none, captures := [] }
  else { n.fail (errorOr o "Failed to delete debug pod") with captures := [] }

/-- Settles the start of a capture. -/
def settleStart (n : Node) (o : Outcome) : Node :=
  if o.succeeded then { n with status := .captureRunning, error := none }
  else n.fail (errorOr o "Failed to start capture")

/-- Settles the stop of the capture; the file that is reported must be that of the running
    capture. -/
def settleStop (n : Node) (o : Outcome) (capture : Option CaptureFile) : Node :=
  if o.succeeded then
    match capture with
    | some file =>
      if some file.name = n.captureName then
        { n with
          status := .podRunning
          error := none
          captureName := none
          captures := n.captures ++ [{ name := file.name, sizeKb := file.sizeKb }] }
      else n.fail mismatch
    | none => n.fail mismatch
  else n.fail (errorOr o "Failed to stop capture")
where
  /-- The error for a file of another capture. -/
  mismatch : String := "Stop capture response does not match running capture "
    ++ n.captureName.getD "None"

/-- Settles a download. -/
def settleDownload (n : Node) (o : Outcome) (capture : String) (localPath : Option String) : Node :=
  if o.succeeded then
    { n.updateCapture capture
      (fun c => { c with status := .downloaded, localPath := localPath }) with error := none }
  else
    { n.updateCapture capture
      (fun c => { c with status := .completed, localPath := none }) with
      error := some (errorOr o "Download failed") }

/-- Settles the listing of the interfaces. -/
def settleInterfaces (n : Node) (o : Outcome) (names : List String) : Node :=
  if o.succeeded then { n with interfaces := .loaded names }
  else { n with interfaces := .notLoaded, error := some (errorOr o "Failed to list interfaces") }

/-! ## Filters -/

/-- Derives the filter text from the selection. -/
def refreshFilter (n : Node) : Node :=
  { n with selection := { n.selection with filterText := some (derivedFilter n.selection) } }

/-- Replaces the selection and derives its filter text. -/
def setSelection (n : Node) (s : Selection) : Node := refreshFilter { n with selection := s }

/-- Replaces the scenario. -/
def setScenario (n : Node) (scenario : Option Scenario) : Node :=
  n.setSelection { n.selection with scenario := scenario }

/-- Switches the kind of scenario; a scenario of that kind stays, another one is
    dropped. -/
def selectScenario (n : Node) (kind : Option ScenarioKind) (node : String) : Node :=
  n.setScenario <|
    match kind, n.selection.scenario with
    | none, _ => none
    | some k, some old => if old.kind = k then some old else some (Scenario.fresh node k)
    | some k, none => some (Scenario.fresh node k)

/-- Selects an application protocol, whose port and transports replace the others;
    dropping it keeps them. -/
def setAppProtocol (n : Node) (p : Option AppProtocol) : Node :=
  n.setSelection <|
    match p with
    | none => { n.selection with appProtocol := none }
    | some p =>
      { n.selection with appProtocol := some p, port := some p.port, transports := p.transports }

/-- Replaces the derived filter text by one that was entered. -/
def setFilterText (n : Node) (text : Option String) : Node :=
  { n with selection := { n.selection with filterText := nonEmpty text } }

end Node

/-- Changes to a selection: each field is kept or set. -/
structure SelectionChange where
  interface : Option (Option String) := none
  scenario : Option (Option Scenario) := none
  appProtocol : Option (Option AppProtocol) := none
  port : Option (Option Int) := none
  transports : Option TransportSet := none
  filterText : Option (Option String) := none

/-- Applies changes to a selection. -/
def Selection.change (s : Selection) (c : SelectionChange) : Selection where
  interface := c.interface.getD s.interface
  scenario := c.scenario.getD s.scenario
  appProtocol := c.appProtocol.getD s.appProtocol
  port := c.port.getD s.port
  transports := c.transports.getD s.transports
  filterText := c.filterText.getD s.filterText

end NodeCapture
