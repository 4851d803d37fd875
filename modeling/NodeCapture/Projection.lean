import NodeCapture.Json.Basic
import NodeCapture.Session

/-!
# The session as JSON

    What a user interface sees of a session: every field, and for each node the actions
    that its status allows.
-/

namespace NodeCapture

/-- The actions that a status allows. -/
def NodeStatus.actions : NodeStatus → List String
  | .unknown => ["check"]
  | .clean => ["create_debug_pod"]
  | .podRunning => ["delete_debug_pod", "start_capture", "download"]
  | .captureRunning => ["stop_capture", "download"]
  | _ => []

/-- A cell with its value, if it is loaded. -/
def Cell.describe {α : Type} (value : α → Json) (cell : Cell α) : Json :=
  match cell with
  | .loaded v => .object [("state", .string cell.stateName), ("value", value v)]
  | _ => .object [("state", .string cell.stateName)]

/-- A value, or null where there is none. -/
def describeOption {α : Type} (value : α → Json) : Option α → Json
  | some v => value v
  | none => .null

/-- A scenario. -/
def Scenario.describe (scenario : Scenario) : Json :=
  match scenario with
  | .specificPod pod direction =>
    .object [("kind", .string (Named.name scenario.kind)), ("pod", describeOption Pod.toJson pod),
      ("packet_direction", .string (Named.name direction))]
  | .twoPods sourceNode source destNode dest direction =>
    .object [("kind", .string (Named.name scenario.kind)), ("source_node", .ofText? sourceNode),
      ("source_pod", describeOption Pod.toJson source), ("dest_node", .ofText? destNode),
      ("dest_pod", describeOption Pod.toJson dest),
      ("packet_direction", .string (Named.name direction))]

/-- A selection. -/
def Selection.describe (s : Selection) : Json :=
  .object [("interface", .ofText? s.interface),
    ("scenario", describeOption Scenario.describe s.scenario),
    ("app_layer_protocol", .ofText? (s.appProtocol.map Named.name)),
    ("port", describeOption Json.int s.port),
    ("transport_protocols", .ofTexts s.transports.names),
    ("pcap_filter_string", .ofText? s.filterText)]

/-- A completed capture. -/
def Capture.describe (c : Capture) : Json :=
  .object [("name", .string c.name), ("size_in_kb", .int c.sizeKb),
    ("status", .string (Named.name c.status)), ("downloaded_file_path", .ofText? c.localPath)]

/-- The state of a node. -/
def Node.describe (n : Node) : Json :=
  .object [("status", .string (Named.name n.status)), ("error_message", .ofText? n.error),
    ("current_capture_name", .ofText? n.captureName),
    ("current_capture_filters", n.selection.describe),
    ("completed_captures", .array (n.captures.map Capture.describe)),
    ("capture_interfaces", n.interfaces.describe Json.ofTexts),
    ("actions", .ofTexts n.status.actions)]

/-- A listed node. -/
def ListedNode.describe (item : ListedNode) : Json :=
  .object [("node", .string item.node),
    ("filter_pods", item.pods.describe (fun pods => .array (pods.map Pod.toJson)))]

/-- The reference data. -/
def ReferenceData.describe (d : ReferenceData) : Json :=
  .object [("nodes", d.nodes.describe (fun items => .array (items.map ListedNode.describe)))]

/-- A session. -/
def Session.describe (s : Session) : Json :=
  .object [("cluster_name", .string s.cluster), ("initial_nodes", .ofTexts s.initialNodes),
    ("selected_node", .ofText? s.selected), ("error_message", .ofText? s.error),
    ("nodes", .object (s.nodes.map (fun entry => (entry.1, entry.2.describe)))),
    ("reference_data", s.reference.describe)]

/-! ## Reading descriptions back

    A description of a selection or a node is read back as what it describes. Members
    that are absent have their defaults; of names that no value has the first one found
    is an error. -/

/-- What reading a description yields. -/
abbrev Described (α : Type) := Except UnknownName α

/-- A value by its name, or none for null. -/
def readNamed? (α : Type) [Named α] : Json → Described (Option α)
  | .null => .ok none
  | j => some <$> Named.read j.toText

/-- A value by its name, or a default where the member is absent. -/
def readNamedAt {α : Type} [Named α] (default : α) (name : String) (j : Json) : Described α :=
  match j.get? name with
  | some value => Named.read value.toText
  | none => .ok default

/-- A member that may be absent. -/
def readAt? {α : Type} (name : String) (read : Json → Described α) (j : Json) :
    Described (Option α) :=
  match j.get? name with
  | some value => some <$> read value
  | none => .ok none

/-- A pod, or none. -/
def Pod.read? : Json → Option Pod
  | .object ms => some ⟨(Json.object ms).textAt "name", (Json.object ms).textAt "ip_address"⟩
  | _ => none

/-- A scenario, or none. -/
def Scenario.read? (j : Json) : Described (Option Scenario) :=
  match j with
  | .object _ => do
    match ← (Named.read (j.textAt "kind") : Described ScenarioKind) with
    | .specificPod =>
      return some
        (.specificPod (Pod.read? (j.field "pod"))
          (← readNamedAt .sentAndReceived "packet_direction" j))
    | .twoPods =>
      return some
        (.twoPods (j.textAt? "source_node") (Pod.read? (j.field "source_pod"))
          (j.textAt? "dest_node") (Pod.read? (j.field "dest_pod"))
          (← readNamedAt .bidirectional "packet_direction" j))
  | _ => .ok none

/-- A set of transports. -/
def TransportSet.read (j : Json) : Described TransportSet := do
  return TransportSet.ofList (← j.items.mapM (fun item => Named.read item.toText))

/-- Changes to a selection. -/
def SelectionChange.read (j : Json) : Described SelectionChange := do
  return {
    interface := ← readAt? "interface" (fun v => .ok v.text?) j
    scenario := ← readAt? "scenario" Scenario.read? j
    appProtocol := ← readAt? "app_layer_protocol" (readNamed? AppProtocol) j
    port := ← readAt? "port" (fun v => .ok v.int?) j
    transports := ← readAt? "transport_protocols" TransportSet.read j
    filterText := ← readAt? "pcap_filter_string" (fun v => .ok v.text?) j }

/-- A selection. -/
def Selection.read (j : Json) : Described Selection := do
  return Selection.change {} (← SelectionChange.read j)

/-- A cell. -/
def Cell.read {α : Type} (value : Json → α) (j : Json) : Cell α :=
  match j.textAt "state" with
  | "loading" => .loading
  | "loaded" => .loaded (value (j.field "value"))
  | _ => .notLoaded

/-- A completed capture. -/
def Capture.read (j : Json) : Described Capture := do
  return {
    name := j.textAt "name"
    sizeKb := (j.field "size_in_kb").toInt
    status := ← readNamedAt .completed "status" j
    localPath := j.textAt? "downloaded_file_path" }

/-- The state of a node. -/
def Node.read (j : Json) : Described Node := do
  return {
    status := ← readNamedAt .unknown "status" j
    error := j.textAt? "error_message"
    captureName := j.textAt? "current_capture_name"
    selection := ← Selection.read (j.field "current_capture_filters")
    captures := ← (j.itemsAt "completed_captures").mapM Capture.read
    interfaces := Cell.read (fun v => v.items.map Json.toText) (j.field "capture_interfaces") }

end NodeCapture
