import NodeCapture.CommandLine.Command
import NodeCapture.CommandLine.Errand
import NodeCapture.Moment
import NodeCapture.Number

/-!
# Capturing

    The run of a capture goes from a node without a debug pod to a downloaded file and
    back: the debug pod is made ready, the filters are set, the capture is started,
    stopped after some time and downloaded, and last the debug pod is removed, whatever
    went wrong. Other commands do the first or the last of this alone, or show the
    filter only.
-/

namespace NodeCapture

/-- Reads transports by their names, in any case. -/
def readTransports (names : List String) : Except UnknownName TransportSet := do
  return TransportSet.ofList (← names.mapM (fun name => Named.read (lower name)))

/-- The direction between two pods. -/
def pairDirectionOf (bothWays : Bool) : PairDirection :=
  if bothWays then .bidirectional else .sourceToDestination

namespace TrafficOptions

/-- The scenario of a preview, in which pods are given by their addresses. -/
def previewScenario (t : TrafficOptions) : Option Scenario :=
  let podAt (address : String) : Pod := ⟨address, address⟩
  match t.pod with
  | some address => some (.specificPod (some (podAt address)) t.direction)
  | none =>
    if t.source.isNone && t.dest.isNone then none
    else
      some (.twoPods none (t.source.map podAt) none (t.dest.map podAt) (pairDirectionOf t.bothWays))

/-- The selection of a preview. A protocol takes the place of a port and transports. -/
def preview (t : TrafficOptions) (transports : TransportSet) :
    Except AppProtocol.Unknown Selection := do
  match ← AppProtocol.lookup t.protocol with
  | some p =>
    return { scenario := t.previewScenario, appProtocol := some p, port := some p.port,
             transports := p.transports }
  | none => return { scenario := t.previewScenario, port := t.port, transports := transports }

end TrafficOptions

namespace Errand

variable (kubectl : Kubectl)

/-- A pod on a node, by its name. -/
def findPod (name pod : String) : Errand Pod := do
  carryOut kubectl .listNodes
  carryOut kubectl (.listPods name)
  let s ← session
  match s.reference.get? name with
  | none => fail (.reportedOr s.error (.unlisted name))
  | some item =>
    match (item.pods.getD []).find? (fun p => p.name == pod) with
    | some p => return p
    | none => fail (.unknownPod pod name)

/-- A pod on a node, if one is asked for. -/
def findPod? (name : String) : Option String → Errand (Option Pod)
  | some pod => some <$> findPod kubectl name pod
  | none => return none

/-- Makes the debug pod of a node ready for a capture. -/
def preparePod (name : String) : Errand Unit := do
  check kubectl name
  if (← node name).status = .clean then
    say ("🚀 Creating debug pod on " ++ name ++ "...")
    carryOut kubectl (.createPod name)
  let n ← node name
  if n.status = .captureRunning then fail (.alreadyRunning (n.captureName.getD "") name)
  if n.status ≠ .podRunning then fail (.reportedOr n.error (.inStatus name n.status))

/-- Removes the debug pod of a node: stops its capture first, and checks the node where
    nothing is known of it. -/
def removePod (name : String) : Errand Unit := do
  if (← node name).status = .unknown then carryOut kubectl (.checkNode name)
  if (← node name).status = .captureRunning then carryOut kubectl (.stopCapture name)
  if (← node name).status = .unknown then carryOut kubectl (.checkNode name)
  carryOut kubectl (.deletePod name)

/-- Sets the scenario for the pods that are asked for. -/
def setScenario (o : RunOptions) : Errand Unit := do
  match o.traffic.pod with
  | some pod =>
    let p ← findPod kubectl o.node pod
    carryOut kubectl (.setScenario o.node (some (.specificPod (some p) o.traffic.direction)))
  | none =>
    if o.traffic.source.isNone && o.traffic.dest.isNone then return
    let sourceNode := o.sourceNode.getD o.node
    let destNode := o.destNode.getD o.node
    let source ← findPod? kubectl sourceNode o.traffic.source
    let dest ← findPod? kubectl destNode o.traffic.dest
    carryOut kubectl (.setScenario o.node
      (some
        (.twoPods (some sourceNode) source (some destNode) dest
          (pairDirectionOf o.traffic.bothWays))))

/-- Sets the filters that are asked for: endpoints, interface, port and transports, then a
    protocol, then a text. -/
def setFilters (o : RunOptions) : Errand Unit := do
  setScenario kubectl o
  let transports ← expect .transport (readTransports o.traffic.transports)
  let change : SelectionChange :=
    { interface := o.interface.map some
      port := (chosenPort o.traffic.port).map some
      transports := if o.traffic.transports.isEmpty then none else some transports }
  if change.interface.isSome || change.port.isSome || change.transports.isSome then
    carryOut kubectl (.setFilters o.node change)
  match ← expect .protocol (AppProtocol.lookup o.traffic.protocol) with
  | some p => carryOut kubectl (.setProtocol o.node (some p))
  | none => pure ()
  match o.filterText with
  | some text => carryOut kubectl (.setFilterText o.node (some text))
  | none => pure ()

/-- Where the file of a capture goes: into a directory under its own name, or else to the
    path itself. -/
def downloadPath (files : LocalFiles) (output capture : String) : String :=
  if files.leadsToDirectory output then
    (if output.isEmpty then "" else output ++ "/") ++ capture ++ ".cap"
  else output

/-- Takes a capture and downloads its file. -/
def capture (now : Moment) (wakes : Binary64 → Bool) (o : RunOptions) : Errand Unit := do
  let name := now.captureName
  let filterText := (nonEmpty (← node o.node).selection.filterText).getD "none"
  say ("🎬 Starting capture " ++ name ++ " on " ++ o.node ++ " (filter: " ++ filterText ++ ")")
  carryOut kubectl (.startCapture o.node name)
  let n ← node o.node
  if n.status ≠ .captureRunning then fail (.reportedOr n.error .notStarted)
  say ("⏳ Capturing for " ++ o.duration.general ++ "s...")
  wait wakes o.duration
  carryOut kubectl (.stopCapture o.node)
  let n ← node o.node
  if n.status ≠ .podRunning then fail (.reportedOr n.error .notStopped)
  n.captures.getLast?.toList.forM (fun c =>
    say ("🛑 Capture " ++ c.name ++ " stopped (" ++ integerText c.sizeKb ++ " KB)"))
  carryOut kubectl (.download o.node name (downloadPath (← get).station.bench.files o.output name))
  let n ← node o.node
  match n.captures.find? (fun c => c.name == name) with
  | some ⟨_, _, .downloaded, some path⟩ => say ("✅ Saved capture to " ++ path)
  | _ => fail (.reportedOr n.error .notDownloaded)

/-- Runs a capture from the debug pod to the file, and removes the debug pod last unless
    it is to be kept. -/
def runCapture (now : Moment) (wakes : Binary64 → Bool) (o : RunOptions) : Errand Unit := do
  preparePod kubectl o.node
  carryOut kubectl (.select (some o.node))
  let captured : Errand Unit := do
    setFilters kubectl o
    capture kubectl now wakes o
  if o.keepsPod then captured
  else withLast captured do
    say ("🧹 Removing debug pod from " ++ o.node ++ "...")
    removePod kubectl o.node

/-- Creates the debug pod of a node. -/
def createPod (name : String) : Errand Unit := do
  preparePod kubectl name
  say ("✅ Debug pod running on " ++ name)

/-- Removes the debug pod of a node. -/
def cleanUp (name : String) : Errand Unit := do
  ensureKnown kubectl name
  removePod kubectl name
  let n ← node name
  if n.status ≠ .clean then fail (.reportedOr n.error (.inStatus name n.status))
  say ("🧹 No debug pod on " ++ name)

end Errand

end NodeCapture
