import NodeCapture.CommandLine.Basic
import NodeCapture.Proofs.ChosenFilters
import NodeCapture.Proofs.ListedPods

/-! # Previews

    The filter of a capture can be looked at without a cluster, with addresses
    in the place of pods.  `ByAddress` relates the options of a run to those of
    a preview, by the pods that kubectl listed.  There is one preview of a run
    (`previewFilter_unique`); it shows what a capture would be started with on a
    node on which that traffic is selected, whichever changes led there
    (`Located.previewed`). -/

namespace NodeCapture

/-- The options of a preview are those of a run, with addresses in the place of
    pods.  Where one pod is asked for, a pair of pods is not looked at. -/
structure ByAddress (exchanges : List Exchange) (o : RunOptions) (t : TrafficOptions) : Prop where
  pod : Option.Rel (AddressOf exchanges o.node) o.traffic.pod t.pod
  source : o.traffic.pod = none →
    Option.Rel (AddressOf exchanges (o.sourceNode.getD o.node)) o.traffic.source t.source
  dest : o.traffic.pod = none →
    Option.Rel (AddressOf exchanges (o.destNode.getD o.node)) o.traffic.dest t.dest
  direction : t.direction = o.traffic.direction
  bothWays : t.bothWays = o.traffic.bothWays
  protocol : t.protocol = o.traffic.protocol
  port : t.port = o.traffic.port
  transports : t.transports = o.traffic.transports

/-- An option that asks for a pod is not empty, and so can be given on a command
    line. -/
def TrafficOptions.Given (t : TrafficOptions) : Prop :=
  t.pod ≠ some "" ∧ t.source ≠ some "" ∧ t.dest ≠ some ""

namespace ByAddress

variable {exchanges before : List Exchange} {o : RunOptions} {t t' : TrafficOptions}

/-- Addresses that were listed stay so, whatever comes later. -/
theorem append (h : ByAddress before o t) (later : List Exchange) :
    ByAddress (later ++ before) o t where
  pod := addresses_append h.pod later
  source asked := addresses_append (h.source asked) later
  dest asked := addresses_append (h.dest asked) later
  direction := h.direction
  bothWays := h.bothWays
  protocol := h.protocol
  port := h.port
  transports := h.transports

/-- The address of the one pod that is asked for. -/
theorem of_pod {pod address : String} (asked : o.traffic.pod = some pod)
    (h : AddressOf exchanges o.node pod address) :
    ByAddress exchanges o { o.traffic with pod := some address } where
  pod := by
    rw [asked]
    exact .some h
  source none_asked := nomatch asked.symm.trans none_asked
  dest none_asked := nomatch asked.symm.trans none_asked
  direction := rfl
  bothWays := rfl
  protocol := rfl
  port := rfl
  transports := rfl

/-- The addresses of a pair of pods, of which any may be left out. -/
theorem of_pair {source dest : Option String} (asked : o.traffic.pod = none)
    (hsource : Option.Rel (AddressOf exchanges (o.sourceNode.getD o.node)) o.traffic.source source)
    (hdest : Option.Rel (AddressOf exchanges (o.destNode.getD o.node)) o.traffic.dest dest) :
    ByAddress exchanges o { o.traffic with source := source, dest := dest } where
  pod := by
    rw [asked]
    exact .none
  source _ := hsource
  dest _ := hdest
  direction := rfl
  bothWays := rfl
  protocol := rfl
  port := rfl
  transports := rfl

/-- The addresses of pods are there to be given to a preview. -/
theorem given (h : ByAddress exchanges o t) : ∃ t, ByAddress exchanges o t ∧ t.Given := by
  cases hpod : o.traffic.pod with
  | some pod =>
      refine ⟨{ t with source := none, dest := none }, { h with
        source := fun asked => nomatch hpod.symm.trans asked
        dest := fun asked => nomatch hpod.symm.trans asked }, ?_⟩
      exact ⟨addresses_ne_empty h.pod, nofun, nofun⟩
  | none =>
      exact ⟨t, h, addresses_ne_empty h.pod, addresses_ne_empty (h.source hpod),
        addresses_ne_empty (h.dest hpod)⟩

/-- The scenario of a preview is determined by the listed addresses. -/
theorem previewScenario_unique {session : Session} (listed : PodsAsListed exchanges session)
    (h : ByAddress exchanges o t) (h' : ByAddress exchanges o t') :
    t.previewScenario = t'.previewScenario := by
  have hpod := addresses_unique listed h.pod h'.pod
  rw [TrafficOptions.previewScenario, TrafficOptions.previewScenario, hpod,
    h.direction.trans h'.direction.symm]
  cases hnone : t'.pod with
  | some address => rfl
  | none =>
      have asked : o.traffic.pod = none := by
        have hrel := h'.pod
        rw [hnone] at hrel
        generalize o.traffic.pod = pod at hrel
        cases hrel
        rfl
      rw [addresses_unique listed (h.source asked) (h'.source asked),
        addresses_unique listed (h.dest asked) (h'.dest asked),
        h.bothWays.trans h'.bothWays.symm]

/-- There is one preview of a run. -/
theorem previewFilter_unique {session : Session} (listed : PodsAsListed exchanges session)
    (h : ByAddress exchanges o t) (h' : ByAddress exchanges o t') :
    Workplace.previewFilter t = Workplace.previewFilter t' := by
  have hpreview : t.preview = t'.preview := by
    funext transports
    rw [TrafficOptions.preview, TrafficOptions.preview, h.previewScenario_unique listed h',
      h.protocol.trans h'.protocol.symm, h.port.trans h'.port.symm]
  rw [Workplace.previewFilter, Workplace.previewFilter, hpreview,
    h.transports.trans h'.transports.symm]

end ByAddress

/-! ## Traffic that is selected -/

/-- A pair of pods is looked for by their addresses only. -/
theorem TrafficOptions.endpointParts_pair {t : TrafficOptions} (asked : t.pod = none)
    (sourceNode destNode : Option String) (source dest : Option Pod) :
    endpointParts { t with
        source := source.map Pod.address
        dest := dest.map Pod.address : TrafficOptions }.previewScenario
      = endpointParts (some (.twoPods sourceNode source destNode dest
          (pairDirectionOf t.bothWays))) := by
  rw [previewScenario, asked]
  cases source <;> cases dest <;> rfl

/-- It makes no difference whether a port of zero is left out before or here. -/
theorem transportParts_chosenPort (port : Option Int) (transports : TransportSet) :
    transportParts (chosenPort port) transports = transportParts port transports := by
  have hsame : chosenPort (chosenPort port) = chosenPort port := by
    cases port with
    | none => rfl
    | some n =>
        by_cases hn : n = 0
        · simp [chosenPort, hn]
        · simp [chosenPort, hn]
  rw [transportParts, transportParts, hsame]

/-- A ready node on which some traffic is selected, by changes from which the
    filter text was derived. -/
structure Node.Selects (n : Node) (interface : Option String) (endpoints : List String)
    (port : Option Int) (transports : TransportSet) : Prop where
  ready : n.Ready
  interface : n.selection.interface = interface
  endpoints : endpointParts n.selection.scenario = endpoints
  port : n.selection.port = port
  transports : n.selection.transports = transports
  derived : n.selection.Holds none

namespace Node.Selects

variable {n n' : Node} {interface : Option String} {endpoints : List String} {port : Option Int}
  {transports : TransportSet}

/-- A ready node with new choices selects everything. -/
theorem of_ready (ready : n.Ready) (fresh : n.selection = {}) : n.Selects none [] none {} where
  ready := ready
  interface := by rw [fresh]
  endpoints := by
    rw [fresh]
    rfl
  port := by rw [fresh]
  transports := by rw [fresh]
  derived := .unset (by rw [fresh])

/-- What is selected is told by the status and the choices. -/
theorem congr (h : n.Selects interface endpoints port transports) (status : n'.status = n.status)
    (selection : n'.selection = n.selection) : n'.Selects interface endpoints port transports where
  ready := status.trans h.ready
  interface := selection ▸ h.interface
  endpoints := selection ▸ h.endpoints
  port := selection ▸ h.port
  transports := selection ▸ h.transports
  derived := selection ▸ h.derived

/-- A scenario selects its endpoints. -/
theorem setScenario (h : n.Selects interface endpoints port transports)
    (scenario : Option Scenario) :
    (n.setScenario scenario).Selects interface (endpointParts scenario) port transports where
  ready := h.ready
  interface := h.interface
  endpoints := rfl
  port := h.port
  transports := h.transports
  derived := .derived rfl

/-- A change of the choices selects what it sets, and leaves the endpoints as
    they are. -/
theorem change (h : n.Selects interface endpoints port transports) {c : SelectionChange}
    {interface' : Option String} {port' : Option Int} {transports' : TransportSet}
    (hscenario : c.scenario = none) (hinterface : c.interface.getD interface = interface')
    (hport : c.port.getD port = port') (htransports : c.transports.getD transports = transports') :
    (n.setSelection (n.selection.change c)).Selects interface' endpoints port' transports' where
  ready := h.ready
  interface := (congrArg c.interface.getD h.interface).trans hinterface
  endpoints := by
    show endpointParts (c.scenario.getD n.selection.scenario) = endpoints
    rw [hscenario]
    exact h.endpoints
  port := (congrArg c.port.getD h.port).trans hport
  transports := (congrArg c.transports.getD h.transports).trans htransports
  derived := .derived rfl

/-- A protocol selects its port and transports. -/
theorem setAppProtocol (h : n.Selects interface endpoints port transports) (p : AppProtocol) :
    (n.setAppProtocol (some p)).Selects interface endpoints (some p.port) p.transports where
  ready := h.ready
  interface := h.interface
  endpoints := h.endpoints
  port := rfl
  transports := rfl
  derived := .derived rfl

/-- A capture starts with the text that the selection comes to. -/
theorem startFilters (h : n.Selects interface endpoints port transports) :
    Orchestrator.startFilters n = ⟨interface, nonEmpty (some
      (String.intercalate " and " (transportParts port transports ++ endpoints)))⟩ := by
  rw [h.derived.startFilters, Selection.chosen, derivedFilter, filterParts, h.interface,
    h.endpoints, h.port, h.transports]
  rfl

end Node.Selects

section Selected

variable {o : RunOptions} {later : List Exchange} {n : Node}

/-- On a node the endpoints are selected as in a preview. -/
def Located (o : RunOptions) (interface : Option String) (port : Option Int)
    (transports : TransportSet) (later : List Exchange) (n : Node) : Prop :=
  ∃ t, ByAddress later o t
    ∧ n.Selects interface (endpointParts t.previewScenario) port transports

/-- A capture would be started as a preview shows. -/
def Previewed (o : RunOptions) (later : List Exchange) (n : Node) : Prop :=
  ∃ t text, ByAddress later o t
    ∧ Workplace.previewFilter t = { ending := .succeeded, printed := [text] }
    ∧ Orchestrator.startFilters n = ⟨o.interface, nonEmpty (some text)⟩

/-- A node on which endpoints are selected is ready. -/
theorem Located.ready {interface : Option String} {port : Option Int} {transports : TransportSet}
    (h : Located o interface port transports later n) : n.Ready := by
  obtain ⟨t, -, selects⟩ := h
  exact selects.ready

/-- Without a protocol, the port and the transports are those that are asked
    for. -/
theorem Located.previewed {transports : TransportSet}
    (hread : readTransports o.traffic.transports = .ok transports)
    (hlookup : AppProtocol.lookup o.traffic.protocol = .ok none)
    (h : Located o o.interface (chosenPort o.traffic.port) transports later n) :
    Previewed o later n := by
  obtain ⟨t, address, selects⟩ := h
  refine ⟨t, _, address, ?_, selects.startFilters⟩
  rw [Workplace.previewFilter, address.transports, hread, transportParts_chosenPort, ← address.port]
  simp only [TrafficOptions.preview, address.protocol, hlookup]
  rfl

/-- With a protocol they do not count, though transports must be known. -/
theorem Located.previewed_of_protocol {transports : TransportSet} {p : AppProtocol}
    (hread : readTransports o.traffic.transports = .ok transports)
    (hlookup : AppProtocol.lookup o.traffic.protocol = .ok (some p))
    (h : Located o o.interface (some p.port) p.transports later n) : Previewed o later n := by
  obtain ⟨t, address, selects⟩ := h
  refine ⟨t, _, address, ?_, selects.startFilters⟩
  rw [Workplace.previewFilter, address.transports, hread]
  simp only [TrafficOptions.preview, address.protocol, hlookup]
  rfl

end Selected

end NodeCapture
