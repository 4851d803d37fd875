import NodeCapture.Proofs.NodeList
import NodeCapture.Proofs.StatusTable

/-! # Nodes of a session are accounted for

    A node gets its state when it is selected, when it is checked, or when it is
    listed, and keeps it from then on.  `Session.Accounted` ties the parts of a
    session together: what is selected and what is listed has a state, and what
    has a state was an initial node or was reported by a node list.  The parts
    need each other: a listed node may be selected because it is known, and was
    reported because, being listed, it has a state already. -/

namespace NodeCapture

namespace ReferenceData

variable {d : ReferenceData}

/-- A listed node is among the names. -/
theorem mem_names_of_contains {node : String} (h : d.contains node) : node ∈ d.names := by
  obtain ⟨item, hitem⟩ := Option.isSome_iff_exists.mp h
  rw [← node_of_get? d node hitem]
  exact List.mem_map_of_mem (List.mem_of_find?_eq_some hitem)

/-- Setting pods lists the same nodes as before. -/
theorem names_setPods (d : ReferenceData) (node : String) (pods : Cell (List Pod)) :
    (d.setPods node pods).names = d.names := by
  obtain ⟨nodes⟩ := d
  cases nodes with
  | notLoaded => rfl
  | loading => rfl
  | loaded items =>
      show (items.map _).map ListedNode.node = items.map ListedNode.node
      rw [List.map_map]
      refine List.map_congr_left fun item _ => ?_
      rw [Function.comp_apply]
      split <;> rfl

end ReferenceData

/-- First occurrences are all different. -/
theorem nodup_firstOccurrences (seen names : List String) :
    (firstOccurrences seen names).Nodup := by
  induction names generalizing seen with
  | nil => exact List.nodup_nil
  | cons name rest ih =>
      rw [firstOccurrences]
      split
      · exact ih seen
      · refine List.nodup_cons.mpr ⟨fun hmem => ?_, ih _⟩
        exact (mem_firstOccurrences.mp hmem).2 List.mem_cons_self

/-- A new node list names each of its nodes once. -/
theorem ReferenceData.names_updateNodes (d : ReferenceData) (listed : List String) :
    (d.updateNodes listed).names = firstOccurrences [] listed := by
  show ((firstOccurrences [] listed).map _).map ListedNode.node = _
  rw [List.map_map]
  refine (List.map_congr_left fun name _ => ?_).trans (List.map_id _)
  cases hget : d.get? name with
  | none => simp [hget]
  | some item => simpa [hget] using d.node_of_get? name hget

/-- A new node list has no repetitions, whatever is reported. -/
theorem ReferenceData.nodup_names_updateNodes (d : ReferenceData) (listed : List String) :
    (d.updateNodes listed).names.Nodup := by
  rw [d.names_updateNodes]
  exact nodup_firstOccurrences [] listed

/-- The nodes that a response reports to be those of the cluster. -/
def Response.reports : Response → List String
  | .nodesListed o names => if o.succeeded then names else []
  | _ => []

/-- The nodes that are reported in an event. -/
def Event.reports (e : Event) : List String := (e.response?.map Response.reports).getD []

namespace Session

/-- Every node that a session speaks of is accounted for: the selected one and
    the listed ones, which are distinct, have a state, and those with a state
    come from some sources, as the initial nodes do. -/
structure Accounted (s : Session) (sources : List String) : Prop where
  selected : ∀ name, s.selected = some name → s.hasNode name
  distinct : s.reference.names.Nodup
  listed : ∀ name ∈ s.reference.names, s.hasNode name
  initial : s.initialNodes ⊆ sources
  origin : ∀ name, s.hasNode name → name ∈ sources

variable {s s' : Session} {sources : List String}

/-- A new orchestrator accounts for its initial nodes. -/
theorem accounted_create (cluster : String) (initialNodes : List String) :
    (create cluster initialNodes).Accounted initialNodes where
  selected := fun _ h => nomatch h
  distinct := List.nodup_nil
  listed := fun _ h => absurd h List.not_mem_nil
  initial := List.Subset.refl _
  origin := fun _ h => nomatch h

/-- A change that selects nothing, lists nothing and gives no node a state. -/
theorem Accounted.keep (h : s.Accounted sources) (selected : s'.selected = s.selected)
    (names : s'.reference.names.Sublist s.reference.names)
    (nodes : ∀ name, s'.hasNode name = s.hasNode name)
    (initial : s'.initialNodes = s.initialNodes) : s'.Accounted sources where
  selected := by
    intro name hname
    rw [nodes]
    exact h.selected name (selected ▸ hname)
  distinct := h.distinct.sublist names
  listed := by
    intro name hname
    rw [nodes]
    exact h.listed name (names.subset hname)
  initial := initial ▸ h.initial
  origin := by
    intro name hname
    exact h.origin name (nodes name ▸ hname)

/-- Changing a node gives none a state. -/
theorem hasNode_updateNode (s : Session) (node : String) (f : Node → Node) (name : String) :
    (s.updateNode node f).hasNode name = s.hasNode name := by
  rw [hasNode, node?_updateNode]
  split
  · exact Option.isSome_map
  · rfl

/-- Changing a node keeps the account. -/
theorem Accounted.updateNode (h : s.Accounted sources) (node : String) (f : Node → Node) :
    (s.updateNode node f).Accounted sources :=
  h.keep rfl (List.Sublist.refl _) (hasNode_updateNode s node f) rfl

/-- Setting the pods on a node keeps the account. -/
theorem Accounted.setPods (h : s.Accounted sources) (node : String) (pods : Cell (List Pod)) :
    (s.setPods node pods).Accounted sources := by
  have names : (s.setPods node pods).reference.names = s.reference.names :=
    s.reference.names_setPods node pods
  exact h.keep rfl (names ▸ List.Sublist.refl _) (fun _ => rfl) rfl

/-- Beginning to list nodes keeps the account. -/
theorem Accounted.setNodesLoading (h : s.Accounted sources) :
    s.setNodesLoading.Accounted sources :=
  h.keep rfl (List.nil_sublist _) (fun _ => rfl) rfl

/-- Failing to list nodes keeps the account. -/
theorem Accounted.failNodes (h : s.Accounted sources) (error : String) :
    (s.failNodes error).Accounted sources :=
  h.keep rfl (List.nil_sublist _) (fun _ => rfl) rfl

/-- Failing to list pods keeps the account. -/
theorem Accounted.failPods (h : s.Accounted sources) (node error : String) :
    (s.failPods node error).Accounted sources :=
  (h.setPods node .notLoaded).updateNode node _

/-- An error keeps the account. -/
theorem Accounted.withError (h : s.Accounted sources) (error : Option String) :
    { s with error := error }.Accounted sources :=
  h.keep rfl (List.Sublist.refl _) (fun _ => rfl) rfl

/-- What is known comes from the sources. -/
theorem Accounted.origin_of_knows (h : s.Accounted sources) {name : String} (known : s.knows name) :
    name ∈ sources := by
  rw [knows, Bool.or_eq_true, Bool.or_eq_true, List.contains_iff_mem] at known
  rcases known with (has | initial) | listed
  · exact h.origin name has
  · exact h.initial initial
  · exact h.origin name (h.listed name (ReferenceData.mem_names_of_contains listed))

/-- Only the ensured node is given a state. -/
theorem hasNode_ensureNode (s : Session) (node name : String) :
    (s.ensureNode node).hasNode name ↔ s.hasNode name ∨ name = node := by
  rw [hasNode, node?_ensureNode, hasNode]
  by_cases hname : name = node <;> simp [hname]

/-- Giving a node a state shows none. -/
theorem selected_ensureNode (s : Session) (node : String) :
    (s.ensureNode node).selected = s.selected := by
  rw [ensureNode]
  split <;> rfl

/-- A known node may be given a state. -/
theorem Accounted.ensureNode (h : s.Accounted sources) {node : String} (known : s.knows node) :
    (s.ensureNode node).Accounted sources where
  selected := by
    intro name hname
    rw [selected_ensureNode] at hname
    exact (hasNode_ensureNode s node name).mpr (Or.inl (h.selected name hname))
  distinct := by
    rw [reference_ensureNode]
    exact h.distinct
  listed := by
    intro name hname
    rw [reference_ensureNode] at hname
    exact (hasNode_ensureNode s node name).mpr (Or.inl (h.listed name hname))
  initial := by
    rw [initialNodes_ensureNode]
    exact h.initial
  origin := by
    intro name hname
    rcases (hasNode_ensureNode s node name).mp hname with has | rfl
    · exact h.origin name has
    · exact h.origin_of_knows known

/-- Showing a node, or none, keeps the account. -/
theorem Accounted.select (h : s.Accounted sources) (node : Option String) :
    (s.select node).Accounted sources := by
  cases node with
  | none =>
      refine ⟨?_, h.distinct, h.listed, h.initial, h.origin⟩
      rintro _ ⟨⟩
  | some name =>
      rw [Session.select]
      split
      · next known =>
          have ensured := h.ensureNode known
          refine ⟨?_, ensured.distinct, ensured.listed, ensured.initial, ensured.origin⟩
          rintro _ ⟨⟩
          exact (hasNode_ensureNode s name name).mpr (Or.inr rfl)
      · exact h

/-- The listed nodes are given states, and no others. -/
theorem hasNode_setNodes (s : Session) (names : List String) (name : String) :
    (s.setNodes names).hasNode name ↔ s.hasNode name ∨ name ∈ names := by
  rw [hasNode, node?_setNodes, hasNode]
  by_cases hname : name ∈ names <;> simp [hname]

/-- Giving nodes states shows none. -/
theorem selected_foldl_ensureNode (s : Session) (names : List String) :
    (names.foldl Session.ensureNode s).selected = s.selected := by
  induction names generalizing s with
  | nil => rfl
  | cons name rest ih => exact (ih _).trans (selected_ensureNode s name)

/-- Listing nodes shows none. -/
theorem selected_setNodes (s : Session) (names : List String) :
    (s.setNodes names).selected = s.selected :=
  selected_foldl_ensureNode _ _

/-- A new node list accounts for its nodes. -/
theorem Accounted.setNodes (h : s.Accounted sources) (names : List String) :
    (s.setNodes names).Accounted (sources ++ names) where
  selected := by
    intro name hname
    have hbefore : s.selected = some name := (selected_setNodes s names).symm.trans hname
    exact (hasNode_setNodes s names name).mpr (Or.inl (h.selected name hbefore))
  distinct := by
    rw [reference_setNodes]
    exact s.reference.nodup_names_updateNodes names
  listed := by
    intro name hname
    rw [reference_setNodes] at hname
    exact (hasNode_setNodes s names name).mpr
      (Or.inr (ReferenceData.mem_names_updateNodes.mp hname))
  initial := by
    rw [initialNodes_setNodes]
    exact List.subset_append_of_subset_left names h.initial
  origin := by
    intro name hname
    rw [List.mem_append]
    exact ((hasNode_setNodes s names name).mp hname).imp_left (h.origin name)

/-- More sources account for no less. -/
theorem Accounted.append (h : s.Accounted sources) (more : List String) :
    s.Accounted (sources ++ more) :=
  ⟨h.selected, h.distinct, h.listed, List.subset_append_of_subset_left more h.initial,
    fun name has => List.mem_append_left more (h.origin name has)⟩

/-! ## Events -/

/-- A response is accounted for with what it reports. -/
theorem Accounted.fold (h : s.Accounted sources) (r : Response) :
    (s.fold r).Accounted (sources ++ r.reports) := by
  cases r with
  | nodesListed o names =>
      show (s.foldNodes o names).Accounted _
      rw [foldNodes, Response.reports]
      split
      · exact h.setNodes names
      · exact (h.failNodes _).append []
  | podsListed o node pods =>
      refine Accounted.append ?_ []
      show (s.foldPods o node pods).Accounted _
      rw [foldPods]
      split
      · split
        · exact h.setPods node _
        · exact h.failPods node _
      · exact h
  | _ =>
      rw [fold_eq_updateNode s rfl (by rintro ⟨⟩)]
      exact (h.updateNode _ _).append []

/-- A response that cannot be read keeps the account. -/
theorem Accounted.recordInvalid (h : s.Accounted sources) (kind : OperationKind)
    (node capture : Option String) (error : String) :
    (s.recordInvalid kind node capture error).Accounted sources := by
  by_cases hnodes : kind = .listNodes
  · subst hnodes
    rw [recordInvalid_listNodes]
    exact h.failNodes error
  · cases node with
    | none =>
        rw [recordInvalid_none s hnodes]
        exact h.withError _
    | some name =>
        rw [recordInvalid_some s hnodes]
        split
        · split
          · exact h.failPods name error
          · exact h.updateNode name _
        · exact h.withError _

/-- Beginning a request keeps the account. -/
theorem Accounted.begins {i : Intent} {r : Request} (h : s.Accounted sources)
    (begins : s.Begins i r s') : s'.Accounted sources := by
  cases begins with
  | checkNode known => exact (h.ensureNode known).updateNode _ _
  | listNodes => exact h.setNodesLoading
  | listPods => exact h.setPods _ _
  | _ => exact h.updateNode _ _

/-- An intent without an operation keeps the account. -/
theorem Accounted.adjusts {i : Intent} (h : s.Accounted sources) (adjusts : s.Adjusts i s') :
    s'.Accounted sources := by
  cases adjusts with
  | select known => exact h.select _
  | edit => exact h.updateNode _ _

end Session

namespace Orchestrator

variable {o : Orchestrator} {sources : List String}

/-- An event keeps a session accounted for, with what it reports. -/
theorem handle_accounted (h : o.session.Accounted sources) (e : Event) :
    (o.handle e).session.Accounted (sources ++ e.reports) := by
  cases e with
  | intent i =>
      refine Session.Accounted.append ?_ []
      simp only [handle]
      cases hp : o.perform i with
      | error e => exact h
      | ok result =>
          obtain ⟨o', a⟩ := result
          cases performs_of_perform hp with
          | refused session => exact session ▸ h
          | done adjusts => exact h.adjusts adjusts
          | begun begins => exact h.begins begins
  | response r => exact h.fold r
  | payload name content =>
      show (o.session.foldRaw name content).Accounted _
      rcases Session.foldRaw_cases o.session name content with
        ⟨-, hunknown⟩ | ⟨kind, registered, ⟨r, valid, hread⟩ | hinvalid⟩
      · rw [hunknown]
        exact (h.withError _).append _
      · rw [hread, Event.reports, Event.response?_payload registered valid]
        exact h.fold r
      · rw [hinvalid]
        exact (h.recordInvalid _ _ _ _).append _

/-- What a run reports accounts for the session that it leads to. -/
theorem run_accounted (h : o.session.Accounted sources) (events : List Event) :
    (o.run events).session.Accounted (sources ++ events.flatMap Event.reports) := by
  induction events generalizing o sources with
  | nil => exact h.append []
  | cons e events ih =>
      rw [run_cons, List.flatMap_cons, ← List.append_assoc]
      exact ih (handle_accounted h e)

/-- A node that has a state keeps having one. -/
theorem hasNode_run (o : Orchestrator) (events : List Event) {name : String}
    (h : o.session.hasNode name) : (o.run events).session.hasNode name :=
  run_keeps (P := fun o => o.session.hasNode name) (fun o e => o.hasNode_handle e name) h events

end Orchestrator

/-- In every run, whatever intents, responses and payloads it is made of: the
    selected node has a state; the listed nodes are distinct and have a state;
    a node with a state keeps one, however the run goes on; and it is an initial
    node or was reported by a successful node list of the run. -/
theorem nodes_accounted_for (cluster : String) (initialNodes : List String)
    (events : List Event) :
    let start := Orchestrator.create cluster initialNodes
    let s := (start.run events).session
    (∀ name, s.selected = some name → s.hasNode name)
      ∧ (s.reference.names.Nodup ∧ ∀ name ∈ s.reference.names, s.hasNode name)
      ∧ ∀ name, s.hasNode name →
        (∀ later, (start.run (events ++ later)).session.hasNode name)
          ∧ (name ∈ initialNodes ∨ ∃ e ∈ events, name ∈ e.reports) := by
  intro start s
  have h : s.Accounted (initialNodes ++ events.flatMap Event.reports) :=
    Orchestrator.run_accounted (Session.accounted_create cluster initialNodes) events
  refine ⟨h.selected, ⟨h.distinct, h.listed⟩, ?_⟩
  intro name has
  constructor
  · intro later
    rw [Orchestrator.run, List.foldl_append]
    exact (start.run events).hasNode_run later has
  · have origin := h.origin name has
    rwa [List.mem_append, List.mem_flatMap] at origin

/-- A node list that nobody asked for names a node twice, and that node is
    selected; then an initial node is checked. -/
def strayNodeList : List Event :=
  [.response (.nodesListed .success ["a", "b", "b"]), .intent (.select (some "b")),
    .intent (.checkNode "n")]

/-- The selected node was reported, and keeps its state when an invalid payload
    takes the node list away. -/
theorem nodes_accounted_for_stray_list :
    let start := Orchestrator.create "lab" ["n"]
    let s := (start.run strayNodeList).session
    (s.selected = some "b" ∧ s.hasNode "b")
      ∧ s.reference.names = ["a", "b"]
      ∧ (start.run (strayNodeList ++ [.payload "get_all_nodes" .null])).session.hasNode "b"
      ∧ ("b" ∈ ["n"] ∨ ∃ e ∈ strayNodeList, "b" ∈ e.reports) := by
  intro start s
  have h := nodes_accounted_for "lab" ["n"] strayNodeList
  have selected : s.selected = some "b" := by decide +kernel
  have has : s.hasNode "b" := h.1 "b" selected
  exact ⟨⟨selected, has⟩, by decide +kernel, (h.2.2 "b" has).1 _, (h.2.2 "b" has).2⟩

end NodeCapture
