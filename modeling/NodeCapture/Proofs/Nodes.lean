import NodeCapture.Session

/-! # The nodes of a session

    What each change of a session does to the state of one node.  Every
    change either concerns a single node, or gives new nodes an empty state,
    or leaves all states alone; a node never loses its state. -/

namespace NodeCapture

/-- A changed state is found under its name, and all others as before. -/
theorem findNode_modifyNode (name node : String) (f : Node → Node)
    (entries : List (String × Node)) :
    findNode node (modifyNode name f entries)
      = if node = name then (findNode node entries).map f
        else findNode node entries := by
  induction entries with
  | nil => by_cases h : node = name <;> simp [modifyNode, findNode]
  | cons entry rest ih =>
      obtain ⟨key, n⟩ := entry
      by_cases hkey : key = name
      · subst hkey
        by_cases hnode : node = key
        · subst hnode
          simp [modifyNode, findNode]
        · have hne : ¬ key = node := fun h => hnode h.symm
          simp [modifyNode, findNode, hnode, hne]
      · by_cases hfound : key = node
        · subst hfound
          simp [modifyNode, findNode, hkey]
        · simp [modifyNode, findNode, hkey, hfound, ih]

/-- A state at the end of the list is found where there is none before it. -/
theorem findNode_concat (name node : String) (n : Node)
    (entries : List (String × Node)) :
    findNode node (entries ++ [(name, n)])
      = (findNode node entries).or (if node = name then some n else none) := by
  induction entries with
  | nil => simp [findNode, eq_comm]
  | cons entry rest ih =>
      obtain ⟨key, old⟩ := entry
      by_cases h : key = node
      · simp [findNode, h]
      · simp [findNode, h, ih]

/-- First occurrences are the names that were not seen. -/
theorem mem_firstOccurrences {x : String} {names : List String} :
    ∀ {seen : List String},
      x ∈ firstOccurrences seen names ↔ x ∈ names ∧ x ∉ seen := by
  induction names with
  | nil => simp [firstOccurrences]
  | cons name rest ih =>
      intro seen
      by_cases hseen : name ∈ seen
      · simp only [firstOccurrences, List.contains_iff_mem, hseen, if_true, ih,
          List.mem_cons]
        constructor
        · rintro ⟨hx, hn⟩
          exact ⟨Or.inr hx, hn⟩
        · rintro ⟨rfl | hx, hn⟩
          · exact absurd hseen hn
          · exact ⟨hx, hn⟩
      · simp only [firstOccurrences, List.contains_iff_mem, hseen, if_false, ih,
          List.mem_cons]
        constructor
        · rintro (rfl | ⟨hx, hn⟩)
          · exact ⟨Or.inl rfl, hseen⟩
          · exact ⟨Or.inr hx, fun h => hn (Or.inr h)⟩
        · rintro ⟨hx, hn⟩
          by_cases hxn : x = name
          · exact Or.inl hxn
          · exact Or.inr ⟨hx.resolve_left hxn, fun h => h.elim hxn hn⟩

namespace ReferenceData

/-- A new node list lists the names that it was made of. -/
theorem mem_names_updateNodes {d : ReferenceData} {listed : List String} {node : String} :
    node ∈ (d.updateNodes listed).names ↔ node ∈ listed := by
  have hname : ∀ x, ((d.get? x).getD { node := x }).node = x := by
    intro x
    cases h : d.get? x with
    | none => rfl
    | some item =>
        have := List.find?_some h
        simpa using this
  simp only [updateNodes, names, items, Cell.getD, List.map_map, List.mem_map,
    Function.comp_apply, hname, exists_eq_right, mem_firstOccurrences]
  simp

end ReferenceData

namespace Session

variable (s : Session) (node : String)

/-- Only the node that is changed changes. -/
@[simp]
theorem node?_updateNode (name : String) (f : Node → Node) :
    (s.updateNode name f).node? node
      = if node = name then (s.node? node).map f else s.node? node :=
  findNode_modifyNode name node f s.nodes

@[simp]
theorem node?_setPods (name : String) (pods : Cell (List Pod)) :
    (s.setPods name pods).node? node = s.node? node := rfl

@[simp]
theorem node?_failNodes (error : String) : (s.failNodes error).node? node = s.node? node := rfl

/-- Failing to list pods notes the error at their node. -/
@[simp]
theorem node?_failPods (name error : String) :
    (s.failPods name error).node? node
      = if node = name then (s.node? node).map (fun n => n.withError error)
        else s.node? node := by
  rw [failPods]
  rw [node?_updateNode, node?_setPods]

/-- The state of a node, which is empty where the node has none. -/
def stateOf : Node := (s.node? node).getD {}

/-- The state of a node that has one. -/
theorem stateOf_of_some {n : Node} (h : s.node? node = some n) : s.stateOf node = n := by
  rw [stateOf, h]
  rfl

/-- A node without a state counts as new. -/
theorem stateOf_of_none (h : s.node? node = none) : s.stateOf node = {} := by
  rw [stateOf, h]
  rfl

/-- A node has a state where its status says anything. -/
theorem node?_eq_some_stateOf (h : (s.stateOf node).status ≠ .unknown) :
    s.node? node = some (s.stateOf node) := by
  cases hn : s.node? node with
  | none => exact absurd (by rw [stateOf_of_none s node hn]) h
  | some n => rw [stateOf_of_some s node hn]

/-- A node that is ensured has its old state or an empty one. -/
theorem node?_ensureNode (name : String) :
    (s.ensureNode name).node? node
      = (s.node? node).or (if node = name then some {} else none) := by
  rw [ensureNode]
  split
  · next h =>
      by_cases hnode : node = name
      · subst hnode
        obtain ⟨n, hn⟩ := Option.isSome_iff_exists.mp h
        simp [hn]
      · simp [hnode]
  · exact findNode_concat name node {} s.nodes

theorem hasNode_iff : s.hasNode node = true ↔ ∃ n, s.node? node = some n :=
  Option.isSome_iff_exists

/-- Nodes without a state are given new ones. -/
theorem node?_foldl_ensureNode (names : List String) :
    (names.foldl ensureNode s).node? node
      = (s.node? node).or (if node ∈ names then some {} else none) := by
  induction names generalizing s with
  | nil => simp
  | cons name rest ih =>
      rw [List.foldl_cons, ih, node?_ensureNode]
      cases s.node? node with
      | some n => rfl
      | none => by_cases h : node = name <;> by_cases hr : node ∈ rest <;> simp [h, hr]

/-- A new node list gives its nodes a state. -/
theorem node?_setNodes (names : List String) :
    (s.setNodes names).node? node
      = (s.node? node).or (if node ∈ names then some {} else none) := by
  have h : (s.setNodes names).node? node
      = ((s.reference.updateNodes names).names.foldl ensureNode
          { s with reference := s.reference.updateNodes names }).node? node := rfl
  rw [h, node?_foldl_ensureNode]
  simp only [ReferenceData.mem_names_updateNodes]
  rfl

/-- Selecting a node may give it a state and changes no other. -/
theorem node?_select_some (name : String) :
    (s.select (some name)).node? node
      = (s.node? node).or (if s.knows name ∧ node = name then some {} else none) := by
  by_cases hk : s.knows name
  · have h : (s.select (some name)).node? node = (s.ensureNode name).node? node := by
      simp [select, hk, node?]
    rw [h, node?_ensureNode]
    simp [hk]
  · simp [select, hk]

end Session

end NodeCapture
