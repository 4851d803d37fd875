import NodeCapture.Proofs.Nodes

/-! # The node list at one node

    What each change of the reference data does to the entry of one node, and
    to the question whether the list was asked for.  Setting the pods of a
    node changes the entry of that node alone; a new node list keeps the
    entries of the nodes that stay. -/

namespace NodeCapture

namespace ReferenceData

variable (d : ReferenceData) (node : String)

/-- An entry is found under the name of its node. -/
theorem node_of_get? {item : ListedNode} (h : d.get? node = some item) : item.node = node := by
  have hfound := List.find?_some h
  simpa using hfound

/-- Setting the pods of a node changes the entry of that node. -/
theorem get?_setPods (name : String) (pods : Cell (List Pod)) :
    (d.setPods name pods).get? node
      = if node = name then (d.get? node).map (fun item => { item with pods := pods })
        else d.get? node := by
  obtain ⟨nodes⟩ := d
  cases nodes with
  | notLoaded => by_cases h : node = name <;> simp [setPods, get?, items, Cell.map, Cell.getD]
  | loading => by_cases h : node = name <;> simp [setPods, get?, items, Cell.map, Cell.getD]
  | loaded items =>
      show (items.map _).find? _ = if node = name then (items.find? _).map _ else items.find? _
      induction items with
      | nil => simp
      | cons item rest ih =>
          have hname : (if item.node = name then { item with pods := pods } else item).node
              = item.node := by
            split <;> rfl
          rw [List.map_cons, List.find?_cons, List.find?_cons, hname]
          by_cases hitem : item.node = node
          · subst hitem
            by_cases h : item.node = name <;> simp [h]
          · have hne : (item.node == node) = false := by simpa using hitem
            simp only [hne]
            exact ih

/-- Setting pods lists no other nodes. -/
theorem contains_setPods (name : String) (pods : Cell (List Pod)) :
    (d.setPods name pods).contains node = d.contains node := by
  rw [contains, get?_setPods]
  split
  · exact Option.isSome_map
  · rfl

/-- Setting pods loads no nodes. -/
@[simp]
theorem isNotLoaded_setPods (name : String) (pods : Cell (List Pod)) :
    (d.setPods name pods).nodes.isNotLoaded = d.nodes.isNotLoaded := by
  obtain ⟨nodes⟩ := d
  cases nodes <;> rfl

/-- A new node list has an entry for each of its nodes: the old one, or an
    empty one. -/
theorem get?_updateNodes (listed : List String) :
    (d.updateNodes listed).get? node
      = if node ∈ listed then some ((d.get? node).getD { node := node }) else none := by
  have hname : ∀ x, ((d.get? x).getD { node := x }).node = x := by
    intro x
    cases h : d.get? x with
    | none => rfl
    | some item => exact node_of_get? d x h
  have hmem : node ∈ firstOccurrences [] listed ↔ node ∈ listed := by
    rw [mem_firstOccurrences]
    simp
  show ((firstOccurrences [] listed).map _).find? _ = _
  rw [List.find?_map]
  have hpred : ((fun item : ListedNode => item.node == node)
      ∘ fun x => (d.get? x).getD { node := x }) = fun x => x == node := by
    funext x
    exact congrArg (· == node) (hname x)
  rw [hpred]
  cases hfound : (firstOccurrences [] listed).find? (fun x => x == node) with
  | none =>
      have hnot : node ∉ listed := by
        intro hin
        have hnone := List.find?_eq_none.mp hfound node (hmem.mpr hin)
        exact hnone (by simp)
      rw [if_neg hnot]
      rfl
  | some x =>
      have hx : x = node := by simpa using List.find?_some hfound
      subst hx
      rw [if_pos (hmem.mp (List.mem_of_find?_eq_some hfound))]
      rfl

theorem isNotLoaded_updateNodes (listed : List String) :
    (d.updateNodes listed).nodes.isNotLoaded = false := rfl

end ReferenceData

namespace Session

variable (s : Session)

/-- Giving a node a state lists nothing. -/
@[simp]
theorem reference_ensureNode (name : String) : (s.ensureNode name).reference = s.reference := by
  rw [ensureNode]
  split <;> rfl

/-- The initial nodes stay. -/
@[simp]
theorem initialNodes_ensureNode (name : String) :
    (s.ensureNode name).initialNodes = s.initialNodes := by
  rw [ensureNode]
  split <;> rfl

/-- Giving nodes a state changes neither the reference data nor the initial
    nodes. -/
theorem foldl_ensureNode (names : List String) :
    (names.foldl ensureNode s).reference = s.reference
      ∧ (names.foldl ensureNode s).initialNodes = s.initialNodes := by
  induction names generalizing s with
  | nil => exact ⟨rfl, rfl⟩
  | cons name rest ih =>
      rw [List.foldl_cons]
      obtain ⟨hreference, hinitial⟩ := ih (s.ensureNode name)
      exact ⟨hreference.trans (reference_ensureNode s name),
        hinitial.trans (initialNodes_ensureNode s name)⟩

/-- Setting the nodes of a session updates its listing. -/
theorem reference_setNodes (names : List String) :
    (s.setNodes names).reference = s.reference.updateNodes names :=
  (foldl_ensureNode _ _).1

/-- The initial nodes stay when nodes are listed. -/
theorem initialNodes_setNodes (names : List String) :
    (s.setNodes names).initialNodes = s.initialNodes :=
  (foldl_ensureNode _ _).2

end Session

end NodeCapture
