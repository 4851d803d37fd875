import Mathlib.Data.List.Nodup
import NodeCapture.Proofs.KnownNodes

/-! # Pod cells of listed nodes

    The node list decides which pod cells there are.  Whatever the changes of
    the reference data are, no node is listed twice (`nodup_names_run`), so each
    listed node has one pod cell.  Then a new node list keeps the cells of the
    nodes that stay, and a change of one cell leaves the others and the list
    alone (`node_list_keeps_pod_cells`). -/

namespace NodeCapture

namespace ReferenceData

/-- A change of the reference data; the pod cell of a node is set to loading, to
    not loaded, or to some pods. -/
inductive Change where
  | updateNodes (listed : List String)
  | setNodesLoading
  | resetNodes
  | setPods (node : String) (pods : Cell (List Pod))

/-- The reference data after a change. -/
def Change.apply (d : ReferenceData) : Change → ReferenceData
  | updateNodes listed => d.updateNodes listed
  | setNodesLoading => d.setNodesLoading
  | resetNodes => d.resetNodes
  | setPods node pods => d.setPods node pods

/-- The reference data after some changes. -/
def run (d : ReferenceData) (changes : List Change) : ReferenceData :=
  changes.foldl Change.apply d

/-- The names are those of a list, each of them once, in the order in which the
    list has them first. -/
structure NamesOnce (names listed : List String) : Prop where
  mem_iff : ∀ name, name ∈ names ↔ name ∈ listed
  nodup : names.Nodup
  ordered : names.Pairwise (fun a b => listed.idxOf a < listed.idxOf b)

/-! ## Names -/

/-- First occurrences keep their order. -/
theorem pairwise_firstOccurrences (seen listed : List String) :
    (firstOccurrences seen listed).Pairwise (fun a b => listed.idxOf a < listed.idxOf b) := by
  induction listed generalizing seen with
  | nil => exact .nil
  | cons x listed ih =>
      -- what comes later is another name, so its place is one further back
      have later : ∀ {seen' : List String}, x ∈ seen' → (firstOccurrences seen' listed).Pairwise
          (fun a b => (x :: listed).idxOf a < (x :: listed).idxOf b) := by
        intro seen' hx
        refine (ih seen').imp_of_mem ?_
        intro a b ha hb hab
        have hne : ∀ {y : String}, y ∈ firstOccurrences seen' listed → x ≠ y := by
          rintro y hy rfl
          exact (mem_firstOccurrences.mp hy).2 hx
        rw [List.idxOf_cons_ne _ (hne ha), List.idxOf_cons_ne _ (hne hb)]
        omega
      rw [firstOccurrences]
      split
      · next hseen => exact later (by simpa using hseen)
      · refine List.pairwise_cons.mpr ⟨?_, later List.mem_cons_self⟩
        intro a ha
        have hne : x ≠ a := by
          rintro rfl
          exact (mem_firstOccurrences.mp ha).2 List.mem_cons_self
        rw [List.idxOf_cons_self, List.idxOf_cons_ne _ hne]
        omega

/-- First occurrences name each listed node once. -/
theorem namesOnce_firstOccurrences (listed : List String) :
    NamesOnce (firstOccurrences [] listed) listed where
  mem_iff := by
    intro name
    rw [mem_firstOccurrences]
    simp
  nodup := nodup_firstOccurrences [] listed
  ordered := pairwise_firstOccurrences [] listed

variable {d : ReferenceData}

/-- A change lists no node twice. -/
theorem Change.nodup_names (h : d.names.Nodup) (c : Change) : (c.apply d).names.Nodup := by
  cases c with
  | updateNodes listed => exact d.nodup_names_updateNodes listed
  | setNodesLoading => exact List.nodup_nil
  | resetNodes => exact List.nodup_nil
  | setPods node pods =>
      show (d.setPods node pods).names.Nodup
      rw [d.names_setPods]
      exact h

/-- No changes list a node twice. -/
theorem nodup_names_run (h : d.names.Nodup) (changes : List Change) :
    (d.run changes).names.Nodup := by
  induction changes generalizing d with
  | nil => exact h
  | cons c changes ih => exact ih (c.nodup_names h)

/-! ## Cells -/

/-- Nothing is found of a node that is not listed. -/
theorem get?_eq_none (node : String) (h : node ∉ d.names) : d.get? node = none := by
  rw [get?, List.find?_eq_none]
  intro item hitem hnode
  obtain rfl : item.node = node := by simpa using hnode
  exact h (List.mem_map_of_mem hitem)

/-- Where no node is listed twice, each entry is found under its name. -/
theorem get?_of_mem (h : d.names.Nodup) {item : ListedNode} (hitem : item ∈ d.items) :
    d.get? item.node = some item := by
  cases hget : d.get? item.node with
  | none =>
      have hnone := List.find?_eq_none.mp hget item hitem
      exact absurd (beq_self_eq_true item.node) hnone
  | some other =>
      have hnode := d.node_of_get? item.node hget
      have hother : other ∈ d.items := List.mem_of_find?_eq_some hget
      rw [List.inj_on_of_nodup_map h hother hitem hnode]

/-- The entry of a node in a new list is the one that it had, or an empty one. -/
theorem mem_items_updateNodes {listed : List String} {node : String} (h : node ∈ listed) :
    (d.get? node).getD { node := node } ∈ (d.updateNodes listed).items := by
  refine List.mem_map.mpr ⟨node, ?_, rfl⟩
  exact mem_firstOccurrences.mpr ⟨h, List.not_mem_nil⟩

/-- Entries of other nodes are kept when the pods of a node are set. -/
theorem map_setPods_of_not_mem {items : List ListedNode} {node : String}
    (h : node ∉ items.map ListedNode.node) {pods : Cell (List Pod)} :
    items.map (fun item => if item.node = node then { item with pods := pods } else item)
      = items := by
  refine (List.map_congr_left fun item hitem => ?_).trans (List.map_id items)
  refine if_neg ?_
  rintro rfl
  exact h (List.mem_map_of_mem hitem)

/-- Setting the pods of a node that is not listed changes nothing. -/
theorem setPods_of_not_mem {node : String} (h : node ∉ d.names) (pods : Cell (List Pod)) :
    d.setPods node pods = d := by
  obtain ⟨nodes⟩ := d
  cases nodes with
  | notLoaded => rfl
  | loading => rfl
  | loaded items =>
      have hitems : node ∉ items.map ListedNode.node := h
      show ReferenceData.mk (.loaded (items.map _)) = _
      rw [map_setPods_of_not_mem hitems]

/-- Setting the pods of a listed node changes its cell alone. -/
theorem setPods_of_mem (nodup : d.names.Nodup) {node : String} (h : node ∈ d.names)
    (pods : Cell (List Pod)) :
    ∃ before old after, d.nodes = .loaded (before ++ ⟨node, old⟩ :: after)
      ∧ (d.setPods node pods).nodes = .loaded (before ++ ⟨node, pods⟩ :: after) := by
  obtain ⟨nodes⟩ := d
  cases nodes with
  | notLoaded => exact absurd h List.not_mem_nil
  | loading => exact absurd h List.not_mem_nil
  | loaded items =>
      obtain ⟨item, hitem, rfl⟩ := List.mem_map.mp h
      obtain ⟨before, after, rfl⟩ := List.append_of_mem (show item ∈ items from hitem)
      refine ⟨before, item.pods, after, rfl, ?_⟩
      -- no other entry is of this node
      have hother : item.node ∉ (before ++ after).map ListedNode.node := by
        have hnodup : ((before ++ item :: after).map ListedNode.node).Nodup := nodup
        rw [List.map_append, List.map_cons, List.nodup_middle, List.nodup_cons, ← List.map_append]
          at hnodup
        exact hnodup.1
      rw [List.map_append, List.mem_append, not_or] at hother
      show Cell.loaded ((before ++ item :: after).map _) = _
      rw [List.map_append, List.map_cons, map_setPods_of_not_mem hother.1,
        map_setPods_of_not_mem hother.2, if_pos rfl]

/-! ## Any changes -/

/-- Whatever changes were made of the reference data, a new node list is loaded
    and names its nodes once, in their order; a node that was listed keeps its
    entry with its pod cell, and any other node gets one without pods.  And
    setting the pods of a node changes nothing if the node is not listed, and
    else its cell alone, so that all others stay as and where they are. -/
theorem node_list_keeps_pod_cells (changes : List Change) :
    let d := ({} : ReferenceData).run changes
    (∀ listed, ∃ items, (d.updateNodes listed).nodes = .loaded items
        ∧ NamesOnce (items.map ListedNode.node) listed
        ∧ (∀ item ∈ d.items, item.node ∈ listed → item ∈ items)
        ∧ ∀ name ∈ listed, name ∉ d.names → ⟨name, .notLoaded⟩ ∈ items)
      ∧ ∀ node pods, (node ∉ d.names → d.setPods node pods = d)
        ∧ (node ∈ d.names → ∃ before old after, d.nodes = .loaded (before ++ ⟨node, old⟩ :: after)
          ∧ (d.setPods node pods).nodes = .loaded (before ++ ⟨node, pods⟩ :: after)) := by
  intro d
  have nodup : d.names.Nodup := nodup_names_run (d := {}) List.nodup_nil changes
  refine ⟨?_, ?_⟩
  · intro listed
    refine ⟨_, rfl, ?_, ?_, ?_⟩
    · show NamesOnce (d.updateNodes listed).names listed
      rw [d.names_updateNodes]
      exact namesOnce_firstOccurrences listed
    · intro item hitem hlisted
      have hmem := mem_items_updateNodes (d := d) hlisted
      rw [get?_of_mem nodup hitem] at hmem
      exact hmem
    · intro name hlisted hnew
      have hmem := mem_items_updateNodes (d := d) hlisted
      rw [get?_eq_none name hnew] at hmem
      exact hmem
  · intro node pods
    exact ⟨fun h => setPods_of_not_mem h pods, fun h => setPods_of_mem nodup h pods⟩

/-- A node that stays keeps the pods that are being loaded for it. -/
example :
    (({} : ReferenceData).run [.updateNodes ["a", "b", "a"], .setPods "b" .loading,
        .setPods "c" .loading, .updateNodes ["c", "b", "c"]]).nodes
      = .loaded [⟨"c", .notLoaded⟩, ⟨"b", .loading⟩] := by decide

end ReferenceData

end NodeCapture
