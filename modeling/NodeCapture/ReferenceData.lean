import NodeCapture.Filter

/-!
# Nodes and pods of the cluster

    The node list is a cell, and each listed node has a cell with its pods. The node
    list decides which pod cells there are: what concerns a node that is not in a loaded
    list is dropped.
-/

namespace NodeCapture

/-! ## Cells that are loaded on demand

    A cell is not loaded, being loaded, or holds what was loaded. -/

/-- A value that is loaded on demand. -/
inductive Cell (α : Type) where
  | notLoaded
  | loading
  | loaded (value : α)
  deriving DecidableEq

namespace Cell

variable {α β : Type}

/-- Whether nothing was asked for yet. -/
def isNotLoaded : Cell α → Bool
  | notLoaded => true
  | _ => false

/-- Whether a load is under way. -/
def isLoading : Cell α → Bool
  | loading => true
  | _ => false

/-- Whether a value is there. -/
def isLoaded : Cell α → Bool
  | loaded _ => true
  | _ => false

/-- Applies a function to a loaded value. -/
def map (f : α → β) : Cell α → Cell β
  | notLoaded => notLoaded
  | loading => loading
  | loaded value => loaded (f value)

/-- The loaded value, or another one. -/
def getD (cell : Cell α) (default : α) : α :=
  match cell with
  | loaded value => value
  | _ => default

/-- The name of the state of a cell. -/
def stateName : Cell α → String
  | notLoaded => "not_loaded"
  | loading => "loading"
  | loaded _ => "loaded"

end Cell

/-- A listed node and its pods. -/
structure ListedNode where
  node : String
  pods : Cell (List Pod) := .notLoaded
  deriving DecidableEq

/-- What is known of the nodes and pods of the cluster. -/
structure ReferenceData where
  nodes : Cell (List ListedNode) := .notLoaded
  deriving DecidableEq

/-- The first occurrences of the items of a list; `seen` are left out. -/
def firstOccurrences (seen : List String) : List String → List String
  | [] => []
  | x :: xs =>
    if seen.contains x then firstOccurrences seen xs else x :: firstOccurrences (x :: seen) xs

namespace ReferenceData

/-- The listed nodes, none where the list is not loaded. -/
def items (d : ReferenceData) : List ListedNode := d.nodes.getD []

/-- A listed node. -/
def get? (d : ReferenceData) (node : String) : Option ListedNode :=
  d.items.find? (fun item => item.node == node)

/-- Whether a node is listed. -/
def contains (d : ReferenceData) (node : String) : Bool := (d.get? node).isSome

/-- The names of the listed nodes. -/
def names (d : ReferenceData) : List String := d.items.map ListedNode.node

/-- The node list is being loaded. -/
def setNodesLoading (_ : ReferenceData) : ReferenceData := ⟨.loading⟩

/-- The node list is no longer loaded. -/
def resetNodes (_ : ReferenceData) : ReferenceData := ⟨.notLoaded⟩

/-- Replaces the node list; a node that stays keeps its pod cell. -/
def updateNodes (d : ReferenceData) (nodes : List String) : ReferenceData :=
  ⟨.loaded ((firstOccurrences [] nodes).map (fun node => (d.get? node).getD { node := node }))⟩

/-- Sets the pod cell of a node, if it is listed. -/
def setPods (d : ReferenceData) (node : String) (pods : Cell (List Pod)) : ReferenceData :=
  ⟨d.nodes.map
    (fun items =>
      items.map (fun item => if item.node = node then { item with pods := pods } else item))⟩

end ReferenceData

end NodeCapture
