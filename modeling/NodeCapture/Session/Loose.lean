import NodeCapture.Session

/-!
# Sessions with values of any kind

    What a response that was not checked brings is taken over as it is. So any value may
    come to stand where a text belongs: in an error, in the name of a capture, in a
    path, among the interfaces, and for the name of a node. A session in which this may
    be so is loose.

    The states of the nodes are in a table, whose entries are told apart by keys. A
    truth value and a whole real number are the key of the whole number that they equal;
    an array or an object is no key. The listed nodes are compared as values instead, by
    which what is not a number does not even equal itself.
-/

namespace NodeCapture

/-- What tells the entries of a table apart. -/
inductive Key where
  | null
  | whole (n : Int)
  | real (x : Binary64)
  | text (s : String)
  deriving DecidableEq

namespace Json

/-- The key that a value is. -/
def key? : Json → Option Key
  | null => some .null
  | bool b => some (.whole (if b then 1 else 0))
  | int n => some (.whole n)
  | real x =>
    match x.toInt? with
    | some n => some (.whole n)
    | none => some (.real x)
  | string s => some (.text s)
  | array _ | object _ => none

/-- Whether two values are equal, of which one at least is a key. -/
def equalsKey (a b : Json) : Bool :=
  a.key? == b.key? && b.key?.isSome && b.key? != some (.real .notANumber)

end Json

/-- A completed capture whose local path may be any value. -/
structure LooseCapture where
  name : String
  sizeKb : Int
  status : DownloadStatus := .completed
  localPath : Json := .null

/-- The state of a node with values of any kind. -/
structure LooseNode where
  status : NodeStatus := .unknown
  error : Json := .null
  captureName : Json := .null
  selection : Selection := {}
  captures : List LooseCapture := []
  interfaces : Cell (List Json) := .notLoaded

/-- A listed node, whose name may be any key, and its pods. -/
structure LooseListing where
  node : Json
  pods : Cell (List Pod) := .notLoaded

/-- The session of a cluster with values of any kind. -/
structure LooseSession where
  cluster : String
  initialNodes : List String := []
  selected : Option String := none
  nodes : List (Json × LooseNode) := []
  listed : Cell (List LooseListing) := .notLoaded
  error : Json := .null

namespace LooseNode

/-- Records an error and leaves a transient status for its stable one. -/
def fail (n : LooseNode) (error : Json) : LooseNode :=
  let status := n.status.rollback
  { n with
    status := status
    error := error
    captureName := if status.hasCapture then n.captureName else .null }

/-- Records an error and nothing else. -/
def withError (n : LooseNode) (error : Json) : LooseNode := { n with error := error }

/-- Changes the completed captures whose name a value is. -/
def updateCapture (n : LooseNode) (capture : Json) (f : LooseCapture → LooseCapture) : LooseNode :=
  { n with captures :=
    n.captures.map (fun c => if capture.key? = some (.text c.name) then f c else c) }

end LooseNode

/-- The state of a key in a table. -/
def findEntry (key : Key) : List (Json × LooseNode) → Option LooseNode
  | [] => none
  | (name, n) :: rest => if name.key? = some key then some n else findEntry key rest

/-- Changes the state of a key in a table. -/
def modifyEntry (key : Key) (f : LooseNode → LooseNode) :
    List (Json × LooseNode) → List (Json × LooseNode)
  | [] => []
  | (name, n) :: rest =>
    if name.key? = some key then (name, f n) :: rest else (name, n) :: modifyEntry key f rest

/-- The first of some values for each key; `seen` keys are left out. -/
def firstKeys (seen : List (Option Key)) : List Json → List Json
  | [] => []
  | x :: xs =>
    if seen.contains x.key? then firstKeys seen xs else x :: firstKeys (x.key? :: seen) xs

namespace LooseSession

/-- The state of a node. -/
def node? (s : LooseSession) (key : Key) : Option LooseNode := findEntry key s.nodes

/-- Gives a node a state, if it has none. -/
def ensureNode (s : LooseSession) (node : Json) : LooseSession :=
  match node.key? with
  | some key => if (s.node? key).isSome then s else { s with nodes := s.nodes ++ [(node, {})] }
  | none => s

/-- Changes the state of a node, if it has one. -/
def updateNode (s : LooseSession) (key : Key) (f : LooseNode → LooseNode) : LooseSession :=
  { s with nodes := modifyEntry key f s.nodes }

/-- The node list is no longer loaded, and an error says why. -/
def failNodes (s : LooseSession) (error : Json) : LooseSession :=
  { s with listed := .notLoaded, error := error }

/-- Whether a node is listed. -/
def lists (s : LooseSession) (node : Json) : Bool :=
  (s.listed.getD []).any (fun item => item.node.equalsKey node)

/-- Sets the pod cell of a node, if it is listed. -/
def setPods (s : LooseSession) (node : Json) (pods : Cell (List Pod)) : LooseSession :=
  { s with
    listed := s.listed.map (fun items =>
      items.map
        (fun item => if item.node.equalsKey node then { item with pods := pods } else item)) }

/-- The pods of a node are no longer loaded, and an error of the node says why. -/
def failPods (s : LooseSession) (node : Json) (key : Key) (error : Json) : LooseSession :=
  (s.setPods node .notLoaded).updateNode key (fun n => n.withError error)

/-- The listing of a node that was listed before, or a new one. -/
def listingOf (s : LooseSession) (node : Json) : LooseListing :=
  ((s.listed.getD []).find? (fun item => item.node.key? == node.key?)).getD { node := node }

/-- Takes over a node list; each listed node gets a state. -/
def setNodes (s : LooseSession) (names : List Json) : LooseSession :=
  let items := (firstKeys [] names).map s.listingOf
  { (items.map LooseListing.node).foldl ensureNode { s with listed := .loaded items } with
    error := .null }

end LooseSession

/-! ## Sessions in which every value is of its kind -/

/-- A completed capture as a loose one. -/
def Capture.loose (c : Capture) : LooseCapture := ⟨c.name, c.sizeKb, c.status, .ofText? c.localPath⟩

/-- The state of a node as a loose one. -/
def Node.loose (n : Node) : LooseNode where
  status := n.status
  error := .ofText? n.error
  captureName := .ofText? n.captureName
  selection := n.selection
  captures := n.captures.map Capture.loose
  interfaces := n.interfaces.map (fun names => names.map .string)

/-- A listed node as a loose one. -/
def ListedNode.loose (item : ListedNode) : LooseListing := ⟨.string item.node, item.pods⟩

/-- A session as a loose one. -/
def Session.loose (s : Session) : LooseSession where
  cluster := s.cluster
  initialNodes := s.initialNodes
  selected := s.selected
  nodes := s.nodes.map (fun entry => (.string entry.1, entry.2.loose))
  listed := s.reference.nodes.map (fun items => items.map ListedNode.loose)
  error := .ofText? s.error

end NodeCapture
