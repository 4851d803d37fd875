import NodeCapture.Proofs.NodeList
import NodeCapture.Session.Loose

/-! # Sessions among the loose ones

    `Session.loose` regards a session as one that may hold values of any kind.
    Whatever folding does to a loose session, it does to a session as well:
    each change commutes with `loose`. -/

namespace NodeCapture

/-! ## Values -/

/-- Texts are the same keys if they are the same. -/
@[simp] theorem Key.text_beq (a b : String) : (Key.text a == Key.text b) = (a == b) := by
  rw [Bool.eq_iff_iff]
  simp

@[simp] theorem Json.key?_string (s : String) : (Json.string s).key? = some (.text s) := rfl

/-- A text that may be there is the key of one text at most. -/
theorem Json.key?_ofText?_eq {text : Option String} {s : String} :
    (Json.ofText? text).key? = some (.text s) ↔ some s = text := by
  cases text with
  | none => simp [ofText?, key?]
  | some t =>
      show some (Key.text t) = some (Key.text s) ↔ some s = some t
      simp [eq_comm]

/-- Texts are equal as keys if they are the same. -/
@[simp] theorem Json.equalsKey_string (a b : String) :
    (Json.string a).equalsKey (.string b) = (a == b) := by
  simp [equalsKey]

/-! ## Nodes -/

namespace Node

variable (n : Node)

/-- Failing commutes with `loose`. -/
theorem loose_fail (error : String) : (n.fail error).loose = n.loose.fail (.string error) := by
  rw [Node.fail, LooseNode.fail]
  cases hcapture : n.status.rollback.hasCapture <;> simp [loose, Json.ofText?, hcapture]

theorem loose_withError (error : String) :
    (n.withError error).loose = n.loose.withError (.string error) := rfl

/-- A change of a capture commutes with `loose` if it does at each capture. -/
theorem loose_updateCapture (capture : String) {f : Capture → Capture}
    {g : LooseCapture → LooseCapture} (h : ∀ c, (f c).loose = g c.loose) :
    (n.updateCapture capture f).loose = n.loose.updateCapture (.string capture) g := by
  have hcaptures : (n.captures.map (fun c => if c.name = capture then f c else c)).map Capture.loose
      = (n.captures.map Capture.loose).map
        (fun c => if (Json.string capture).key? = some (.text c.name) then g c else c) := by
    rw [List.map_map, List.map_map]
    refine List.map_congr_left fun c _ => ?_
    by_cases hname : c.name = capture
    · have hloose : (Json.string capture).key? = some (.text c.loose.name) := by
        rw [← hname]
        rfl
      rw [Function.comp, Function.comp, if_pos hname, if_pos hloose, h]
    · have hloose : (Json.string capture).key? ≠ some (.text c.loose.name) := by
        intro heq
        exact hname (Key.text.inj (Option.some.inj heq)).symm
      rw [Function.comp, Function.comp, if_neg hname, if_neg hloose]
  rw [updateCapture, LooseNode.updateCapture, loose, hcaptures]
  rfl

end Node

/-! ## The table of states -/

/-- The entry of a node is found at the same place. -/
theorem findEntry_loose (node : String) (nodes : List (String × Node)) :
    findEntry (.text node) (nodes.map (fun entry => (.string entry.1, entry.2.loose)))
      = (findNode node nodes).map Node.loose := by
  induction nodes with
  | nil => rfl
  | cons entry rest ih =>
      by_cases hname : entry.1 = node
      · simp [findEntry, findNode, hname]
      · simp [findEntry, findNode, hname, ih]

/-- What is done to the state that is found is done to the loose one. -/
theorem modifyEntry_loose {node : String} {nodes : List (String × Node)} {f : Node → Node}
    {g : LooseNode → LooseNode} (h : ∀ n, findNode node nodes = some n → g n.loose = (f n).loose) :
    modifyEntry (.text node) g (nodes.map (fun entry => (.string entry.1, entry.2.loose)))
      = (modifyNode node f nodes).map (fun entry => (.string entry.1, entry.2.loose)) := by
  induction nodes with
  | nil => rfl
  | cons entry rest ih =>
      by_cases hname : entry.1 = node
      · have hentry := h entry.2 (by simp [findNode, hname])
        simp [modifyEntry, modifyNode, hname, hentry]
      · have hrest := ih (fun n hn => h n (by simpa [findNode, hname] using hn))
        simp [modifyEntry, modifyNode, hname, hrest]

/-! ## Sessions -/

namespace Session

variable (s : Session)

theorem loose_nodes :
    s.loose.nodes = s.nodes.map (fun entry => (.string entry.1, entry.2.loose)) := rfl

theorem loose_node? (node : String) : s.loose.node? (.text node) = (s.node? node).map Node.loose :=
  findEntry_loose node s.nodes

/-- A node has a state in both or in none. -/
theorem loose_hasNode (node : String) : (s.loose.node? (.text node)).isSome = s.hasNode node := by
  rw [loose_node?, Option.isSome_map, hasNode]

/-- A change of a node commutes with `loose` if it does at the state that is
    there. -/
theorem loose_updateNode {node : String} {f : Node → Node} {g : LooseNode → LooseNode}
    (h : ∀ n, s.node? node = some n → g n.loose = (f n).loose) :
    s.loose.updateNode (.text node) g = (s.updateNode node f).loose := by
  rw [LooseSession.updateNode, loose_nodes, modifyEntry_loose h]
  rfl

/-- Giving a node a state commutes with `loose`. -/
theorem loose_ensureNode (node : String) :
    s.loose.ensureNode (.string node) = (s.ensureNode node).loose := by
  rw [LooseSession.ensureNode, Session.ensureNode, Json.key?_string]
  dsimp only
  rw [loose_hasNode]
  cases s.hasNode node with
  | true => rfl
  | false =>
      rw [if_neg (by decide), if_neg (by decide), loose_nodes]
      simp only [loose, List.map_append]
      rfl

theorem loose_failNodes (error : String) :
    s.loose.failNodes (.string error) = (s.failNodes error).loose := rfl

/-- The listings of a session. -/
theorem loose_items : s.loose.listed.getD [] = s.reference.items.map ListedNode.loose := by
  rw [loose, ReferenceData.items]
  cases s.reference.nodes <;> rfl

/-- A listed node has the same name. -/
theorem loose_equalsKey (item : ListedNode) (node : String) :
    item.loose.node.equalsKey (.string node) = (item.node == node) :=
  Json.equalsKey_string item.node node

/-- A node is listed in both or in none. -/
theorem loose_lists (node : String) : s.loose.lists (.string node) = s.reference.contains node := by
  rw [LooseSession.lists, loose_items, ReferenceData.contains, ReferenceData.get?]
  induction s.reference.items with
  | nil => rfl
  | cons item rest ih =>
      rw [List.map_cons, List.any_cons, ih, loose_equalsKey, List.find?_cons]
      cases item.node == node <;> rfl

/-- Setting the pods on a node commutes with `loose`. -/
theorem loose_setPods (node : String) (pods : Cell (List Pod)) :
    s.loose.setPods (.string node) pods = (s.setPods node pods).loose := by
  have hitem : ∀ item : ListedNode,
      (if item.loose.node.equalsKey (.string node) then { item.loose with pods := pods }
          else item.loose)
        = (if item.node = node then { item with pods := pods } else item).loose := by
    intro item
    rw [loose_equalsKey]
    by_cases hnode : item.node = node
    · rw [if_pos (beq_iff_eq.mpr hnode), if_pos hnode]
      rfl
    · rw [if_neg (mt beq_iff_eq.mp hnode), if_neg hnode]
  rw [LooseSession.setPods, Session.setPods, ReferenceData.setPods]
  simp only [loose]
  congr 1
  cases s.reference.nodes with
  | notLoaded => rfl
  | loading => rfl
  | loaded items =>
      simp only [Cell.map, List.map_map]
      exact congrArg Cell.loaded (List.map_congr_left fun item _ => hitem item)

/-- Failing to list pods commutes with `loose`. -/
theorem loose_failPods (node error : String) :
    s.loose.failPods (.string node) (.text node) (.string error)
      = (s.failPods node error).loose := by
  rw [LooseSession.failPods, Session.failPods, loose_setPods]
  exact loose_updateNode _ (fun n _ => (n.loose_withError error).symm)

/-- The listing of a node is that of the session, or a new one in both. -/
theorem loose_listingOf (node : String) :
    s.loose.listingOf (.string node)
      = ((s.reference.get? node).getD { node := node }).loose := by
  rw [LooseSession.listingOf, loose_items, ReferenceData.get?]
  induction s.reference.items with
  | nil => rfl
  | cons item rest ih =>
      have hkey : (item.loose.node.key? == (Json.string node).key?) = (item.node == node) := by
        simp [ListedNode.loose]
      rw [List.map_cons, List.find?_cons, hkey, List.find?_cons]
      cases item.node == node with
      | true => rfl
      | false => exact ih

end Session

/-- Of texts, the first keys are the first occurrences. -/
theorem firstKeys_strings (seen names : List String) :
    firstKeys (seen.map (fun name => some (.text name))) (names.map .string)
      = (firstOccurrences seen names).map .string := by
  induction names generalizing seen with
  | nil => rfl
  | cons name rest ih =>
      have hseen : (seen.map (fun name => some (Key.text name))).contains (some (.text name))
          = seen.contains name := by
        rw [Bool.eq_iff_iff, List.contains_iff_mem, List.contains_iff_mem, List.mem_map]
        constructor
        · rintro ⟨other, hmem, heq⟩
          rw [← Key.text.inj (Option.some.inj heq)]
          exact hmem
        · intro hmem
          exact ⟨name, hmem, rfl⟩
      rw [List.map_cons, firstKeys, firstOccurrences, Json.key?_string, hseen]
      cases seen.contains name with
      | true => exact ih seen
      | false =>
          rw [if_neg (by decide), if_neg (by decide), List.map_cons]
          exact congrArg (List.cons _) (ih (name :: seen))

/-- Giving nodes states commutes with `loose`. -/
theorem Session.loose_foldl_ensureNode (s : Session) (names : List String) :
    (names.map Json.string).foldl LooseSession.ensureNode s.loose
      = (names.foldl Session.ensureNode s).loose := by
  induction names generalizing s with
  | nil => rfl
  | cons name rest ih => rw [List.map_cons, List.foldl_cons, List.foldl_cons, loose_ensureNode, ih]

/-- Setting the nodes commutes with `loose`. -/
theorem Session.loose_setNodes (s : Session) (names : List String) :
    s.loose.setNodes (names.map .string) = (s.setNodes names).loose := by
  have hitems : (firstKeys [] (names.map .string)).map s.loose.listingOf
      = (s.reference.updateNodes names).items.map ListedNode.loose := by
    have hfirst := firstKeys_strings [] names
    rw [List.map_nil] at hfirst
    rw [hfirst, List.map_map, ReferenceData.updateNodes, ReferenceData.items, Cell.getD,
      List.map_map]
    exact List.map_congr_left fun node _ => s.loose_listingOf node
  rw [LooseSession.setNodes, hitems, Session.setNodes]
  -- the nodes that get a state are those of the new listings, in their order
  have hnames : ((s.reference.updateNodes names).items.map ListedNode.loose).map LooseListing.node
      = (s.reference.updateNodes names).names.map .string := by
    rw [ReferenceData.names, List.map_map, List.map_map]
    rfl
  have hstart :
      ({ s.loose with
        listed := .loaded ((s.reference.updateNodes names).items.map ListedNode.loose) }
          : LooseSession)
      = ({ s with reference := s.reference.updateNodes names } : Session).loose := rfl
  rw [hnames, hstart, loose_foldl_ensureNode]
  rfl

end NodeCapture
