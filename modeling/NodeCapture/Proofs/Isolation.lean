import NodeCapture.Proofs.Events
import NodeCapture.Proofs.NodeList

/-! # Nodes do not interfere

    A run is looked at from one node: the state of the node, its entry in the
    node list, and the answers to the intents that are about it.  Only the
    events that are for the node, or for the node list as a whole, can be
    noticed there: leaving out all others changes nothing at the node.

    Two sessions agree at a node (`Session.AgreeAt`) where they do not differ
    in what can be noticed at the node.  An event for the node takes sessions
    that agree to sessions that agree and gets the same answer
    (`agreeAt_handle`), and any other event leaves a session in agreement
    with what it was (`agreeAt_handle_of_other`). -/

namespace NodeCapture

/-- The node that an intent is about; selecting none is about none. -/
def Intent.node? : Intent → Option String
  | .select node => node
  | .setFilters node _ | .selectScenario node _ | .setScenario node _ | .setProtocol node _
  | .setFilterText node _ | .checkNode node | .createPod node | .deletePod node
  | .startCapture node _ | .stopCapture node | .download node _ _ | .listPods node
  | .listInterfaces node => some node
  | .listNodes => none

namespace Event

/-- The node that an event is addressed to. -/
def node? : Event → Option String
  | .intent i => i.node?
  | .response r => r.node?
  | .payload _ content => Session.payloadText? "node" content

/-- Whether an event is about the node list as a whole. -/
def isListing : Event → Bool
  | .intent .listNodes => true
  | .intent _ => false
  | .response r => r.kind = .listNodes
  | .payload name _ => name = OperationKind.listNodes.name

/-- Whether an event is for a node: addressed to it, or about the node list. -/
def isFor (node : String) (e : Event) : Bool := e.node? = some node ∨ e.isListing = true

/-- An event is for a node if it is addressed to it or about the node list. -/
theorem isFor_iff {node : String} {e : Event} :
    e.isFor node = true ↔ e.node? = some node ∨ e.isListing = true :=
  decide_eq_true_iff

end Event

/-- Whether an intent was accepted. -/
def Answer.isAccepted : Answer → Bool
  | .refused => false
  | .begun _ | .done => true

namespace Orchestrator

/-- The answer to an intent: whether it is accepted, or the error that it
    ends in. -/
def accepts (o : Orchestrator) (i : Intent) : Except ValidationError Bool :=
  (o.perform i).map (fun result => result.2.isAccepted)

/-- The answers to the intents of a run that are for a node, in their order. -/
def answersAt (node : String) (o : Orchestrator) : List Event → List (Except ValidationError Bool)
  | [] => []
  | e :: events =>
      match e with
      | .intent i =>
          if e.isFor node then o.accepts i :: answersAt node (o.handle e) events
          else answersAt node (o.handle e) events
      | _ => answersAt node (o.handle e) events

end Orchestrator

/-- Sessions do not differ in what can be noticed at a node. -/
structure Session.AgreeAt (node : String) (s t : Session) : Prop where
  initial : s.initialNodes = t.initialNodes
  state : s.node? node = t.node? node
  listing : s.reference.nodes.isNotLoaded = t.reference.nodes.isNotLoaded
  entry : s.reference.get? node = t.reference.get? node

namespace Session

variable {node : String} {s t u : Session}

@[refl]
theorem AgreeAt.refl (s : Session) : AgreeAt node s s := ⟨rfl, rfl, rfl, rfl⟩

/-- Agreement carries over. -/
theorem AgreeAt.trans (h : AgreeAt node s t) (h' : AgreeAt node t u) : AgreeAt node s u :=
  ⟨h.initial.trans h'.initial, h.state.trans h'.state, h.listing.trans h'.listing,
    h.entry.trans h'.entry⟩

/-- Sessions that agree list the node or not alike. -/
theorem AgreeAt.contains (h : AgreeAt node s t) :
    s.reference.contains node = t.reference.contains node :=
  congrArg Option.isSome h.entry

theorem AgreeAt.hasNode (h : AgreeAt node s t) : s.hasNode node = t.hasNode node :=
  congrArg Option.isSome h.state

/-- They know it or not alike. -/
theorem AgreeAt.knows (h : AgreeAt node s t) : s.knows node = t.knows node := by
  rw [Session.knows, Session.knows, h.hasNode, h.initial, h.contains]

/-! ## Changes of a session -/

/-- Changing the node alike keeps the agreement. -/
theorem AgreeAt.updateNode (h : AgreeAt node s t) (f : Node → Node) :
    AgreeAt node (s.updateNode node f) (t.updateNode node f) where
  initial := h.initial
  state := by rw [node?_updateNode, node?_updateNode, h.state]
  listing := h.listing
  entry := h.entry

/-- Changing another node changes nothing here. -/
theorem agreeAt_updateNode_of_ne (s : Session) {name : String} (hne : name ≠ node)
    (f : Node → Node) : AgreeAt node (s.updateNode name f) s where
  initial := rfl
  state := by rw [node?_updateNode, if_neg hne.symm]
  listing := rfl
  entry := rfl

/-- Setting the pods of the node alike keeps the agreement. -/
theorem AgreeAt.setPods (h : AgreeAt node s t) (pods : Cell (List Pod)) :
    AgreeAt node (s.setPods node pods) (t.setPods node pods) where
  initial := h.initial
  state := h.state
  listing := by
    show (s.reference.setPods node pods).nodes.isNotLoaded
      = (t.reference.setPods node pods).nodes.isNotLoaded
    rw [ReferenceData.isNotLoaded_setPods, ReferenceData.isNotLoaded_setPods, h.listing]
  entry := by
    show (s.reference.setPods node pods).get? node = (t.reference.setPods node pods).get? node
    rw [ReferenceData.get?_setPods, ReferenceData.get?_setPods, h.entry]

/-- Setting the pods of another node changes nothing here. -/
theorem agreeAt_setPods_of_ne (s : Session) {name : String} (hne : name ≠ node)
    (pods : Cell (List Pod)) : AgreeAt node (s.setPods name pods) s where
  initial := rfl
  state := rfl
  listing := ReferenceData.isNotLoaded_setPods s.reference name pods
  entry := by
    show (s.reference.setPods name pods).get? node = _
    rw [ReferenceData.get?_setPods, if_neg hne.symm]

/-- Providing a state of the node keeps the agreement. -/
theorem AgreeAt.ensureNode (h : AgreeAt node s t) :
    AgreeAt node (s.ensureNode node) (t.ensureNode node) where
  initial := by rw [initialNodes_ensureNode, initialNodes_ensureNode, h.initial]
  state := by rw [node?_ensureNode, node?_ensureNode, h.state]
  listing := by rw [reference_ensureNode, reference_ensureNode, h.listing]
  entry := by rw [reference_ensureNode, reference_ensureNode, h.entry]

/-- Providing a state of another node changes nothing here. -/
theorem agreeAt_ensureNode_of_ne (s : Session) {name : String} (hne : name ≠ node) :
    AgreeAt node (s.ensureNode name) s where
  initial := initialNodes_ensureNode s name
  state := by rw [node?_ensureNode, if_neg hne.symm, Option.or_none]
  listing := by rw [reference_ensureNode]
  entry := by rw [reference_ensureNode]

/-- A new node list is the same for all who agree. -/
theorem AgreeAt.setNodes (h : AgreeAt node s t) (names : List String) :
    AgreeAt node (s.setNodes names) (t.setNodes names) where
  initial := by rw [initialNodes_setNodes, initialNodes_setNodes, h.initial]
  state := by rw [node?_setNodes, node?_setNodes, h.state]
  listing := by
    rw [reference_setNodes, reference_setNodes, ReferenceData.isNotLoaded_updateNodes,
      ReferenceData.isNotLoaded_updateNodes]
  entry := by
    rw [reference_setNodes, reference_setNodes, ReferenceData.get?_updateNodes,
      ReferenceData.get?_updateNodes, h.entry]

/-- Beginning to list nodes keeps the agreement. -/
theorem AgreeAt.setNodesLoading (h : AgreeAt node s t) :
    AgreeAt node s.setNodesLoading t.setNodesLoading :=
  ⟨h.initial, h.state, rfl, rfl⟩

/-- Failing to list nodes keeps the agreement. -/
theorem AgreeAt.failNodes (h : AgreeAt node s t) (error : String) :
    AgreeAt node (s.failNodes error) (t.failNodes error) :=
  ⟨h.initial, h.state, rfl, rfl⟩

/-- The error of a session is not noticed at its nodes. -/
theorem AgreeAt.withError (h : AgreeAt node s t) (error : Option String) :
    AgreeAt node { s with error := error } { t with error := error } :=
  ⟨h.initial, h.state, h.listing, h.entry⟩

/-- The error of a session does not matter. -/
theorem agreeAt_withError (s : Session) (error : Option String) :
    AgreeAt node { s with error := error } s :=
  ⟨rfl, rfl, rfl, rfl⟩

/-- Showing the node keeps the agreement. -/
theorem AgreeAt.select (h : AgreeAt node s t) :
    AgreeAt node (s.select (some node)) (t.select (some node)) := by
  rw [Session.select, Session.select, h.knows]
  split
  · exact ⟨h.ensureNode.initial, h.ensureNode.state, h.ensureNode.listing, h.ensureNode.entry⟩
  · exact h

/-- Showing another node, or none, changes nothing here. -/
theorem agreeAt_select_of_ne (s : Session) {chosen : Option String} (hne : chosen ≠ some node) :
    AgreeAt node (s.select chosen) s := by
  cases chosen with
  | none => exact ⟨rfl, rfl, rfl, rfl⟩
  | some name =>
      have hensured : AgreeAt node (s.ensureNode name) s :=
        agreeAt_ensureNode_of_ne s (fun heq => hne (congrArg some heq))
      rw [Session.select]
      split
      · exact ⟨hensured.initial, hensured.state, hensured.listing, hensured.entry⟩
      · exact AgreeAt.refl s

/-! ## Responses -/

/-- Failing to list the pods on the node keeps the agreement. -/
theorem AgreeAt.failPods (h : AgreeAt node s t) (error : String) :
    AgreeAt node (s.failPods node error) (t.failPods node error) :=
  (h.setPods .notLoaded).updateNode _

/-- Failing to list those on another node changes nothing here. -/
theorem agreeAt_failPods_of_ne (s : Session) {name : String} (hne : name ≠ node)
    (error : String) : AgreeAt node (s.failPods name error) s :=
  (agreeAt_updateNode_of_ne _ hne _).trans (agreeAt_setPods_of_ne s hne .notLoaded)

/-- Listing the pods on the node keeps the agreement. -/
theorem AgreeAt.foldPods (h : AgreeAt node s t) (o : Outcome) (pods : List Pod) :
    AgreeAt node (s.foldPods o node pods) (t.foldPods o node pods) := by
  rw [Session.foldPods, Session.foldPods, h.contains]
  split
  · split
    · exact h.setPods _
    · exact h.failPods _
  · exact h

/-- Listing those on another node changes nothing here. -/
theorem agreeAt_foldPods_of_ne (s : Session) {name : String} (hne : name ≠ node) (o : Outcome)
    (pods : List Pod) : AgreeAt node (s.foldPods o name pods) s := by
  rw [Session.foldPods]
  split
  · split
    · exact agreeAt_setPods_of_ne s hne _
    · exact agreeAt_failPods_of_ne s hne _
  · exact AgreeAt.refl s

/-- Listing the nodes keeps the agreement. -/
theorem AgreeAt.foldNodes (h : AgreeAt node s t) (o : Outcome) (names : List String) :
    AgreeAt node (s.foldNodes o names) (t.foldNodes o names) := by
  rw [Session.foldNodes, Session.foldNodes]
  split
  · exact h.setNodes names
  · exact h.failNodes _

/-- A response for the node, or a node list, does the same to sessions that
    agree. -/
theorem AgreeAt.fold (h : AgreeAt node s t) {r : Response}
    (hfor : r.node? = some node ∨ r.kind = .listNodes) : AgreeAt node (s.fold r) (t.fold r) := by
  rcases hfor with mine | hlisting
  · by_cases hpods : r.kind = .listPods
    · cases r with
      | podsListed o name pods =>
          obtain rfl := Option.some.inj mine
          exact h.foldPods o pods
      | _ => cases hpods
    · rw [fold_eq_updateNode s mine hpods, fold_eq_updateNode t mine hpods]
      exact h.updateNode _
  · cases r with
    | nodesListed o names => exact h.foldNodes o names
    | _ => cases hlisting

/-- A response for another node is not noticed. -/
theorem agreeAt_fold_of_other (s : Session) {r : Response} (hother : r.node? ≠ some node)
    (hlisting : r.kind ≠ .listNodes) : AgreeAt node (s.fold r) s := by
  obtain ⟨name, hname⟩ : ∃ name, r.node? = some name := by
    cases r with
    | nodesListed => exact absurd rfl hlisting
    | _ => exact ⟨_, rfl⟩
  have hne : name ≠ node := fun heq => hother (hname.trans (congrArg some heq))
  by_cases hpods : r.kind = .listPods
  · cases r with
    | podsListed o name' pods =>
        obtain rfl := Option.some.inj hname
        exact agreeAt_foldPods_of_ne s hne o pods
    | _ => cases hpods
  · rw [fold_eq_updateNode s hname hpods]
    exact agreeAt_updateNode_of_ne s hne _

/-- An invalid response that names the node, or to a listing of the nodes,
    does the same to sessions that agree. -/
theorem AgreeAt.recordInvalid (h : AgreeAt node s t) {kind : OperationKind} {name : Option String}
    (hfor : name = some node ∨ kind = .listNodes) (capture : Option String) (error : String) :
    AgreeAt node (s.recordInvalid kind name capture error)
      (t.recordInvalid kind name capture error) := by
  by_cases hnodes : kind = .listNodes
  · subst hnodes
    rw [recordInvalid_listNodes, recordInvalid_listNodes]
    exact h.failNodes error
  · obtain rfl := hfor.resolve_right hnodes
    rw [recordInvalid_some s hnodes, recordInvalid_some t hnodes, h.hasNode]
    split
    · split
      · exact h.failPods error
      · exact h.updateNode _
    · exact h.withError _

/-- An invalid response that does not name the node is not noticed. -/
theorem agreeAt_recordInvalid_of_other (s : Session) {kind : OperationKind}
    {name : Option String} (hother : name ≠ some node) (hnodes : kind ≠ .listNodes)
    (capture : Option String) (error : String) :
    AgreeAt node (s.recordInvalid kind name capture error) s := by
  cases name with
  | none =>
      rw [recordInvalid_none s hnodes]
      exact agreeAt_withError s _
  | some name =>
      have hne : name ≠ node := fun heq => hother (congrArg some heq)
      rw [recordInvalid_some s hnodes]
      split
      · split
        · exact agreeAt_failPods_of_ne s hne error
        · exact agreeAt_updateNode_of_ne s hne _
      · exact agreeAt_withError s _

/-- The name of the listing of the nodes is registered for it alone. -/
theorem kind_eq_listNodes_iff {name : String} {kind : OperationKind}
    (h : OperationKind.ofName? name = some kind) :
    kind = .listNodes ↔ name = OperationKind.listNodes.name := by
  have hname : kind.name = name := by
    have hfound := List.find?_some h
    simpa using hfound
  rw [← hname]
  cases kind <;> decide

/-- A payload for the node, or of a node list, does the same to sessions that
    agree. -/
theorem AgreeAt.foldRaw (h : AgreeAt node s t) {name : String} {content : Json}
    (hfor : payloadText? "node" content = some node ∨ name = OperationKind.listNodes.name) :
    AgreeAt node (s.foldRaw name content) (t.foldRaw name content) := by
  cases hkind : OperationKind.ofName? name with
  | none =>
      rw [foldRaw_of_unknown s hkind, foldRaw_of_unknown t hkind]
      exact h.withError _
  | some kind =>
      have hfor' := hfor.imp_right (kind_eq_listNodes_iff hkind).mpr
      cases hread : Response.ofJson kind content with
      | error e =>
          rw [foldRaw_of_error s hkind hread, foldRaw_of_error t hkind hread]
          exact h.recordInvalid hfor' _ _
      | ok r =>
          rw [foldRaw_of_ok s hkind hread, foldRaw_of_ok t hkind hread]
          refine h.fold ?_
          by_cases hnodes : kind = .listNodes
          · exact Or.inr ((Response.kind_of_ofJson hread).trans hnodes)
          · exact Or.inl ((Response.node?_of_ofJson hread hnodes).trans
              (hfor'.resolve_right hnodes))

/-- A payload for another node is not noticed. -/
theorem agreeAt_foldRaw_of_other (s : Session) {name : String} {content : Json}
    (hother : payloadText? "node" content ≠ some node)
    (hlisting : name ≠ OperationKind.listNodes.name) :
    AgreeAt node (s.foldRaw name content) s := by
  cases hkind : OperationKind.ofName? name with
  | none =>
      rw [foldRaw_of_unknown s hkind]
      exact agreeAt_withError s _
  | some kind =>
      have hnodes : kind ≠ .listNodes := fun heq =>
        hlisting ((kind_eq_listNodes_iff hkind).mp heq)
      cases hread : Response.ofJson kind content with
      | error e =>
          rw [foldRaw_of_error s hkind hread]
          exact agreeAt_recordInvalid_of_other s hother hnodes _ _
      | ok r =>
          rw [foldRaw_of_ok s hkind hread]
          refine agreeAt_fold_of_other s ?_ ?_
          · rw [Response.node?_of_ofJson hread hnodes]
            exact hother
          · rw [Response.kind_of_ofJson hread]
            exact hnodes

/-! ## Intents -/

/-- Beginning an operation on another node is not noticed. -/
theorem Begins.agreeAt {i : Intent} {r : Request} (h : s.Begins i r t)
    (hother : i.node? ≠ some node) (hlisting : (Event.intent i).isListing = false) :
    AgreeAt node t s := by
  have hne : ∀ {name : String}, i.node? = some name → name ≠ node := fun hname heq =>
    hother (hname.trans (congrArg some heq))
  cases h with
  | checkNode =>
      exact (agreeAt_updateNode_of_ne _ (hne rfl) _).trans (agreeAt_ensureNode_of_ne s (hne rfl))
  | listNodes => cases hlisting
  | listPods => exact agreeAt_setPods_of_ne s (hne rfl) _
  | _ => exact agreeAt_updateNode_of_ne s (hne rfl) _

/-- A local intent about another node is not noticed. -/
theorem Adjusts.agreeAt {i : Intent} (h : s.Adjusts i t) (hother : i.node? ≠ some node) :
    AgreeAt node t s := by
  cases h with
  | select known => exact agreeAt_select_of_ne s hother
  | edit edits here fits =>
      refine agreeAt_updateNode_of_ne s ?_ _
      rintro rfl
      cases i <;> simp only [Intent.edit?, Option.some.injEq, Prod.mk.injEq, reduceCtorEq] at edits
      all_goals exact hother (congrArg some edits.1)

end Session

namespace Orchestrator

variable {node : String} {o p : Orchestrator}

/-- The node is in a status or not alike. -/
theorem nodeIn?_eq (h : o.session.AgreeAt node p.session) (statuses : NodeStatus → Bool) :
    o.nodeIn? node statuses = p.nodeIn? node statuses :=
  congrArg (Option.filter _) h.state

/-- Results of an intent are alike at a node: the same error, or answers that
    both accept or both refuse, and sessions that agree. -/
inductive AlikeAt (node : String) : Except ValidationError (Orchestrator × Answer) →
    Except ValidationError (Orchestrator × Answer) → Prop where
  | error {e : ValidationError} : AlikeAt node (.error e) (.error e)
  | ok {o p : Orchestrator} {a b : Answer} (agree : o.session.AgreeAt node p.session)
      (answer : a.isAccepted = b.isAccepted) : AlikeAt node (.ok (o, a)) (.ok (p, b))

/-- Two refusals are alike. -/
theorem alikeAt_refused (h : o.session.AgreeAt node p.session) :
    AlikeAt node (.ok (o, .refused)) (.ok (p, .refused)) :=
  .ok h rfl

/-- Beginning the same request is alike. -/
theorem alikeAt_begin (h : o.session.AgreeAt node p.session) (f : Node → Node) (q : Request) :
    AlikeAt node (.ok (o.begin node f q)) (.ok (p.begin node f q)) :=
  .ok (h.updateNode f) rfl

/-- Editing the node is alike. -/
theorem alikeAt_edit (h : o.session.AgreeAt node p.session) (f : Node → Node) :
    AlikeAt node (.ok (o.edit node f)) (.ok (p.edit node f)) := by
  rw [edit, edit, nodeIn?_eq h]
  split
  · exact .ok (h.updateNode f) rfl
  · exact alikeAt_refused h

/-- Showing the node is alike. -/
theorem alikeAt_select (h : o.session.AgreeAt node p.session) :
    AlikeAt node (.ok (o.select (some node))) (.ok (p.select (some node))) := by
  rw [select, select, knows, knows, h.knows]
  split
  · exact .ok h.select rfl
  · exact alikeAt_refused h

/-- Beginning a check is alike. -/
theorem alikeAt_beginCheck (h : o.session.AgreeAt node p.session) :
    AlikeAt node (.ok (o.beginCheck node)) (.ok (p.beginCheck node)) := by
  have hensured : (o.publish (o.session.ensureNode node)).session.AgreeAt node
      (p.publish (p.session.ensureNode node)).session := h.ensureNode
  rw [beginCheck, beginCheck, knows, knows, h.knows]
  split
  · dsimp only
    rw [nodeIn?_eq hensured]
    split
    · exact alikeAt_begin hensured _ _
    · exact alikeAt_refused hensured
  · exact alikeAt_refused h

/-- Beginning the creation of a debug pod is alike. -/
theorem alikeAt_beginCreation (h : o.session.AgreeAt node p.session) :
    AlikeAt node (.ok (o.beginCreation node)) (.ok (p.beginCreation node)) := by
  rw [beginCreation, beginCreation, nodeIn?_eq h]
  split
  · exact alikeAt_begin h _ _
  · exact alikeAt_refused h

/-- Beginning the deletion of a debug pod is alike, as the captures agree. -/
theorem alikeAt_beginDeletion (h : o.session.AgreeAt node p.session) :
    AlikeAt node (.ok (o.beginDeletion node)) (.ok (p.beginDeletion node)) := by
  rw [beginDeletion, beginDeletion, nodeIn?_eq h]
  split
  · split
    · exact alikeAt_refused h
    · exact alikeAt_begin h _ _
  · exact alikeAt_refused h

/-- An operation that carries a capture name begins alike, or the name is the
    same error. -/
theorem alikeAt_named (h : o.session.AgreeAt node p.session)
    (name : Except ValidationError String) (f : String → Node → Node) (q : String → Request) :
    AlikeAt node (do let name ← name; return o.begin node (f name) (q name))
      (do let name ← name; return p.begin node (f name) (q name)) := by
  cases name with
  | error e => exact .error
  | ok name => exact alikeAt_begin h _ _

/-- Beginning the start of a capture is alike. -/
theorem alikeAt_beginStart (h : o.session.AgreeAt node p.session) (capture : String) :
    AlikeAt node (o.beginStart node capture) (p.beginStart node capture) := by
  rw [beginStart, beginStart, nodeIn?_eq h]
  split
  · exact alikeAt_named h _ _ _
  · exact alikeAt_refused h

/-- Beginning its stop is alike. -/
theorem alikeAt_beginStop (h : o.session.AgreeAt node p.session) :
    AlikeAt node (o.beginStop node) (p.beginStop node) := by
  rw [beginStop, beginStop, nodeIn?_eq h]
  split
  · exact alikeAt_named h _ _ _
  · exact alikeAt_refused h

/-- Beginning a download is alike. -/
theorem alikeAt_beginDownload (h : o.session.AgreeAt node p.session) (capture path : String) :
    AlikeAt node (o.beginDownload node capture path) (p.beginDownload node capture path) := by
  rw [beginDownload, beginDownload, nodeIn?_eq h]
  split
  · split
    · split
      · exact alikeAt_refused h
      · exact alikeAt_named h _ _ _
    · exact alikeAt_refused h
  · exact alikeAt_refused h

/-- Beginning to list nodes is alike. -/
theorem alikeAt_beginNodes (h : o.session.AgreeAt node p.session) :
    AlikeAt node (.ok o.beginNodes) (.ok p.beginNodes) := by
  rw [beginNodes, beginNodes, h.listing]
  split
  · exact .ok h.setNodesLoading rfl
  · exact alikeAt_refused h

/-- Beginning to list the pods on the node is alike. -/
theorem alikeAt_beginPods (h : o.session.AgreeAt node p.session) :
    AlikeAt node (.ok (o.beginPods node)) (.ok (p.beginPods node)) := by
  rw [beginPods, beginPods, h.entry]
  split
  · split
    · exact .ok (h.setPods .loading) rfl
    · exact alikeAt_refused h
  · exact alikeAt_refused h

/-- Beginning to list its interfaces is alike. -/
theorem alikeAt_beginInterfaces (h : o.session.AgreeAt node p.session) :
    AlikeAt node (.ok (o.beginInterfaces node)) (.ok (p.beginInterfaces node)) := by
  rw [beginInterfaces, beginInterfaces, nodeIn?_eq h]
  split
  · split
    · exact alikeAt_begin h _ _
    · exact alikeAt_refused h
  · exact alikeAt_refused h

/-- An intent for the node has results that are alike where the sessions
    agree. -/
theorem alikeAt_perform (h : o.session.AgreeAt node p.session) {i : Intent}
    (hfor : (Event.intent i).isFor node) : AlikeAt node (o.perform i) (p.perform i) := by
  -- every other intent than the listing of the nodes is about the node
  have mine : ∀ {name : String}, i.node? = some name → (Event.intent i).isListing = false →
      name = node := by
    intro name hname hlisting
    rcases Event.isFor_iff.mp hfor with hnode | hlists
    · exact Option.some.inj (hname.symm.trans hnode)
    · rw [hlisting] at hlists
      cases hlists
  cases i with
  | listNodes => exact alikeAt_beginNodes h
  | select chosen =>
      cases chosen with
      | none =>
          rcases Event.isFor_iff.mp hfor with hnode | hlists
          · cases hnode
          · cases hlists
      | some name =>
          obtain rfl := mine rfl rfl
          exact alikeAt_select h
  | setFilters name change =>
      obtain rfl := mine rfl rfl
      exact alikeAt_edit h _
  | selectScenario name kind =>
      obtain rfl := mine rfl rfl
      exact alikeAt_edit h _
  | setScenario name scenario =>
      obtain rfl := mine rfl rfl
      exact alikeAt_edit h _
  | setProtocol name protocol =>
      obtain rfl := mine rfl rfl
      exact alikeAt_edit h _
  | setFilterText name text =>
      obtain rfl := mine rfl rfl
      exact alikeAt_edit h _
  | checkNode name =>
      obtain rfl := mine rfl rfl
      exact alikeAt_beginCheck h
  | createPod name =>
      obtain rfl := mine rfl rfl
      exact alikeAt_beginCreation h
  | deletePod name =>
      obtain rfl := mine rfl rfl
      exact alikeAt_beginDeletion h
  | startCapture name capture =>
      obtain rfl := mine rfl rfl
      exact alikeAt_beginStart h capture
  | stopCapture name =>
      obtain rfl := mine rfl rfl
      exact alikeAt_beginStop h
  | download name capture path =>
      obtain rfl := mine rfl rfl
      exact alikeAt_beginDownload h capture path
  | listPods name =>
      obtain rfl := mine rfl rfl
      exact alikeAt_beginPods h
  | listInterfaces name =>
      obtain rfl := mine rfl rfl
      exact alikeAt_beginInterfaces h

/-- What is performed alike is accepted alike. -/
theorem AlikeAt.accepts {i : Intent} (h : AlikeAt node (o.perform i) (p.perform i)) :
    o.accepts i = p.accepts i := by
  rw [Orchestrator.accepts, Orchestrator.accepts]
  generalize o.perform i = mine at h
  generalize p.perform i = other at h
  cases h with
  | error => rfl
  | ok agree answer => exact congrArg Except.ok answer

/-! ## Events -/

/-- An event for the node takes sessions that agree to sessions that agree. -/
theorem agreeAt_handle (h : o.session.AgreeAt node p.session) {e : Event} (hfor : e.isFor node) :
    (o.handle e).session.AgreeAt node (p.handle e).session := by
  cases e with
  | intent i =>
      have halike := alikeAt_perform h hfor
      simp only [handle]
      generalize o.perform i = mine at halike ⊢
      generalize p.perform i = other at halike ⊢
      cases halike with
      | error => exact h
      | ok agree answer => exact agree
  | response r =>
      refine h.fold ?_
      simpa [Event.node?, Event.isListing] using Event.isFor_iff.mp hfor
  | payload name content =>
      refine h.foldRaw ?_
      simpa [Event.node?, Event.isListing] using Event.isFor_iff.mp hfor

/-- Any other event is not noticed at the node. -/
theorem agreeAt_handle_of_other (o : Orchestrator) {e : Event} (hother : e.isFor node = false) :
    (o.handle e).session.AgreeAt node o.session := by
  have hnot : ¬ (e.node? = some node ∨ e.isListing = true) := by
    rw [← Event.isFor_iff, hother]
    exact Bool.false_ne_true
  obtain ⟨hnode, hlisting⟩ := not_or.mp hnot
  cases e with
  | intent i =>
      simp only [handle]
      cases hp : o.perform i with
      | error e => exact Session.AgreeAt.refl _
      | ok result =>
          obtain ⟨o', a⟩ := result
          cases performs_of_perform hp with
          | refused session =>
              rw [session]
          | done adjusts => exact adjusts.agreeAt hnode
          | begun begins => exact begins.agreeAt hnode (Bool.eq_false_iff.mpr hlisting)
  | response r =>
      refine Session.agreeAt_fold_of_other _ hnode ?_
      simpa [Event.isListing] using hlisting
  | payload name content =>
      refine Session.agreeAt_foldRaw_of_other _ hnode ?_
      simpa [Event.isListing] using hlisting

/-- Where sessions agree at a node, so they do after a run and after what is
    for the node in it, and the answers are the same. -/
theorem agreeAt_run (h : o.session.AgreeAt node p.session) (events : List Event) :
    (o.run events).session.AgreeAt node (p.run (events.filter (Event.isFor node))).session
      ∧ o.answersAt node events = p.answersAt node (events.filter (Event.isFor node)) := by
  induction events generalizing o p with
  | nil => exact ⟨h, rfl⟩
  | cons e events ih =>
      cases hfor : e.isFor node with
      | true =>
          rw [List.filter_cons_of_pos hfor, run_cons, run_cons]
          obtain ⟨hagree, hanswers⟩ := ih (agreeAt_handle h hfor)
          refine ⟨hagree, ?_⟩
          cases e with
          | intent i =>
              simp only [answersAt, hfor, if_true]
              rw [hanswers, (alikeAt_perform h hfor).accepts]
          | response r => exact hanswers
          | payload name content => exact hanswers
      | false =>
          rw [List.filter_cons_of_neg (by rw [hfor]; exact Bool.false_ne_true), run_cons]
          obtain ⟨hagree, hanswers⟩ := ih ((agreeAt_handle_of_other o hfor).trans h)
          refine ⟨hagree, ?_⟩
          rw [← hanswers]
          cases e with
          | intent i => simp [answersAt, hfor]
          | response r => rfl
          | payload name content => rfl

end Orchestrator

/-- In every run, whatever intents, responses and payloads it is made of, a
    node has the same state and the same entry in the node list, and the
    intents for it get the same answers, as in the run of those events alone
    that are for the node. -/
theorem nodes_do_not_interfere (cluster : String) (initialNodes : List String)
    (events : List Event) (node : String) :
    ((Orchestrator.create cluster initialNodes).run events).session.node? node
        = ((Orchestrator.create cluster initialNodes).run
            (events.filter (Event.isFor node))).session.node? node
      ∧ ((Orchestrator.create cluster initialNodes).run events).session.reference.get? node
        = ((Orchestrator.create cluster initialNodes).run
            (events.filter (Event.isFor node))).session.reference.get? node
      ∧ (Orchestrator.create cluster initialNodes).answersAt node events
        = (Orchestrator.create cluster initialNodes).answersAt node
            (events.filter (Event.isFor node)) := by
  have hstart : Session.AgreeAt node (Orchestrator.create cluster initialNodes).session
      (Orchestrator.create cluster initialNodes).session := Session.AgreeAt.refl _
  obtain ⟨hagree, hanswers⟩ := Orchestrator.agreeAt_run hstart events
  exact ⟨hagree.state, hagree.entry, hanswers⟩

end NodeCapture
