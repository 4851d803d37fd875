import NodeCapture.Proofs.Nodes
import NodeCapture.Proofs.Validation

/-! # Folding at one node

    A response that concerns a node changes the session exactly by one change
    of the state of that node, apart from the cells of the reference data.
    `Response.effect` is that change for a valid response and
    `OperationKind.failureEffect` the one for a payload that is no valid
    response; the nodes that neither of them concerns stay as they are. -/

namespace NodeCapture

/-- Changes that agree on the state of a name change a list alike. -/
theorem modifyNode_congr {name : String} {f g : Node → Node}
    {entries : List (String × Node)}
    (h : ∀ n, findNode name entries = some n → f n = g n) :
    modifyNode name f entries = modifyNode name g entries := by
  induction entries with
  | nil => rfl
  | cons entry rest ih =>
      obtain ⟨key, n⟩ := entry
      by_cases hkey : key = name
      · have hn : f n = g n := h n (by simp [findNode, hkey])
        simp [modifyNode, hkey, hn]
      · have hrest : ∀ n, findNode name rest = some n → f n = g n := by
          intro n hn
          exact h n (by simp [findNode, hkey, hn])
        simp [modifyNode, hkey, ih hrest]

/-- A name without a state has nothing to change. -/
theorem modifyNode_of_absent {name : String} {f : Node → Node}
    {entries : List (String × Node)} (h : findNode name entries = none) :
    modifyNode name f entries = entries := by
  induction entries with
  | nil => rfl
  | cons entry rest ih =>
      obtain ⟨key, n⟩ := entry
      by_cases hkey : key = name
      · simp [findNode, hkey] at h
      · have hrest : findNode name rest = none := by simpa [findNode, hkey] using h
        simp [modifyNode, hkey, ih hrest]

/-- Changes of one name one after another are one change. -/
theorem modifyNode_modifyNode (name : String) (f g : Node → Node)
    (entries : List (String × Node)) :
    modifyNode name g (modifyNode name f entries) = modifyNode name (fun n => g (f n)) entries := by
  induction entries with
  | nil => rfl
  | cons entry rest ih =>
      obtain ⟨key, n⟩ := entry
      by_cases hkey : key = name
      · simp [modifyNode, hkey]
      · simp [modifyNode, hkey, ih]

/-- Changing a node to itself changes nothing. -/
theorem modifyNode_id (name : String) (entries : List (String × Node)) :
    modifyNode name id entries = entries := by
  induction entries with
  | nil => rfl
  | cons entry rest ih =>
      obtain ⟨key, n⟩ := entry
      by_cases hkey : key = name
      · simp [modifyNode, hkey]
      · simp [modifyNode, hkey, ih]

namespace Node

/-- What a response to an operation does to its node, where `f` settles the
    operation: nothing but an error where the node does not wait for it. -/
def awaiting (kind : OperationKind) (node : String) (f : Node → Node) (n : Node) : Node :=
  match kind.awaitedStatus? with
  | none => f n
  | some awaited =>
      if n.status = awaited then f n
      else n.withError (Session.unexpectedText kind node n.status)

/-- A node that does not wait for a response gets an error and nothing else. -/
theorem awaiting_cases (kind : OperationKind) (node : String) (f : Node → Node) (n : Node) :
    (awaiting kind node f n = f n
        ∧ ∀ awaited, kind.awaitedStatus? = some awaited → n.status = awaited)
      ∨ ∃ awaited text, kind.awaitedStatus? = some awaited ∧ n.status ≠ awaited
          ∧ awaiting kind node f n = n.withError text := by
  cases hkind : kind.awaitedStatus? with
  | none =>
      refine Or.inl ⟨by simp [awaiting, hkind], ?_⟩
      intro awaited hawaited
      cases hawaited
  | some awaited =>
      by_cases hstatus : n.status = awaited
      · refine Or.inl ⟨by simp [awaiting, hkind, hstatus], ?_⟩
        intro other hother
        exact hstatus.trans (Option.some.inj hother)
      · refine Or.inr ⟨awaited, Session.unexpectedText kind node n.status, rfl, hstatus, ?_⟩
        simp [awaiting, hkind, hstatus]

end Node

namespace Response

/-- What a response does to a node that waits for it. -/
def update : Response → Node → Node
  | nodeChecked o _ podRunning running completed, n =>
      n.settleCheck o podRunning running completed
  | podCreated o _, n => n.settleCreation o
  | podDeleted o _, n => n.settleDeletion o
  | captureStarted o _, n => n.settleStart o
  | captureStopped o _ capture, n => n.settleStop o capture
  | downloaded o _ capture path, n => n.settleDownload o capture path
  | interfacesListed o _ names, n => n.settleInterfaces o names
  | nodesListed .., n => n
  | podsListed o node _, n =>
      if o.succeeded then n
      else n.withError (Node.errorOr o ("Failed to list pods on " ++ node))

/-- What a response does to the node that it concerns. -/
def effect (r : Response) (node : String) : Node → Node :=
  Node.awaiting r.kind node r.update

end Response

/-- What an invalid response to an operation does to the node that it
    concerns. -/
def OperationKind.failureEffect (kind : OperationKind) (capture : Option String)
    (error : String) (n : Node) : Node :=
  if kind = .listPods then n.withError error else Session.invalidate kind capture error n

namespace Session

variable (s : Session)

/-- Only what becomes of the state that is there matters. -/
theorem updateNode_congr {name : String} {f g : Node → Node}
    (h : ∀ n, s.node? name = some n → f n = g n) :
    s.updateNode name f = s.updateNode name g := by
  unfold updateNode
  rw [modifyNode_congr h]

/-- Without a state, there is nothing to change. -/
theorem updateNode_of_absent {name : String} {f : Node → Node} (h : s.node? name = none) :
    s.updateNode name f = s := by
  rw [updateNode]
  rw [modifyNode_of_absent h]

/-- Two changes of a node are one. -/
theorem updateNode_updateNode (node : String) (f g : Node → Node) :
    (s.updateNode node f).updateNode node g = s.updateNode node (fun n => g (f n)) :=
  congrArg (fun nodes => { s with nodes := nodes }) (modifyNode_modifyNode node f g s.nodes)

/-- A change that leaves the state of its node alone changes nothing, and no
    other one does so. -/
theorem updateNode_eq_self_iff {s : Session} {node : String} {n : Node}
    (here : s.node? node = some n) (f : Node → Node) :
    s.updateNode node f = s ↔ f n = n := by
  constructor
  · intro hsame
    have hnode := node?_updateNode s node node f
    rw [hsame, if_pos rfl, here] at hnode
    exact (Option.some.inj hnode).symm
  · intro hn
    have hid : s.updateNode node f = s.updateNode node id := by
      refine updateNode_congr s ?_
      intro m hm
      rw [here] at hm
      rw [← Option.some.inj hm]
      exact hn
    rw [hid]
    exact congrArg (fun nodes => { s with nodes := nodes }) (modifyNode_id node s.nodes)

/-- Settling is one change of the state of the node. -/
theorem settle_eq_updateNode (kind : OperationKind) (node : String) (f : Node → Node) :
    s.settle kind node f = s.updateNode node (Node.awaiting kind node f) := by
  rw [settle]
  cases hn : s.node? node with
  | none => exact (updateNode_of_absent s hn).symm
  | some n =>
      cases hk : kind.awaitedStatus? with
      | none =>
          refine updateNode_congr s ?_
          intro m _
          simp [Node.awaiting, hk]
      | some awaited =>
          by_cases hs : n.status = awaited
          · simp only [hs, if_true]
            refine updateNode_congr s ?_
            intro m hm
            rw [hn] at hm
            cases hm
            simp [Node.awaiting, hk, hs]
          · simp only [hs, if_false]
            refine updateNode_congr s ?_
            intro m hm
            rw [hn] at hm
            cases hm
            simp [Node.awaiting, hk, hs]

/-- A response to an operation on a node, pod lists apart, is one change of
    the state of that node. -/
theorem fold_eq_updateNode {r : Response} {node : String} (hnode : r.node? = some node)
    (hkind : r.kind ≠ .listPods) : s.fold r = s.updateNode node (r.effect node) := by
  have h : s.fold r = s.settle r.kind node r.update := by
    cases r with
    | nodesListed => cases hnode
    | podsListed => exact absurd rfl hkind
    | _ =>
        obtain rfl := Option.some.inj hnode
        rfl
  rw [h]
  exact settle_eq_updateNode s r.kind node r.update

/-- A pod list does to its node what it reports, where the node is listed. -/
theorem node?_foldPods (o : Outcome) (name node : String) (pods : List Pod) :
    (s.foldPods o name pods).node? node
      = if node = name ∧ s.reference.contains name then
          (s.node? node).map ((Response.podsListed o name pods).effect name)
        else s.node? node := by
  rw [foldPods]
  cases hlisted : s.reference.contains name with
  | false => simp
  | true =>
      cases hok : o.succeeded with
      | true =>
          have hsame : (Response.podsListed o name pods).effect name = id := by
            funext n
            simp [Response.effect, Node.awaiting, Response.update, Response.kind,
              OperationKind.awaitedStatus?, hok]
          simp [hsame]
      | false =>
          have herror : (Response.podsListed o name pods).effect name
              = fun n => n.withError (Node.errorOr o ("Failed to list pods on " ++ name)) := by
            funext n
            simp [Response.effect, Node.awaiting, Response.update, Response.kind,
              OperationKind.awaitedStatus?, hok]
          simp [herror]

/-- A node list does nothing to the nodes that have a state. -/
theorem node?_foldNodes (o : Outcome) (names : List String) (node : String) :
    (s.foldNodes o names).node? node
      = (s.node? node).or (if o.succeeded ∧ node ∈ names then some {} else none) := by
  rw [foldNodes]
  cases hok : o.succeeded with
  | true =>
      rw [if_pos rfl, node?_setNodes]
      simp
  | false => simp

/-- What folding a response may do to a node: nothing, or its effect where the
    node is the one that it concerns, or a first state. -/
theorem node?_fold_cases (r : Response) (node : String) :
    (s.fold r).node? node = s.node? node
      ∨ (r.node? = some node
          ∧ ∃ n, s.node? node = some n ∧ (s.fold r).node? node = some (r.effect node n))
      ∨ (r.kind = .listNodes ∧ s.node? node = none ∧ (s.fold r).node? node = some {}) := by
  by_cases hnodes : r.kind = .listNodes
  · cases r with
    | nodesListed o names =>
        have h : (s.fold (.nodesListed o names)).node? node
            = (s.node? node).or (if o.succeeded ∧ node ∈ names then some {} else none) :=
          node?_foldNodes s o names node
        cases hn : s.node? node with
        | some n => exact Or.inl (by rw [h, hn]; rfl)
        | none =>
            by_cases hlisted : o.succeeded ∧ node ∈ names
            · exact Or.inr (Or.inr ⟨rfl, rfl, by rw [h, hn, if_pos hlisted]; rfl⟩)
            · exact Or.inl (by rw [h, hn, if_neg hlisted]; rfl)
    | _ => cases hnodes
  · obtain ⟨name, hname⟩ : ∃ name, r.node? = some name := by
      cases r with
      | nodesListed => exact absurd rfl hnodes
      | _ => exact ⟨_, rfl⟩
    -- every other response is its effect on the node that it names, if it is anything
    have h : (s.fold r).node? node = s.node? node
        ∨ (node = name ∧ (s.fold r).node? node = (s.node? node).map (r.effect name)) := by
      by_cases hpods : r.kind = .listPods
      · cases r with
        | podsListed o name' pods =>
            obtain rfl : name' = name := Option.some.inj hname
            have hfold := node?_foldPods s o name' node pods
            by_cases hcond : node = name' ∧ s.reference.contains name'
            · exact Or.inr ⟨hcond.1, hfold.trans (if_pos hcond)⟩
            · exact Or.inl (hfold.trans (if_neg hcond))
        | _ => cases hpods
      · rw [fold_eq_updateNode s hname hpods, node?_updateNode]
        by_cases hnode : node = name
        · exact Or.inr ⟨hnode, if_pos hnode⟩
        · exact Or.inl (if_neg hnode)
    rcases h with h | ⟨rfl, h⟩
    · exact Or.inl h
    · cases hn : s.node? node with
      | none => exact Or.inl (by rw [h, hn]; rfl)
      | some n => exact Or.inr (Or.inl ⟨hname, n, rfl, by rw [h, hn]; rfl⟩)

/-! ## Invalid payloads -/

/-- An unreadable list of nodes fails that list. -/
@[simp]
theorem recordInvalid_listNodes (node capture : Option String) (error : String) :
    s.recordInvalid .listNodes node capture error = s.failNodes error := by
  cases node <;> rfl

/-- What names no node is an error of the session. -/
theorem recordInvalid_none {kind : OperationKind} (hkind : kind ≠ .listNodes)
    (capture : Option String) (error : String) :
    s.recordInvalid kind none capture error = { s with error := some error } := by
  cases kind <;> first | rfl | exact absurd rfl hkind

/-- What names a node fails there, or is an error of the session if nothing is
    known of it. -/
theorem recordInvalid_some {kind : OperationKind} (hkind : kind ≠ .listNodes) (name : String)
    (capture : Option String) (error : String) :
    s.recordInvalid kind (some name) capture error
      = if s.hasNode name then
          if kind = .listPods then s.failPods name error
          else s.updateNode name (invalidate kind capture error)
        else { s with error := some error } := by
  cases kind <;> first | rfl | exact absurd rfl hkind

/-- An invalid response to an operation on a node with a state, pod lists
    apart, is one change of that state. -/
theorem recordInvalid_eq_updateNode {kind : OperationKind} {node error : String}
    {capture : Option String} {n : Node} (hn : s.node? node = some n)
    (hnodes : kind ≠ .listNodes) (hpods : kind ≠ .listPods) :
    s.recordInvalid kind (some node) capture error
      = s.updateNode node (kind.failureEffect capture error) := by
  have hhas : s.hasNode node = true := (hasNode_iff s node).mpr ⟨n, hn⟩
  have heffect : kind.failureEffect capture error = Session.invalidate kind capture error := by
    funext m
    simp [OperationKind.failureEffect, hpods]
  cases kind <;> simp_all [recordInvalid]

/-- What an invalid response may do to a node: nothing, or its effect where
    the node is the one that it names. -/
theorem node?_recordInvalid_cases (kind : OperationKind) (name capture : Option String)
    (error node : String) :
    (s.recordInvalid kind name capture error).node? node = s.node? node
      ∨ (kind ≠ .listNodes ∧ name = some node ∧ ∃ n, s.node? node = some n
          ∧ (s.recordInvalid kind name capture error).node? node
              = some (kind.failureEffect capture error n)) := by
  by_cases hnodes : kind = .listNodes
  · subst hnodes
    refine Or.inl ?_
    cases name <;> exact node?_failNodes s node error
  · cases name with
    | none =>
        refine Or.inl ?_
        cases kind <;> rfl
    | some name =>
        by_cases hhas : s.hasNode name
        · obtain ⟨n, hn⟩ := (hasNode_iff s name).mp hhas
          have h : (s.recordInvalid kind (some name) capture error).node? node
              = if node = name then (s.node? node).map (kind.failureEffect capture error)
                else s.node? node := by
            by_cases hpods : kind = .listPods
            · subst hpods
              have hfail : s.recordInvalid .listPods (some name) capture error
                  = s.failPods name error := by simp [recordInvalid, hhas]
              rw [hfail, node?_failPods]
              rfl
            · rw [recordInvalid_eq_updateNode s hn hnodes hpods, node?_updateNode]
          by_cases hnode : node = name
          · subst hnode
            exact Or.inr ⟨hnodes, rfl, n, hn, by rw [h, if_pos rfl, hn]; rfl⟩
          · exact Or.inl (by rw [h, if_neg hnode])
        · refine Or.inl ?_
          cases kind <;> simp_all [recordInvalid, node?]

/-- A response of an unknown name is an error of the session. -/
theorem foldRaw_of_unknown {name : String} (hname : OperationKind.ofName? name = none)
    (payload : Json) :
    s.foldRaw name payload = { s with error := some ("Received unknown response " ++ name) } := by
  rw [foldRaw, hname]

/-- A response that can be read is folded. -/
theorem foldRaw_of_ok {name : String} {kind : OperationKind} {payload : Json} {r : Response}
    (hname : OperationKind.ofName? name = some kind)
    (hread : Response.ofJson kind payload = .ok r) : s.foldRaw name payload = s.fold r := by
  rw [foldRaw, hname]
  simp only [hread]

/-- A response that cannot be read is recorded for what it names. -/
theorem foldRaw_of_error {name : String} {kind : OperationKind} {payload : Json}
    {e : ValidationError} (hname : OperationKind.ofName? name = some kind)
    (hread : Response.ofJson kind payload = .error e) :
    s.foldRaw name payload
      = s.recordInvalid kind (payloadText? "node" payload) (payloadText? "capture_name" payload)
          (invalidText name) := by
  rw [foldRaw, hname]
  simp only [hread]

/-- What a payload is taken for: nothing that is known, a valid response, or
    an invalid one to an operation. -/
theorem foldRaw_cases (name : String) (payload : Json) :
    (OperationKind.ofName? name = none
        ∧ s.foldRaw name payload = { s with error := some ("Received unknown response " ++ name) })
      ∨ ∃ kind, OperationKind.ofName? name = some kind
        ∧ ((∃ r, Response.ofJson kind payload = .ok r ∧ s.foldRaw name payload = s.fold r)
          ∨ s.foldRaw name payload
              = s.recordInvalid kind (payloadText? "node" payload)
                  (payloadText? "capture_name" payload) (invalidText name)) := by
  cases hname : OperationKind.ofName? name with
  | none => exact Or.inl ⟨rfl, foldRaw_of_unknown s hname payload⟩
  | some kind =>
      refine Or.inr ⟨kind, rfl, ?_⟩
      cases hread : Response.ofJson kind payload with
      | ok r => exact Or.inl ⟨r, rfl, foldRaw_of_ok s hname hread⟩
      | error e => exact Or.inr (foldRaw_of_error s hname hread)

end Session

end NodeCapture
