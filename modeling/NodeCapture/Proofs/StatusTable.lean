import NodeCapture.Proofs.Events

/-! # The table of statuses

    A node moves through its nine statuses along a fixed table.  An accepted
    intent takes it from a stable status to the transient one of its
    operation (`Intent.Departs`); a response to that operation takes it on,
    in success (`OperationKind.Succeeds`) or in failure
    (`OperationKind.Fails`).  The main statement is that every event of every
    run does nothing else to a status, that the error of the node tells
    success from failure, and that a response to another operation than the
    one under way leaves only an error. -/

namespace NodeCapture

/-- Where an intent takes its node. -/
inductive Intent.Departs : Intent → String → NodeStatus → NodeStatus → Prop where
  | checkNode (node : String) : Departs (.checkNode node) node .unknown .checking
  | createPod (node : String) : Departs (.createPod node) node .clean .creatingPod
  | deletePod (node : String) : Departs (.deletePod node) node .podRunning .deletingPod
  | startCapture (node capture : String) :
      Departs (.startCapture node capture) node .podRunning .captureStarting
  | stopCapture (node : String) : Departs (.stopCapture node) node .captureRunning .captureStopping

/-- Where a successful response takes its node. -/
inductive OperationKind.Succeeds : OperationKind → NodeStatus → NodeStatus → Prop where
  | checkedClean : Succeeds .checkNode .checking .clean
  | checkedPod : Succeeds .checkNode .checking .podRunning
  | checkedCapture : Succeeds .checkNode .checking .captureRunning
  | created : Succeeds .createPod .creatingPod .podRunning
  | deleted : Succeeds .deletePod .deletingPod .clean
  | started : Succeeds .startCapture .captureStarting .captureRunning
  | stopped : Succeeds .stopCapture .captureStopping .podRunning

/-- Where a failure takes its node. -/
inductive OperationKind.Fails : OperationKind → NodeStatus → NodeStatus → Prop where
  | checkNode : Fails .checkNode .checking .unknown
  | createPod : Fails .createPod .creatingPod .unknown
  | deletePod : Fails .deletePod .deletingPod .unknown
  | startCapture : Fails .startCapture .captureStarting .podRunning
  | stopCapture : Fails .stopCapture .captureStopping .unknown

/-- A failure takes a node along its row of the table. -/
theorem OperationKind.fails_rollback {kind : OperationKind} {status : NodeStatus}
    (h : kind.awaitedStatus? = some status) : kind.Fails status status.rollback := by
  cases kind <;> cases h <;> constructor

/-- How a response ends at a node: along a row of success, without an error,
    or along a row of failure, with an error that says something. -/
def OperationKind.Ends (kind : OperationKind) (before after : Node) : Prop :=
  (kind.Succeeds before.status after.status ∧ after.error = none)
    ∨ (kind.Fails before.status after.status ∧ ∃ text, after.error = some text ∧ text ≠ "")

namespace Node

/-- An error text is never empty. -/
theorem errorOr_ne_empty (o : Outcome) {text : String} (h : text ≠ "") : errorOr o text ≠ "" := by
  rw [errorOr]
  cases o.error with
  | none => exact h
  | some error =>
      by_cases hempty : error = ""
      · simpa [nonEmpty, hempty] using h
      · simp [nonEmpty, hempty]

/-- A failure ends an operation. -/
theorem ends_fail {kind : OperationKind} {n : Node} (h : kind.awaitedStatus? = some n.status)
    {error : String} (herror : error ≠ "") : kind.Ends n (n.fail error) :=
  Or.inr ⟨OperationKind.fails_rollback h, error, rfl, herror⟩

/-- Neither is the one of a mismatch. -/
theorem mismatch_ne_empty (n : Node) : settleStop.mismatch n ≠ "" := by
  intro h
  exact absurd (String.append_eq_empty_iff.mp h).1 (by decide)

end Node

open Node

/-- A response ends the operation that its node waits for. -/
theorem Response.ends_update {r : Response} {n : Node}
    (h : r.kind.awaitedStatus? = some n.status) : r.kind.Ends n (r.update n) := by
  -- where it does not go along an edge of the table, an operation ends as a failure
  have failed : ∀ (o : Outcome) {text : String}, text ≠ "" →
      r.kind.Ends n (n.fail (errorOr o text)) := by
    intro o text htext
    exact ends_fail h (errorOr_ne_empty o htext)
  cases r with
  | nodeChecked o node podRunning running completed =>
      have hs : n.status = .checking := (Option.some.inj h).symm
      simp only [update, settleCheck]
      split
      · refine Or.inl ⟨?_, rfl⟩
        rw [hs]
        cases podRunning <;> cases running <;> constructor
      · exact failed o (by decide)
  | podCreated o node =>
      have hs : n.status = .creatingPod := (Option.some.inj h).symm
      simp only [update, settleCreation]
      split
      · exact Or.inl ⟨by rw [hs]; constructor, rfl⟩
      · exact failed o (by decide)
  | podDeleted o node =>
      have hs : n.status = .deletingPod := (Option.some.inj h).symm
      simp only [update, settleDeletion]
      split
      · exact Or.inl ⟨by rw [hs]; constructor, rfl⟩
      · exact failed o (by decide)
  | captureStarted o node =>
      have hs : n.status = .captureStarting := (Option.some.inj h).symm
      simp only [update, settleStart]
      split
      · exact Or.inl ⟨by rw [hs]; constructor, rfl⟩
      · exact failed o (by decide)
  | captureStopped o node capture =>
      have hs : n.status = .captureStopping := (Option.some.inj h).symm
      simp only [update, settleStop]
      split
      · split
        · split
          · exact Or.inl ⟨by rw [hs]; constructor, rfl⟩
          · exact ends_fail h n.mismatch_ne_empty
        · exact ends_fail h n.mismatch_ne_empty
      · exact failed o (by decide)
  | downloaded => cases h
  | interfacesListed => cases h
  | nodesListed => cases h
  | podsListed => cases h

/-- A response that no status waits for leaves the status alone. -/
theorem Response.update_status {r : Response} {n : Node} (h : r.kind.awaitedStatus? = none) :
    (r.update n).status = n.status := by
  cases r with
  | downloaded o node capture path =>
      simp only [update, settleDownload]
      split <;> rfl
  | interfacesListed o node names =>
      simp only [update, settleInterfaces]
      split <;> rfl
  | podsListed o node pods =>
      simp only [update]
      split <;> rfl
  | nodesListed => rfl
  | _ => cases h

/-- How an answer to an operation leaves a node: where no status waits for it,
    in its status; where the operation is under way, at its end; and where
    another one is, with another error and otherwise as before. -/
def OperationKind.Resolves (kind : OperationKind) (n n' : Node) : Prop :=
  match kind.awaitedStatus? with
  | none => n'.status = n.status
  | some awaited =>
      (n.status = awaited ∧ kind.Ends n n')
        ∨ (n.status ≠ awaited ∧ ∃ text, n' = n.withError text)

/-- Resolving an operation leaves the status or ends the operation. -/
theorem OperationKind.Resolves.status {kind : OperationKind} {n n' : Node}
    (h : kind.Resolves n n') : n'.status = n.status ∨ kind.Ends n n' := by
  unfold Resolves at h
  split at h
  · exact Or.inl h
  · rcases h with ⟨-, hends⟩ | ⟨-, text, rfl⟩
    · exact Or.inr hends
    · exact Or.inl rfl

/-- Valid responses resolve their operation. -/
theorem Response.effect_resolves (r : Response) (node : String) (n : Node) :
    r.kind.Resolves n (r.effect node n) := by
  rw [OperationKind.Resolves, effect]
  rcases awaiting_cases r.kind node r.update n with
    ⟨hsame, hwaits⟩ | ⟨awaited, text, hkind, hstatus, herror⟩
  · rw [hsame]
    cases hkind : r.kind.awaitedStatus? with
    | none => exact update_status hkind
    | some awaited =>
        obtain rfl := hwaits awaited hkind
        exact Or.inl ⟨rfl, ends_update hkind⟩
  · rw [hkind, herror]
    exact Or.inr ⟨hstatus, text, rfl⟩

/-- Invalid responses resolve it too. -/
theorem OperationKind.failureEffect_resolves {kind : OperationKind} (hnodes : kind ≠ .listNodes)
    (capture : Option String) {error : String} (herror : error ≠ "") (n : Node) :
    kind.Resolves n (kind.failureEffect capture error n) := by
  rw [Resolves]
  cases hk : kind.awaitedStatus? with
  | none =>
      cases kind with
      | download => rfl
      | listInterfaces => rfl
      | listPods => rfl
      | listNodes => exact absurd rfl hnodes
      | _ => cases hk
  | some awaited =>
      have heffect : kind.failureEffect capture error n
          = if n.status = awaited then n.fail error else n.withError error := by
        cases kind <;> cases hk <;> rfl
      rw [heffect]
      by_cases hs : n.status = awaited
      · subst hs
        rw [if_pos rfl]
        exact Or.inl ⟨rfl, ends_fail hk herror⟩
      · rw [if_neg hs]
        exact Or.inr ⟨hs, error, rfl⟩

/-! ## Events -/

/-- Whether an event responds to an operation on a node, with a response or
    with a payload that is taken for one. -/
def Event.RespondsTo (e : Event) (kind : OperationKind) (node : String) : Prop :=
  match e with
  | .intent _ => False
  | .response r => r.kind = kind ∧ r.node? = some node
  | .payload name content =>
      OperationKind.ofName? name = some kind ∧ Session.payloadText? "node" content = some node

/-- Neither is the one of a response that cannot be read. -/
theorem invalidText_ne_empty (name : String) : Session.invalidText name ≠ "" := by
  intro h
  exact absurd (String.append_eq_empty_iff.mp h).1 (by decide)

/-- A payload that was read responds to what its response answers. -/
theorem Event.respondsTo_of_ofJson {name node : String} {content : Json} {kind : OperationKind}
    {r : Response} (registered : OperationKind.ofName? name = some kind)
    (valid : Response.ofJson kind content = .ok r) (mine : r.node? = some node) :
    (Event.payload name content).RespondsTo r.kind node := by
  have hkind : r.kind = kind := Response.kind_of_ofJson valid
  refine ⟨by rw [hkind]; exact registered, ?_⟩
  rw [← Response.node?_of_ofJson valid (hkind ▸ Response.kind_ne_listNodes mine), mine]

namespace Session

variable {s s' : Session}

/-- A request takes its node along the row of its intent, or leaves the status
    alone. -/
theorem Begins.departs {i : Intent} {r : Request} {node : String} {n : Node}
    (h : s.Begins i r s') (mine : r.node? = some node) (fits : r.Fits n) :
    (r.mark n).status = n.status ∨ i.Departs node n.status (r.mark n).status := by
  cases h with
  | checkNode =>
      obtain rfl := Option.some.inj mine
      exact Or.inr (by rw [show n.status = .unknown from fits]; constructor)
  | createPod =>
      obtain rfl := Option.some.inj mine
      exact Or.inr (by rw [show n.status = .clean from fits]; constructor)
  | deletePod =>
      obtain rfl := Option.some.inj mine
      exact Or.inr (by rw [show n.status = .podRunning from fits.1]; constructor)
  | startCapture =>
      obtain rfl := Option.some.inj mine
      exact Or.inr (by rw [show n.status = .podRunning from fits]; constructor)
  | stopCapture =>
      obtain rfl := Option.some.inj mine
      exact Or.inr (by rw [show n.status = .captureRunning from fits.1]; constructor)
  | download => exact Or.inl rfl
  | listInterfaces => exact Or.inl rfl
  | listNodes => exact Or.inl rfl
  | listPods => exact Or.inl rfl

end Session

/-- What the table demands of an event at a node. -/
structure Orchestrator.FollowsTable (o : Orchestrator) (e : Event) (node : String) : Prop where
  /-- The node does not lose its state. -/
  kept : o.session.hasNode node → (o.handle e).session.hasNode node
  /-- Its status changes along a row, by an accepted intent or by a response. -/
  moves : (o.session.stateOf node).status ≠ ((o.handle e).session.stateOf node).status →
    (∃ i o' operation, e = .intent i ∧ o.perform i = .ok (o', .begun operation)
        ∧ i.Departs node (o.session.stateOf node).status
            ((o.handle e).session.stateOf node).status)
      ∨ ∃ kind, e.RespondsTo kind node
        ∧ kind.Ends (o.session.stateOf node) ((o.handle e).session.stateOf node)
  /-- A response to the operation under way ends it. -/
  settles : ∀ kind n, e.RespondsTo kind node → o.session.node? node = some n →
    kind.awaitedStatus? = some n.status →
      kind.Ends n ((o.handle e).session.stateOf node)
  /-- A response to another operation of a status changes the error and
      nothing else. -/
  strays : ∀ kind n awaited, e.RespondsTo kind node → o.session.node? node = some n →
    kind.awaitedStatus? = some awaited → n.status ≠ awaited →
      ∃ text, (o.handle e).session = o.session.updateNode node (fun n => n.withError text)

namespace Orchestrator

variable (o : Orchestrator)

/-- A node that has a state keeps it through an event. -/
theorem hasNode_handle (e : Event) (node : String) (h : o.session.hasNode node) :
    (o.handle e).session.hasNode node := by
  obtain ⟨n, hn⟩ := (Session.hasNode_iff _ _).mp h
  refine (Session.hasNode_iff _ _).mpr ?_
  rcases o.node?_handle_cases e node with hsame | ⟨hnone, -⟩ | ⟨n', hset, -⟩
  · exact ⟨n, by rw [hsame, hn]⟩
  · rw [hn] at hnone
    cases hnone
  · exact ⟨n', hset⟩

/-- Each change of a node keeps its status, or is a row of the table. -/
theorem Alters.status {o : Orchestrator} {node : String} {e : Event} {n n' : Node}
    (h : o.Alters node n e n') :
    n'.status = n.status
      ∨ (∃ i o' operation, e = .intent i ∧ o.perform i = .ok (o', .begun operation)
          ∧ i.Departs node n.status n'.status)
      ∨ ∃ kind, e.RespondsTo kind node ∧ kind.Ends n n' := by
  cases h with
  | edited selection => exact Or.inl rfl
  | begun accepted begins mine fits =>
      rcases begins.departs mine fits with hsame | hdeparts
      · exact Or.inl hsame
      · exact Or.inr (Or.inl ⟨_, _, _, rfl, accepted, hdeparts⟩)
  | received mine =>
      rename_i r
      rcases (r.effect_resolves node n).status with hsame | hends
      · exact Or.inl hsame
      · exact Or.inr (Or.inr ⟨r.kind, ⟨rfl, mine⟩, hends⟩)
  | read registered valid mine =>
      rename_i name content kind r
      rcases (r.effect_resolves node n).status with hsame | hends
      · exact Or.inl hsame
      · exact Or.inr (Or.inr ⟨r.kind, Event.respondsTo_of_ofJson registered valid mine, hends⟩)
  | failed registered nodes mine =>
      rename_i name content kind
      rcases (OperationKind.failureEffect_resolves nodes
          (Session.payloadText? "capture_name" content) (invalidText_ne_empty name) n).status with
        hsame | hends
      · exact Or.inl hsame
      · exact Or.inr (Or.inr ⟨kind, ⟨registered, mine⟩, hends⟩)

/-- An answer to an operation of a status is one change of the state of its
    node, and resolves the operation. -/
theorem handle_resolves {e : Event} {kind : OperationKind} {node : String} {n : Node}
    {awaited : NodeStatus} (hresponds : e.RespondsTo kind node)
    (hn : o.session.node? node = some n) (hkind : kind.awaitedStatus? = some awaited) :
    ∃ f, (o.handle e).session = o.session.updateNode node f ∧ kind.Resolves n (f n) := by
  have hpods : kind ≠ .listPods := by
    rintro rfl
    cases hkind
  have hnodes : kind ≠ .listNodes := by
    rintro rfl
    cases hkind
  have folds : ∀ {r : Response}, r.kind = kind → r.node? = some node →
      o.session.fold r = o.session.updateNode node (r.effect node)
        ∧ kind.Resolves n (r.effect node n) := by
    rintro r rfl hnode
    exact ⟨Session.fold_eq_updateNode _ hnode hpods, r.effect_resolves node n⟩
  cases e with
  | intent i => exact hresponds.elim
  | response r => exact ⟨_, folds hresponds.1 hresponds.2⟩
  | payload name content =>
      obtain ⟨hregistered, hnode⟩ := hresponds
      show ∃ f, o.session.foldRaw name content = _ ∧ _
      rcases Session.foldRaw_cases o.session name content with
        ⟨hunknown, -⟩ | ⟨kind', hkind', ⟨r, valid, hread⟩ | hinvalid⟩
      · rw [hregistered] at hunknown
        cases hunknown
      · rw [hregistered] at hkind'
        obtain rfl := Option.some.inj hkind'
        rw [hread]
        exact ⟨_, folds (Response.kind_of_ofJson valid)
          ((Response.node?_of_ofJson valid hnodes).trans hnode)⟩
      · rw [hregistered] at hkind'
        obtain rfl := Option.some.inj hkind'
        rw [hinvalid, hnode]
        exact ⟨_, Session.recordInvalid_eq_updateNode _ hn hnodes hpods,
          OperationKind.failureEffect_resolves hnodes _ (invalidText_ne_empty name) n⟩

/-- Every event follows the table, in every state. -/
theorem handle_followsTable (e : Event) (node : String) : o.FollowsTable e node where
  kept := o.hasNode_handle e node
  moves := by
    intro hmoved
    rcases o.node?_handle_cases e node with hsame | ⟨hnone, hnew⟩ | ⟨n', hset, halters⟩
    · refine absurd ?_ hmoved
      rw [Session.stateOf, Session.stateOf, hsame]
    · refine absurd ?_ hmoved
      rw [Session.stateOf_of_none _ _ hnone, Session.stateOf_of_some _ _ hnew]
    · rw [Session.stateOf_of_some _ _ hset] at hmoved ⊢
      exact halters.status.resolve_left (fun h => hmoved h.symm)
  settles := by
    intro kind n hresponds hn hkind
    obtain ⟨f, hset, hresolves⟩ := o.handle_resolves hresponds hn hkind
    have hafter : (o.handle e).session.stateOf node = f n := by
      refine Session.stateOf_of_some _ _ ?_
      rw [hset, Session.node?_updateNode, if_pos rfl, hn]
      rfl
    rw [OperationKind.Resolves, hkind] at hresolves
    rw [hafter]
    rcases hresolves with ⟨-, hends⟩ | ⟨hne, -⟩
    · exact hends
    · exact absurd rfl hne
  strays := by
    intro kind n awaited hresponds hn hkind hne
    obtain ⟨f, hset, hresolves⟩ := o.handle_resolves hresponds hn hkind
    rw [OperationKind.Resolves, hkind] at hresolves
    rcases hresolves with ⟨hs, -⟩ | ⟨-, text, herror⟩
    · exact absurd hs hne
    · refine ⟨text, ?_⟩
      rw [hset]
      refine Session.updateNode_congr _ ?_
      intro m hm
      rw [hn] at hm
      rw [← Option.some.inj hm]
      exact herror

end Orchestrator

/-- In every run, whatever intents, responses and payloads it is made of, each
    further event follows the table of statuses at every node. -/
theorem statuses_follow_table (cluster : String) (initialNodes : List String)
    (events : List Event) (e : Event) (node : String) :
    ((Orchestrator.create cluster initialNodes).run events).FollowsTable e node :=
  Orchestrator.handle_followsTable _ e node

end NodeCapture
