import NodeCapture.Proofs.NodeList
import NodeCapture.Proofs.StatusOperations

/-! # Responses that come twice

    A response may be delivered once more after it was folded.  Where it ended
    a status operation, its node has left the status that waited for it, so
    that the second delivery leaves an error on the node and nothing else.  All
    other responses come to the same whether they are folded once or twice:
    what they write does not depend on what they wrote before.

    The main statement says both of every session and every response
    (`redelivery_harmless`). -/

namespace NodeCapture

namespace Node

/-- Changes of the captures of one name one after another are one change. -/
theorem updateCapture_updateCapture (n : Node) (capture : String) {f : Capture → Capture}
    (hf : ∀ c, (f c).name = c.name) (g : Capture → Capture) :
    (n.updateCapture capture f).updateCapture capture g
      = n.updateCapture capture (fun c => g (f c)) := by
  simp only [updateCapture, List.map_map]
  refine congrArg (fun captures => { n with captures := captures }) ?_
  refine List.map_congr_left fun c _ => ?_
  by_cases hname : c.name = capture
  · simp [hname, hf]
  · simp [hname]

/-- The second report of the end of a download says what the first one said. -/
theorem settleDownload_settleDownload (n : Node) (o : Outcome) (capture : String)
    (path : Option String) :
    (n.settleDownload o capture path).settleDownload o capture path
      = n.settleDownload o capture path := by
  have again : ∀ {f : Capture → Capture} (error : Option String), (∀ c, (f c).name = c.name) →
      (∀ c, f (f c) = f c) →
      { ({ n.updateCapture capture f with error := error } : Node).updateCapture capture f with
          error := error }
        = { n.updateCapture capture f with error := error } := by
    intro f error hname hf
    have htwice := n.updateCapture_updateCapture capture hname f
    simp only [hf] at htwice
    exact congrArg (fun m : Node => { m with error := error }) htwice
  cases hok : o.succeeded with
  | true =>
      simp only [settleDownload, hok, if_true]
      exact again none (fun _ => rfl) (fun _ => rfl)
  | false =>
      simp only [settleDownload, hok, Bool.false_eq_true, if_false]
      exact again (some (errorOr o "Download failed")) (fun _ => rfl) (fun _ => rfl)

end Node

namespace Response

variable {r : Response} {node : String} {n : Node}

/-- A response that no status waits for comes to the same twice. -/
theorem update_update (h : r.kind.awaitedStatus? = none) : r.update (r.update n) = r.update n := by
  cases r with
  | downloaded o name capture path => exact n.settleDownload_settleDownload o capture path
  | interfacesListed o name names =>
      cases hok : o.succeeded <;> simp [update, Node.settleInterfaces, hok]
  | nodesListed o names => rfl
  | podsListed o name pods =>
      cases hok : o.succeeded <;> simp [update, Node.withError, hok]
  | _ => cases h

/-- A response to an operation that its node does not wait for comes to the
    same twice. -/
theorem effect_effect_of_stray (h : r.kind.awaitedStatus? ≠ some n.status) :
    r.effect node (r.effect node n) = r.effect node n := by
  cases hkind : r.kind.awaitedStatus? with
  | none =>
      simp only [effect, Node.awaiting, hkind]
      exact update_update hkind
  | some awaited =>
      have hstatus : n.status ≠ awaited := by
        rintro rfl
        exact h hkind
      simp [effect, Node.awaiting, hkind, hstatus, Node.withError]

/-- A response that ended the operation of its node is not waited for any
    more. -/
theorem effect_effect_of_awaited (h : r.kind.awaitedStatus? = some n.status) :
    r.effect node (r.effect node n)
      = (r.effect node n).withError
          (Session.unexpectedText r.kind node (r.effect node n).status) := by
  have hends : r.kind.Ends n (r.effect node n) := by
    rw [effect, Node.awaiting, h]
    simp only [if_true]
    exact ends_update h
  have hleft : (r.effect node n).status ≠ n.status := by
    intro hsame
    have hsettled := hends.settled
    rw [hsame, OperationKind.not_settled_of_awaited h] at hsettled
    cases hsettled
  show Node.awaiting r.kind node r.update (r.effect node n) = _
  rw [Node.awaiting, h]
  exact if_neg hleft

end Response

namespace ReferenceData

/-- A node list that is taken over once more changes nothing. -/
theorem updateNodes_updateNodes (d : ReferenceData) (listed : List String) :
    (d.updateNodes listed).updateNodes listed = d.updateNodes listed := by
  show ReferenceData.mk (.loaded _) = ReferenceData.mk (.loaded _)
  refine congrArg (fun items => ReferenceData.mk (.loaded items)) ?_
  refine List.map_congr_left ?_
  intro node hnode
  rw [get?_updateNodes, if_pos (mem_firstOccurrences.mp hnode).1]
  rfl

/-- Setting the same pods twice is setting them once. -/
theorem setPods_setPods (d : ReferenceData) (node : String) (pods : Cell (List Pod)) :
    (d.setPods node pods).setPods node pods = d.setPods node pods := by
  obtain ⟨nodes⟩ := d
  cases nodes with
  | notLoaded => rfl
  | loading => rfl
  | loaded items =>
      simp only [setPods, Cell.map, List.map_map]
      refine congrArg (fun items => ReferenceData.mk (.loaded items)) ?_
      refine List.map_congr_left fun item _ => ?_
      by_cases hname : item.node = node <;> simp [hname]

end ReferenceData

namespace Session

variable (s : Session)

/-- Nodes that have a state keep it. -/
theorem foldl_ensureNode_of_hasNode {names : List String} (h : ∀ name ∈ names, s.hasNode name) :
    names.foldl ensureNode s = s := by
  induction names with
  | nil => rfl
  | cons name rest ih =>
      have hfirst : s.ensureNode name = s := if_pos (h name List.mem_cons_self)
      rw [List.foldl_cons, hfirst]
      exact ih (fun other hother => h other (List.mem_cons_of_mem _ hother))

/-- Setting the same nodes twice is setting them once. -/
theorem setNodes_setNodes (names : List String) :
    (s.setNodes names).setNodes names = s.setNodes names := by
  have hreference : (s.setNodes names).reference.updateNodes names
      = (s.setNodes names).reference := by
    rw [reference_setNodes, ReferenceData.updateNodes_updateNodes]
  have hstates : ∀ name ∈ (s.setNodes names).reference.names, (s.setNodes names).hasNode name := by
    intro name hname
    rw [reference_setNodes, ReferenceData.mem_names_updateNodes] at hname
    rw [hasNode, node?_setNodes, if_pos hname]
    cases s.node? name <;> rfl
  show { ((s.setNodes names).reference.updateNodes names).names.foldl ensureNode
      { s.setNodes names with reference := (s.setNodes names).reference.updateNodes names } with
        error := none } = s.setNodes names
  rw [hreference]
  show { (s.setNodes names).reference.names.foldl ensureNode (s.setNodes names) with
      error := none } = s.setNodes names
  rw [foldl_ensureNode_of_hasNode _ hstates]
  rfl

/-- A list of nodes that comes twice counts once. -/
theorem foldNodes_foldNodes (o : Outcome) (names : List String) :
    (s.foldNodes o names).foldNodes o names = s.foldNodes o names := by
  cases hok : o.succeeded with
  | true =>
      simp only [foldNodes, hok, if_true]
      exact s.setNodes_setNodes names
  | false =>
      simp only [foldNodes, hok, Bool.false_eq_true, if_false]
      rfl

/-- Setting the same pods twice is setting them once, in a session as well. -/
theorem setPods_setPods (node : String) (pods : Cell (List Pod)) :
    (s.setPods node pods).setPods node pods = s.setPods node pods :=
  congrArg (fun reference => { s with reference := reference })
    (s.reference.setPods_setPods node pods)

/-- A failure to list pods that comes twice counts once. -/
theorem failPods_failPods (node error : String) :
    (s.failPods node error).failPods node error = s.failPods node error := by
  show ((s.setPods node .notLoaded).setPods node .notLoaded |>.updateNode node _).updateNode node _
    = _
  rw [setPods_setPods, updateNode_updateNode]
  rfl

/-- A list of pods that comes twice counts once. -/
theorem foldPods_foldPods (o : Outcome) (node : String) (pods : List Pod) :
    (s.foldPods o node pods).foldPods o node pods = s.foldPods o node pods := by
  cases hlisted : s.reference.contains node with
  | false => simp [foldPods, hlisted]
  | true =>
      cases hok : o.succeeded with
      | true =>
          have hfold : s.foldPods o node pods = s.setPods node (.loaded pods) := by
            simp [foldPods, hlisted, hok]
          have hstill : (s.setPods node (.loaded pods)).reference.contains node = true :=
            (s.reference.contains_setPods node node _).trans hlisted
          rw [hfold, foldPods, if_pos hstill, if_pos hok, setPods_setPods]
      | false =>
          generalize herror : Node.errorOr o ("Failed to list pods on " ++ node) = error
          have hfold : s.foldPods o node pods = s.failPods node error := by
            simp [foldPods, hlisted, hok, herror]
          have hstill : (s.failPods node error).reference.contains node = true :=
            (s.reference.contains_setPods node node _).trans hlisted
          rw [hfold, foldPods, if_pos hstill, if_neg (by simp [hok]), herror, failPods_failPods]

/-- A response ends the status operation that its node waits for. -/
def Settles (r : Response) (node : String) : Prop :=
  r.node? = some node ∧ ∃ n, s.node? node = some n ∧ r.kind.awaitedStatus? = some n.status

/-- A response to an operation on a node, pod lists apart, has its effect
    twice. -/
theorem fold_fold_eq_updateNode {r : Response} {node : String} (hnode : r.node? = some node)
    (hpods : r.kind ≠ .listPods) :
    (s.fold r).fold r = s.updateNode node (fun n => r.effect node (r.effect node n)) := by
  rw [fold_eq_updateNode _ hnode hpods, fold_eq_updateNode _ hnode hpods, updateNode_updateNode]

/-- A response that ends no status operation comes to the same twice. -/
theorem fold_fold_of_not_settles {r : Response} (h : ∀ node, ¬s.Settles r node) :
    (s.fold r).fold r = s.fold r := by
  have others : ∀ {node : String}, r.node? = some node → r.kind ≠ .listPods →
      (s.fold r).fold r = s.fold r := by
    intro node hnode hpods
    rw [fold_fold_eq_updateNode s hnode hpods, fold_eq_updateNode s hnode hpods]
    refine updateNode_congr s ?_
    intro n hn
    exact Response.effect_effect_of_stray (fun hawaited => h node ⟨hnode, n, hn, hawaited⟩)
  cases r with
  | nodesListed o names => exact s.foldNodes_foldNodes o names
  | podsListed o node pods => exact s.foldPods_foldPods o node pods
  | _ => exact others rfl (by rintro ⟨⟩)

/-- A response that ended a status operation leaves an error when it comes once
    more. -/
theorem Settles.fold_fold {s : Session} {r : Response} {node : String} (h : s.Settles r node) :
    (s.fold r).fold r
      = (s.fold r).updateNode node
          (fun n => n.withError (unexpectedText r.kind node n.status)) := by
  obtain ⟨hnode, n, hn, hawaited⟩ := h
  have hpods : r.kind ≠ .listPods := by
    intro hkind
    rw [hkind] at hawaited
    cases hawaited
  rw [fold_fold_eq_updateNode s hnode hpods, fold_eq_updateNode s hnode hpods,
    updateNode_updateNode]
  refine updateNode_congr s ?_
  intro m hm
  obtain rfl := Option.some.inj (hn.symm.trans hm)
  exact Response.effect_effect_of_awaited hawaited

/-- A change of an error is seen on its node and as an error only. -/
theorem stateOf_updateNode_withError (text : Node → String) (name node : String) :
    ∃ error, (s.updateNode name (fun n => n.withError (text n))).stateOf node
      = { s.stateOf node with error := error } := by
  rw [stateOf, stateOf, node?_updateNode]
  by_cases hname : node = name
  · rw [if_pos hname]
    cases hn : s.node? node with
    | none => exact ⟨none, rfl⟩
    | some n => exact ⟨some (text n), rfl⟩
  · rw [if_neg hname]
    exact ⟨(s.stateOf node).error, rfl⟩

end Session

/-- Folding a response twice comes to the same as folding it once, in every
    session and for every response, unless the response ended a status
    operation: then it leaves an error on the node of that operation and changes
    nothing else.  So no node moves again, and no capture is added again. -/
theorem redelivery_harmless (s : Session) (r : Response) :
    ((∀ node, ¬s.Settles r node) → (s.fold r).fold r = s.fold r)
      ∧ (∀ node, s.Settles r node → (s.fold r).fold r
          = (s.fold r).updateNode node
              (fun n => n.withError (Session.unexpectedText r.kind node n.status)))
      ∧ ∀ node, ∃ error,
          ((s.fold r).fold r).stateOf node = { (s.fold r).stateOf node with error := error } := by
  refine ⟨s.fold_fold_of_not_settles, fun node => Session.Settles.fold_fold, ?_⟩
  intro node
  by_cases hsettles : ∃ name, s.Settles r name
  · obtain ⟨name, h⟩ := hsettles
    rw [h.fold_fold]
    exact Session.stateOf_updateNode_withError _ _ _ _
  · rw [s.fold_fold_of_not_settles (not_exists.mp hsettles)]
    exact ⟨((s.fold r).stateOf node).error, rfl⟩

/-- A session in which a capture is to stop. -/
def stoppingSession : Session where
  cluster := "lab"
  nodes := [("n", { status := .captureStopping, captureName := some "web" })]

/-- The report that it stopped adds it to the captures once, however often it
    comes. -/
theorem redelivery_harmless_after_stop :
    stoppingSession.Settles (.captureStopped .success "n" (some ⟨"web", 8⟩)) "n"
      ∧ let after := stoppingSession.fold (.captureStopped .success "n" (some ⟨"web", 8⟩))
        after.fold (.captureStopped .success "n" (some ⟨"web", 8⟩))
            = after.updateNode "n" (fun n => n.withError
                "Unexpected StopCaptureResponse while node n is DebugPodRunning")
          ∧ (after.stateOf "n").captures = [⟨"web", 8, .completed, none⟩] := by
  have settles : stoppingSession.Settles (.captureStopped .success "n" (some ⟨"web", 8⟩)) "n" :=
    ⟨rfl, _, rfl, rfl⟩
  refine ⟨settles, ((redelivery_harmless _ _).2.1 "n" settles).trans ?_, rfl⟩
  decide

end NodeCapture
