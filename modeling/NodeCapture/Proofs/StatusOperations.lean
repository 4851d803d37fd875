import NodeCapture.Proofs.Runs
import NodeCapture.Proofs.StatusTable

/-! # Status operations

    Five of the operations take their node through a transient status: the
    check, the creation and the deletion of the debug pod, the start and the
    stop of a capture.  The main statement is that in a run without injected
    responses the status of a node tells exactly which of them is outstanding
    on it, that it is at most one, and that the name that a start or a stop
    carries is that of the current capture.

    `Node.Awaits` is the invariant: the status operations that are outstanding
    on a node are none in a settled status, and in a transient one exactly the
    operation that it is for. -/

namespace NodeCapture

/-- Whether a request is for a status operation on a node. -/
def Request.occupies (node : String) (q : Request) : Bool :=
  q.node? == some node && q.kind.awaitedStatus?.isSome

/-- The capture that a request starts or stops. -/
def Request.capture? : Request → Option String
  | .startCapture _ capture _ => some capture
  | .stopCapture _ capture => some capture
  | _ => none

/-- The status operations that are outstanding on a node. -/
def Orchestrator.statusOperations (o : Orchestrator) (node : String) : List (Nat × Request) :=
  o.pending (Request.occupies node)

/-- The statuses that no operation is under way in. -/
def NodeStatus.isSettled : NodeStatus → Bool
  | unknown => true
  | clean => true
  | podRunning => true
  | captureRunning => true
  | _ => false

/-- A node awaits the outcome of some outstanding operations: of none in a
    settled status, and else of the one operation of its status. -/
inductive Node.Awaits (n : Node) : List (Nat × Request) → Prop where
  | nothing (settled : n.status.isSettled) : Awaits n []
  | outcome {operation : Nat} {q : Request} (shown : q.kind.awaitedStatus? = some n.status)
      (named : ∀ capture, q.capture? = some capture → n.captureName = some capture) :
      Awaits n [(operation, q)]

namespace OperationKind

/-- A status in which an operation is awaited is not settled. -/
theorem not_settled_of_awaited {kind : OperationKind} {status : NodeStatus}
    (h : kind.awaitedStatus? = some status) : status.isSettled = false := by
  cases kind <;> cases h <;> rfl

/-- A transient status is that of one operation. -/
theorem eq_of_awaitedStatus?_eq {kind kind' : OperationKind} {status : NodeStatus}
    (h : kind.awaitedStatus? = some status) (h' : kind'.awaitedStatus? = some status) :
    kind = kind' := by
  cases kind <;> cases h <;> cases kind' <;> cases h' <;> rfl

/-- An operation ends in a settled status. -/
theorem Ends.settled {kind : OperationKind} {n n' : Node} (h : kind.Ends n n') :
    n'.status.isSettled := by
  have succeeds : ∀ {before after : NodeStatus}, kind.Succeeds before after → after.isSettled := by
    intro before after hrow
    cases hrow <;> rfl
  have fails : ∀ {before after : NodeStatus}, kind.Fails before after → after.isSettled := by
    intro before after hrow
    cases hrow <;> rfl
  rcases h with ⟨hrow, -⟩ | ⟨hrow, -⟩
  · exact succeeds hrow
  · exact fails hrow

end OperationKind

/-- A response that no status waits for leaves the name of the capture alone. -/
theorem Response.update_captureName {r : Response} {n : Node}
    (h : r.kind.awaitedStatus? = none) : (r.update n).captureName = n.captureName := by
  cases r with
  | downloaded o node capture path =>
      simp only [update, Node.settleDownload]
      split <;> rfl
  | interfacesListed o node names =>
      simp only [update, Node.settleInterfaces]
      split <;> rfl
  | podsListed o node pods =>
      simp only [update]
      split <;> rfl
  | nodesListed => rfl
  | _ => cases h

namespace Request

variable {q : Request} {node : String}

/-- A request occupies its node while a status awaits it. -/
theorem occupies_iff :
    q.occupies node = true
      ↔ q.node? = some node ∧ ∃ awaited, q.kind.awaitedStatus? = some awaited := by
  rw [occupies, Bool.and_eq_true, beq_iff_eq, Option.isSome_iff_exists]

/-- A request that no status awaits occupies no node. -/
theorem not_occupies_of_not_awaited (h : q.kind.awaitedStatus? = none) :
    q.occupies node = false := by
  rw [occupies, h, Option.isSome_none, Bool.and_false]

/-- A request for another operation leaves the status and the name of the
    capture alone. -/
theorem mark_keeps {n : Node} (h : q.kind.awaitedStatus? = none) :
    (q.mark n).status = n.status ∧ (q.mark n).captureName = n.captureName := by
  cases q <;> first | exact ⟨rfl, rfl⟩ | cases h

/-- A request for a status operation fits nodes in a settled status. -/
theorem Fits.settled {n : Node} (fits : q.Fits n) (hq : q.occupies node = true) :
    n.status.isSettled := by
  have settled : ∀ {status : NodeStatus}, n.status = status → status.isSettled →
      n.status.isSettled := by
    rintro status rfl h
    exact h
  cases q with
  | checkNode => exact settled fits rfl
  | createPod => exact settled fits rfl
  | deletePod => exact settled fits.1 rfl
  | startCapture => exact settled fits rfl
  | stopCapture => exact settled fits.1 rfl
  | _ =>
      obtain ⟨-, awaited, hawaited⟩ := occupies_iff.mp hq
      cases hawaited

/-- It makes them await its outcome. -/
theorem Fits.awaits {n : Node} (fits : q.Fits n) (hq : q.occupies node = true)
    (operation : Nat) : (q.mark n).Awaits [(operation, q)] := by
  cases q with
  | checkNode => exact .outcome rfl (fun _ h => nomatch h)
  | createPod => exact .outcome rfl (fun _ h => nomatch h)
  | deletePod => exact .outcome rfl (fun _ h => nomatch h)
  | startCapture => exact .outcome rfl (fun _ h => h)
  | stopCapture => exact .outcome rfl (fun _ h => fits.2.trans h)
  | _ =>
      obtain ⟨-, awaited, hawaited⟩ := occupies_iff.mp hq
      cases hawaited

end Request

namespace Node.Awaits

variable {n n' : Node} {entries : List (Nat × Request)}

/-- A node awaits one operation at most. -/
theorem length_le_one (h : n.Awaits entries) : entries.length ≤ 1 := by
  cases h with
  | nothing => exact Nat.zero_le 1
  | outcome => exact Nat.le_refl 1

/-- A change keeps what a node awaits where it keeps the status and the name
    of the capture. -/
theorem keep (h : n.Awaits entries) (hstatus : n'.status = n.status)
    (hname : n'.captureName = n.captureName) : n'.Awaits entries := by
  cases h with
  | nothing settled => exact .nothing (hstatus ▸ settled)
  | outcome shown named => exact .outcome (hstatus ▸ shown) (hname ▸ named)

/-- A settled node awaits nothing. -/
theorem eq_nil (h : n.Awaits entries) (settled : n.status.isSettled) : entries = [] := by
  cases h with
  | nothing => rfl
  | outcome shown =>
      rw [OperationKind.not_settled_of_awaited shown] at settled
      cases settled

/-- The status shows what is awaited. -/
theorem shown_of_mem (h : n.Awaits entries) {entry : Nat × Request} (hentry : entry ∈ entries) :
    entry.2.kind.awaitedStatus? = some n.status := by
  cases h with
  | nothing => exact absurd hentry List.not_mem_nil
  | outcome shown =>
      rw [List.mem_singleton] at hentry
      rw [hentry]
      exact shown

/-- The current capture is that of the awaited operation. -/
theorem named_of_mem (h : n.Awaits entries) {entry : Nat × Request} (hentry : entry ∈ entries)
    {capture : String} (hcapture : entry.2.capture? = some capture) :
    n.captureName = some capture := by
  cases h with
  | nothing => exact absurd hentry List.not_mem_nil
  | outcome shown named =>
      rw [List.mem_singleton] at hentry
      rw [hentry] at hcapture
      exact named capture hcapture

/-- The status shows which operation is outstanding. -/
theorem shown_iff (h : n.Awaits entries) {kind : OperationKind} {awaited : NodeStatus}
    (hkind : kind.awaitedStatus? = some awaited) :
    (∃ entry ∈ entries, entry.2.kind = kind) ↔ n.status = awaited := by
  constructor
  · rintro ⟨entry, hentry, rfl⟩
    have hshown := h.shown_of_mem hentry
    rw [hkind] at hshown
    exact (Option.some.inj hshown).symm
  · rintro rfl
    cases h with
    | nothing settled =>
        rw [OperationKind.not_settled_of_awaited hkind] at settled
        cases settled
    | outcome shown =>
        exact ⟨_, List.mem_singleton_self _, OperationKind.eq_of_awaitedStatus?_eq shown hkind⟩

end Node.Awaits

namespace Orchestrator

variable {o : Orchestrator}

/-- Each act keeps what each node awaits. -/
theorem Moves.awaits {node : String} {act : Act} (moves : o.Moves node act)
    (numbered : o.Numbered) (h : (o.session.stateOf node).Awaits (o.statusOperations node)) :
    ((o.advance act).session.stateOf node).Awaits ((o.advance act).statusOperations node) := by
  rw [statusOperations] at h ⊢
  cases moves with
  | stayed selection outstanding state =>
      -- neither the status nor the name of the capture depends on the selection
      rw [pending, outstanding, state]
      exact h.keep rfl rfl
  | begunElsewhere outstanding other state =>
      rename_i i r
      have hsort : r.occupies node = false := by
        refine Bool.eq_false_iff.mpr ?_
        intro hoccupies
        obtain ⟨mine, awaited, hawaited⟩ := Request.occupies_iff.mp hoccupies
        rw [other mine] at hawaited
        cases hawaited
      rw [pending_begun outstanding, hsort, state]
      exact h
  | begun outstanding mine fits state =>
      rename_i i r
      rw [pending_begun outstanding, state]
      by_cases hsort : r.occupies node = true
      · -- the node was settled, so that the new operation is the only one
        rw [if_pos hsort, h.eq_nil (fits.settled hsort)]
        exact fits.awaits hsort _
      · rw [if_neg hsort]
        have hnone : r.kind.awaitedStatus? = none := by
          refine Option.eq_none_iff_forall_ne_some.mpr ?_
          intro awaited hawaited
          exact hsort (Request.occupies_iff.mpr ⟨mine, awaited, hawaited⟩)
        obtain ⟨hstatus, hname⟩ := Request.mark_keeps (n := o.session.stateOf node) hnone
        exact h.keep hstatus hname
  | endedElsewhere outstanding answers other state =>
      rename_i operation q r
      have hsort : q.occupies node = false := by
        refine Bool.eq_false_iff.mpr ?_
        intro hoccupies
        obtain ⟨mine, awaited, hawaited⟩ := Request.occupies_iff.mp hoccupies
        rcases other mine with hpods | hnone
        · rw [hpods] at hawaited
          cases hawaited
        · -- a node without a state awaits nothing
          rw [Session.stateOf_of_none _ _ hnone] at h
          have hmem := mem_pending.mpr ⟨outstanding, hoccupies⟩
          rw [h.eq_nil rfl] at hmem
          exact absurd hmem List.not_mem_nil
      rw [state]
      show (o.session.stateOf node).Awaits ((o.complete operation r).pending _)
      rw [numbered.pending_complete_of_other outstanding hsort]
      exact h
  | ended outstanding answers mine state =>
      rename_i operation q r
      rw [state]
      show (r.effect node (o.session.stateOf node)).Awaits ((o.complete operation r).pending _)
      have hresolves := r.effect_resolves node (o.session.stateOf node)
      rw [OperationKind.Resolves, answers.kind] at hresolves
      cases hkind : q.kind.awaitedStatus? with
      | none =>
          rw [numbered.pending_complete_of_other outstanding
            (Request.not_occupies_of_not_awaited hkind)]
          rw [hkind] at hresolves
          refine h.keep hresolves ?_
          rw [← answers.kind] at hkind
          rw [Response.effect, Node.awaiting, hkind]
          exact Response.update_captureName hkind
      | some awaited =>
          -- the operation that ends is the one that the node awaits
          have hoccupies : q.occupies node = true :=
            Request.occupies_iff.mpr ⟨mine, awaited, hkind⟩
          have hsingle := pending_eq_singleton outstanding hoccupies h.length_le_one
          rw [pending_complete_of_single hsingle]
          have hshown := h.shown_of_mem (mem_pending.mpr ⟨outstanding, hoccupies⟩)
          rw [hshown] at hresolves
          rcases hresolves with ⟨-, hends⟩ | ⟨hne, -⟩
          · exact .nothing hends.settled
          · exact absurd rfl hne

/-- In every run without injected responses, each node awaits the status
    operations that are outstanding on it. -/
theorem Reaches.awaits {s : Settings} {cluster : String} {initialNodes : List String}
    {history : List (Orchestrator × Act)}
    (reached : Reaches s (create cluster initialNodes) history o) :
    o.Numbered ∧ ∀ node, (o.session.stateOf node).Awaits (o.statusOperations node) := by
  refine reached.keeps (P := fun o => o.Numbered
    ∧ ∀ node, (o.session.stateOf node).Awaits (o.statusOperations node)) ?_ ?_
  · exact ⟨numbered_create cluster initialNodes, fun _ => .nothing rfl⟩
  · rintro o act allowed ⟨numbered, h⟩
    exact ⟨numbered.advance act, fun node => (allowed.moves node).awaits numbered (h node)⟩

end Orchestrator

/-- The status of a node tells which status operation is outstanding on it. -/
structure Orchestrator.StatusTells (o : Orchestrator) (node : String) : Prop where
  /-- At most one status operation is outstanding. -/
  single : (o.statusOperations node).length ≤ 1
  /-- One of a kind is outstanding exactly in the transient status of the kind. -/
  shown : ∀ kind awaited, kind.awaitedStatus? = some awaited →
    ((∃ operation q, (operation, q) ∈ o.outstanding ∧ q.node? = some node ∧ q.kind = kind)
      ↔ (o.session.stateOf node).status = awaited)
  /-- The capture that is started is the current one. -/
  started : ∀ operation capture filters,
    (operation, .startCapture node capture filters) ∈ o.outstanding →
      (o.session.stateOf node).captureName = some capture
  /-- The capture that is stopped is the current one. -/
  stopped : ∀ operation capture, (operation, .stopCapture node capture) ∈ o.outstanding →
    (o.session.stateOf node).captureName = some capture

/-- In every run without injected responses, whatever is asked for and in
    whatever order operations end, the status of each node tells which status
    operation is outstanding on it. -/
theorem status_operations_tracked {s : Settings} {cluster : String} {initialNodes : List String}
    {history : List (Orchestrator × Act)} {o : Orchestrator}
    (reached : Orchestrator.Reaches s (.create cluster initialNodes) history o) (node : String) :
    o.StatusTells node := by
  have hawaits := reached.awaits.2 node
  have hmem : ∀ {operation : Nat} {q : Request}, (operation, q) ∈ o.outstanding →
      q.node? = some node → ∀ {awaited : NodeStatus}, q.kind.awaitedStatus? = some awaited →
        (operation, q) ∈ o.statusOperations node := by
    intro operation q houtstanding hnode awaited hawaited
    exact Orchestrator.mem_pending.mpr
      ⟨houtstanding, Request.occupies_iff.mpr ⟨hnode, awaited, hawaited⟩⟩
  refine ⟨hawaits.length_le_one, ?_, ?_, ?_⟩
  · intro kind awaited hkind
    rw [← hawaits.shown_iff hkind]
    constructor
    · rintro ⟨operation, q, houtstanding, hnode, rfl⟩
      exact ⟨(operation, q), hmem houtstanding hnode hkind, rfl⟩
    · rintro ⟨⟨operation, q⟩, hentry, hq⟩
      obtain ⟨houtstanding, hoccupies⟩ := Orchestrator.mem_pending.mp hentry
      exact ⟨operation, q, houtstanding, (Request.occupies_iff.mp hoccupies).1, hq⟩
  · intro operation capture filters houtstanding
    exact hawaits.named_of_mem (hmem houtstanding rfl rfl) rfl
  · intro operation capture houtstanding
    exact hawaits.named_of_mem (hmem houtstanding rfl rfl) rfl

/-- A check finds the debug pod and an old file, and then a capture is to
    start while its interfaces are listed. -/
def startAfterCheck : List Cue :=
  [.ask (.checkNode "n"),
    .carryOut 0 [.exited { stdout := "debug-n\n" }, .exited {}, .exited {},
      .exited { stdout := "/tmp/capturectl_old.cap\t8\n" }],
    .ask (.listInterfaces "n"), .ask (.startCapture "n" "web")]

/-- The start that is outstanding after them is that of the current capture. -/
theorem status_operations_tracked_after_check :
    ((Orchestrator.create "lab" ["n"]).play {} startAfterCheck).2.outstanding
        = [(1, .listInterfaces "n"), (2, .startCapture "n" "web" {})]
      ∧ ((Orchestrator.create "lab" ["n"]).play {} startAfterCheck).2.StatusTells "n" :=
  ⟨by decide, status_operations_tracked (Orchestrator.reaches_play {} _ startAfterCheck) "n"⟩

end NodeCapture
