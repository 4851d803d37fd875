import NodeCapture.Proofs.Events

/-! # The name of the current capture

    A node has the name of a capture exactly while a capture starts, runs or
    stops.  Most changes of a node rely on its status for that and leave the
    name alone, so the invariant is shown for each of them; it holds whatever
    responses come in, also those that nobody asked for. -/

namespace NodeCapture

namespace Node

/-- The capture has a name exactly in the statuses of a capture. -/
def NameFollowsStatus (n : Node) : Prop := n.captureName.isSome = n.status.hasCapture

theorem nameFollowsStatus_empty : NameFollowsStatus {} := rfl

/-- A change keeps the name in step where it keeps the name, and both
    statuses are of a capture or neither is. -/
theorem NameFollowsStatus.keep {n n' : Node} (h : n.NameFollowsStatus)
    (hname : n'.captureName = n.captureName)
    (hcapture : n'.status.hasCapture = n.status.hasCapture) : n'.NameFollowsStatus := by
  rw [NameFollowsStatus, hname, hcapture]
  exact h

/-- A failure drops the name where it leaves the capture behind. -/
theorem NameFollowsStatus.fail {n : Node} (h : n.NameFollowsStatus) (error : String) :
    (n.fail error).NameFollowsStatus := by
  show (if n.status.rollback.hasCapture then n.captureName else none).isSome
    = n.status.rollback.hasCapture
  by_cases hc : n.status.rollback.hasCapture = true
  · -- only a capture that runs is left in a status of a capture
    have hsame : n.status.rollback = n.status := by
      cases hs : n.status <;> rw [hs] at hc <;> first | rfl | exact absurd hc (by decide)
    rw [if_pos hc, hsame]
    exact h
  · rw [if_neg hc]
    simp [hc]

/-- Settling an operation keeps the name with the status if it does so where the
    operation was awaited. -/
theorem NameFollowsStatus.awaiting {n : Node} {kind : OperationKind} {node : String}
    {f : Node → Node} (h : n.NameFollowsStatus)
    (hf : (∀ awaited, kind.awaitedStatus? = some awaited → n.status = awaited) →
      (f n).NameFollowsStatus) :
    (Node.awaiting kind node f n).NameFollowsStatus := by
  rcases awaiting_cases kind node f n with ⟨hsame, hstatus⟩ | ⟨awaited, text, -, -, herror⟩
  · rw [hsame]
    exact hf hstatus
  · rw [herror]
    exact h.keep rfl rfl

end Node

open Node

/-- A response leaves the name in step at a node that waits for it. -/
theorem Response.update_nameFollowsStatus {r : Response} {n : Node} (h : n.NameFollowsStatus)
    (hstatus : ∀ awaited, r.kind.awaitedStatus? = some awaited → n.status = awaited) :
    (r.update n).NameFollowsStatus := by
  cases r with
  | nodeChecked o node podRunning running completed =>
      simp only [update, settleCheck]
      split
      · show (if podRunning then running else none).isSome
          = (checkedStatus podRunning running).hasCapture
        cases podRunning <;> cases running <;> rfl
      · exact h.fail _
  | podCreated o node =>
      simp only [update, settleCreation]
      split
      · have hs : n.status = .creatingPod := hstatus _ rfl
        exact h.keep rfl (by rw [hs]; rfl)
      · exact h.fail _
  | podDeleted o node =>
      simp only [update, settleDeletion]
      split
      · rfl
      · exact (h.fail (errorOr o "Failed to delete debug pod")).keep rfl rfl
  | captureStarted o node =>
      simp only [update, settleStart]
      split
      · have hs : n.status = .captureStarting := hstatus _ rfl
        exact h.keep rfl (by rw [hs]; rfl)
      · exact h.fail _
  | captureStopped o node capture =>
      simp only [update, settleStop]
      split
      · split
        · split
          · rfl
          · exact h.fail _
        · exact h.fail _
      · exact h.fail _
  | downloaded o node capture path =>
      simp only [update, settleDownload]
      split <;> exact h.keep rfl rfl
  | interfacesListed o node names =>
      simp only [update, settleInterfaces]
      split <;> exact h.keep rfl rfl
  | nodesListed o names => exact h
  | podsListed o node pods =>
      simp only [update]
      split
      · exact h
      · exact h.keep rfl rfl

/-- An invalid response leaves the name in step. -/
theorem OperationKind.failureEffect_nameFollowsStatus {n : Node} (h : n.NameFollowsStatus)
    (kind : OperationKind) (capture : Option String) (error : String) :
    (kind.failureEffect capture error n).NameFollowsStatus := by
  rw [failureEffect]
  split
  · exact h.keep rfl rfl
  · unfold Session.invalidate
    split
    · exact h.keep rfl rfl
    · exact h.keep rfl rfl
    · split
      · split
        · exact h.fail _
        · exact h.keep rfl rfl
      · exact h.fail _

/-- A request leaves the name in step at a node that it fits. -/
theorem Request.mark_nameFollowsStatus {r : Request} {n : Node} (h : n.NameFollowsStatus)
    (fits : r.Fits n) : (r.mark n).NameFollowsStatus := by
  -- a request does not take a node into a capture or out of one, except for a start
  have stays : ∀ {before : NodeStatus}, n.status = before →
      (r.mark n).captureName = n.captureName →
      (r.mark n).status.hasCapture = before.hasCapture → (r.mark n).NameFollowsStatus := by
    intro before hs hname hcapture
    exact h.keep hname (by rw [hs]; exact hcapture)
  cases r with
  | checkNode node => exact stays fits rfl rfl
  | createPod node => exact stays fits rfl rfl
  | deletePod node => exact stays fits.1 rfl rfl
  | startCapture node capture filters => rfl
  | stopCapture node capture => exact stays fits.1 rfl rfl
  | download node capture path => exact h.keep rfl rfl
  | listInterfaces node => exact h.keep rfl rfl
  | listNodes => exact h
  | listPods node => exact h

/-- What an event does to a node keeps the name with the status. -/
theorem Orchestrator.Alters.nameFollowsStatus {o : Orchestrator} {node : String} {e : Event}
    {n n' : Node} (halters : o.Alters node n e n') (h : n.NameFollowsStatus) :
    n'.NameFollowsStatus := by
  cases halters with
  | edited selection => exact h.keep rfl rfl
  | begun accepted begins mine fits => exact Request.mark_nameFollowsStatus h fits
  | received mine => exact h.awaiting (fun hs => Response.update_nameFollowsStatus h hs)
  | read registered valid mine =>
      exact h.awaiting (fun hs => Response.update_nameFollowsStatus h hs)
  | failed registered nodes mine =>
      exact OperationKind.failureEffect_nameFollowsStatus h _ _ _

/-- In every run, whatever intents, responses and payloads it is made of, a
    node has the name of a capture exactly while a capture starts, runs or
    stops on it. -/
theorem capture_named_iff_status (cluster : String) (initialNodes : List String)
    (events : List Event) (node : String) (n : Node)
    (here : ((Orchestrator.create cluster initialNodes).run events).session.node? node = some n) :
    n.captureName ≠ none
      ↔ n.status = .captureStarting ∨ n.status = .captureRunning ∨ n.status = .captureStopping := by
  have h : n.NameFollowsStatus :=
    Orchestrator.run_keeps_nodes nameFollowsStatus_empty
      (fun _ _ _ _ _ halters => halters.nameFollowsStatus) cluster initialNodes events node n here
  unfold NameFollowsStatus at h
  cases hname : n.captureName <;> cases hs : n.status <;> simp_all [NodeStatus.hasCapture]

/-- A capture is found and is to be stopped, while a late response to its
    start comes in, and a payload that is no response. -/
def stopAmidStrayResponses : List Event :=
  [.intent (.checkNode "n"), .response (.nodeChecked .success "n" true (some "web") []),
    .response (.captureStarted (.failure "late") "n"), .intent (.stopCapture "n"),
    .payload "start_capture" (.object [("node", .string "n")])]

/-- The capture that stops amid stray responses has its name. -/
theorem capture_named_amid_stray_responses :
    ∃ n, ((Orchestrator.create "lab" ["n"]).run stopAmidStrayResponses).session.node? "n" = some n
      ∧ n.status = .captureStopping
      ∧ (n.captureName ≠ none
        ↔ n.status = .captureStarting ∨ n.status = .captureRunning ∨ n.status = .captureStopping) :=
  ⟨_, rfl, rfl, capture_named_iff_status "lab" ["n"] stopAmidStrayResponses "n" _ rfl⟩

end NodeCapture
