import NodeCapture.Proofs.CaptureRuns

/-! # Removing the debug pod

    `CleansUp` says what is done about a debug pod that is to be removed: it is
    deleted, or the node is checked and the check finds something that stands in
    the way (`Hinders`).  The removal starts where the debug pod runs without a
    capture or where nothing is known.  After its first step something was done
    about the pod, or the pod is ready to be deleted, or a capture was found;
    each further step leaves fewer of these cases (`removePod_cleansUp`). -/

namespace NodeCapture

section Definitions

variable (s : Settings) (node : String)

/-- A capture cannot be stopped: its name is unfit for a request, or it was
    tried and failed. -/
def StopFails (capture : String) (after : List Exchange) : Prop :=
  ¬isCaptureName capture ∨ ∃ later exchanges result, after = later ++ exchanges
    ∧ (Operation.stopCapture s node capture).Leads exchanges result
    ∧ (Orchestrator.responseOf (.stopCapture node capture) result).outcome.succeeded = false

/-- What a check reports stands in the way of deleting the debug pod: the check
    failed, there is no pod, or a capture runs that cannot be stopped. -/
inductive Hinders (after : List Exchange) : Response → Prop where
  | failed {outcome : Outcome} {podRunning : Bool} {running : Option String}
      {completed : List CaptureFile} (bad : outcome.succeeded = false) :
      Hinders after (.nodeChecked outcome node podRunning running completed)
  | gone {outcome : Outcome} {running : Option String} {completed : List CaptureFile} :
      Hinders after (.nodeChecked outcome node false running completed)
  | held {outcome : Outcome} {capture : String} {completed : List CaptureFile}
      (fails : StopFails s node capture after) :
      Hinders after (.nodeChecked outcome node true (some capture) completed)

/-- What a run does about a debug pod: it deletes the pod, or it checks the node
    and finds something that stands in the way. -/
inductive CleansUp (later : List Exchange) : Prop where
  | deletes {e : Exchange} (mem : e ∈ later) (deletes : e.call = s.deletePod node)
  | rechecks {after exchanges before : List Exchange} {result : Except OperationFault Response}
      (split : later = after ++ exchanges ++ before)
      (leads : (Operation.checkNode s node).Leads exchanges result)
      (hinders : Hinders s node after (Orchestrator.responseOf (.checkNode node) result))

end Definitions

variable {s : Settings} {node : String}

/-- A stop that failed has failed, whatever comes later. -/
theorem StopFails.append {capture : String} {after : List Exchange}
    (h : StopFails s node capture after)
    (later : List Exchange) : StopFails s node capture (later ++ after) := by
  rcases h with h | ⟨between, exchanges, result, rfl, leads, bad⟩
  · exact Or.inl h
  · exact Or.inr ⟨later ++ between, exchanges, result, (List.append_assoc ..).symm, leads, bad⟩

/-- What stood in the way did so, whatever comes later. -/
theorem Hinders.append {after : List Exchange} {response : Response}
    (h : Hinders s node after response)
    (later : List Exchange) : Hinders s node (later ++ after) response := by
  cases h with
  | failed bad => exact .failed bad
  | gone => exact .gone
  | held fails => exact .held (fails.append later)

/-- What was done about a debug pod stays done. -/
theorem CleansUp.append_later {before : List Exchange} (h : CleansUp s node before)
    (later : List Exchange) : CleansUp s node (later ++ before) := by
  cases h with
  | deletes mem deletes => exact .deletes (List.mem_append_right later mem) deletes
  | rechecks split leads hinders =>
      rename_i after exchanges earlier result
      have hsplit : later ++ before = (later ++ after) ++ exchanges ++ earlier := by
        rw [split, List.append_assoc, List.append_assoc, List.append_assoc]
      exact .rechecks hsplit leads (hinders.append later)

/-- What is done about a debug pod may follow anything. -/
theorem CleansUp.append_before {later : List Exchange} (h : CleansUp s node later)
    (before : List Exchange) : CleansUp s node (later ++ before) := by
  cases h with
  | deletes mem deletes => exact .deletes (List.mem_append_left before mem) deletes
  | rechecks split leads hinders =>
      rename_i after exchanges earlier result
      have hsplit : later ++ before = after ++ exchanges ++ (earlier ++ before) := by
        rw [split, List.append_assoc]
      exact .rechecks hsplit leads hinders

/-- A check that was just made and finds something in the way. -/
theorem CleansUp.of_check {exchanges before : List Exchange}
    {result : Except OperationFault Response}
    (leads : (Operation.checkNode s node).Leads exchanges result)
    (hinders : Hinders s node [] (Orchestrator.responseOf (.checkNode node) result)) :
    CleansUp s node (exchanges ++ before) :=
  .rechecks (List.nil_append (exchanges ++ before)).symm leads hinders

namespace Operation

/-- A check asks for the debug pods. -/
theorem mem_of_leads_checkNode {exchanges : List Exchange} {result : Except OperationFault Response}
    (leads : (checkNode s node).Leads exchanges result) :
    ∃ e ∈ exchanges, e.call = s.listDebugPods := by
  rw [checkNode] at leads
  exact mem_of_leads_attempt leads

/-- A deletion deletes the debug pod. -/
theorem mem_of_leads_deletePod {exchanges : List Exchange} {result : Except OperationFault Response}
    (leads : (deletePod s node).Leads exchanges result) :
    ∃ e ∈ exchanges, e.call = s.deletePod node := by
  rw [deletePod] at leads
  exact mem_of_leads_attempt leads

/-- A stop that ends well reports the file of its capture. -/
theorem stopCapture_reports (capture : String) :
    Always (fun r => ∀ outcome name file, r = .captureStopped outcome name file →
      outcome.succeeded = true → file.map CaptureFile.name = some capture)
      (stopCapture s node capture) := by
  have failed : ∀ text, ∀ outcome name file,
      Response.captureStopped (.failure text) node none = .captureStopped outcome name file →
      outcome.succeeded = true → file.map CaptureFile.name = some capture := by
    rintro text _ _ _ ⟨⟩ hok
    cases hok
  rw [stopCapture]
  refine always_attempt (fun _ => failed _) ?_
  intro ps
  refine always_reading ?_
  intro processes
  dsimp only
  split
  · exact always_respond (failed _)
  · refine always_attempt (fun _ => failed _) ?_
    intro _
    refine always_attempt (fun _ => failed _) ?_
    intro found
    refine always_reading ?_
    intro files
    split
    · exact always_respond (failed _)
    · next file hfile =>
        refine always_respond ?_
        rintro _ _ _ ⟨⟩ -
        exact congrArg some (by simpa using List.find?_some hfile)

/-- A stop that ends well reports the file of its capture. -/
theorem reports_of_leads_stopCapture {capture name : String} {outcome : Outcome}
    {file : Option CaptureFile} {exchanges : List Exchange}
    {result : Except OperationFault Response}
    (leads : (stopCapture s node capture).Leads exchanges result)
    (h : Orchestrator.responseOf (.stopCapture node capture) result
      = .captureStopped outcome name file)
    (hok : outcome.succeeded = true) : file.map CaptureFile.name = some capture := by
  cases result with
  | ok response => exact stopCapture_reports capture response leads.mayEnd _ _ _ h hok
  | error fault =>
      cases h
      cases hok

end Operation

/-! ## Removing the debug pod -/

/-- A check found a capture that runs. -/
def FindsRunning (s : Settings) (node : String) (later : List Exchange) (n : Node) : Prop :=
  n.status = .captureRunning ∧ ∃ capture exchanges before result outcome completed,
    n.captureName = some capture ∧ later = exchanges ++ before
      ∧ (Operation.checkNode s node).Leads exchanges result
      ∧ Orchestrator.responseOf (.checkNode node) result
          = .nodeChecked outcome node true (some capture) completed

/-- A capture that was found and cannot be stopped is in the way. -/
theorem FindsRunning.cleansUp {later after : List Exchange} {n : Node}
    (h : FindsRunning s node later n)
    (fails : ∀ capture, n.captureName = some capture → StopFails s node capture after) :
    CleansUp s node (after ++ later) := by
  obtain ⟨-, capture, exchanges, before, result, outcome, completed, current, rfl,
    leads, hresponse⟩ := h
  refine .rechecks (List.append_assoc ..).symm leads ?_
  rw [hresponse]
  exact .held (fails capture current)

namespace Station

variable {base : List Exchange} {st st' : Station}

/-- The check of a node of which nothing is known. -/
theorem Stands.checked (hst : st.Stands s base (Meanwhile node fun _ => Node.AtRest))
    (h : st.Takes (.checkNode node) st') (unknown : (st.session.stateOf node).status = .unknown) :
    st'.Stands s base (Meanwhile node fun later n =>
      CleansUp s node later ∨ n.Ready ∨ FindsRunning s node later n) := by
  refine hst.takes h (by rintro _ ⟨⟩) ?_
  intro later exchanges follows _
  obtain ⟨r, between, result, exchanges', begins, leads, follows', hset⟩ :=
    h.begun (Orchestrator.check_accepted hst.known unknown)
  obtain rfl := follows.unique follows'
  cases begins with
  | checkNode =>
      rw [Session.stateOf_of_some _ _ (hset node rfl (by rintro ⟨⟩))]
      have answers := answers_of_leads leads
      rw [hst.settings, Operation.ofRequest] at leads
      cases hresponse : Orchestrator.responseOf (.checkNode node) result with
      | nodeChecked outcome name podRunning running completed =>
          rw [hresponse] at answers
          obtain rfl : name = node := answers
          -- what stands in the way of a deletion is in the exchanges of this check
          have hinders : Hinders s name []
              (.nodeChecked outcome name podRunning running completed) →
              CleansUp s name (exchanges ++ later) :=
            fun h => .of_check leads (hresponse ▸ h)
          simp only [Response.update, Node.settleCheck]
          cases hok : outcome.succeeded with
          | false => exact Or.inl (hinders (.failed hok))
          | true =>
              simp only [if_true]
              cases podRunning with
              | false => exact Or.inl (hinders .gone)
              | true =>
                  cases running with
                  | none => exact Or.inr (Or.inl rfl)
                  | some capture =>
                      exact Or.inr (Or.inr ⟨rfl, capture, exchanges, later, result,
                        outcome, completed,
                        rfl, rfl, leads, hresponse⟩)
      | _ =>
          rw [hresponse] at answers
          exact answers.elim

/-- The stop of a capture that was found. -/
theorem Stands.stopFound (hst : st.Stands s base (Meanwhile node fun later n =>
      CleansUp s node later ∨ FindsRunning s node later n))
    (h : st.Takes (.stopCapture node) st') :
    st'.Stands s base (Meanwhile node fun later n => CleansUp s node later ∨ n.Ready) := by
  refine hst.takes h (by rintro _ ⟨⟩) ?_
  intro later exchanges follows hlater
  rcases hlater with hcleans | found
  · exact Or.inl (hcleans.append_later exchanges)
  obtain ⟨running, capture, -, -, -, -, -, current, -⟩ := id found
  have hinders : StopFails s node capture exchanges → CleansUp s node (exchanges ++ later) := by
    refine fun fails => found.cleansUp fun other hother => ?_
    obtain rfl : capture = other := Option.some.inj (current.symm.trans hother)
    exact fails
  by_cases named : isCaptureName capture
  · obtain ⟨r, between, stopped, exchanges', begins, leads, follows', hset⟩ :=
      h.begun ((Orchestrator.stop_accepted running current).1.mpr named)
    obtain rfl := follows.unique follows'
    cases begins with
    | stopCapture here fits' current' named' =>
        rename_i name n
        obtain rfl : st.session.stateOf node = n := Session.stateOf_of_some _ _ here
        obtain rfl : name = capture := Option.some.inj (current'.symm.trans current)
        rw [Session.stateOf_of_some _ _ (hset node rfl (by rintro ⟨⟩))]
        have answers := answers_of_leads leads
        rw [hst.settings, Operation.ofRequest] at leads
        -- a stop that ends well reports the capture that was stopped, so that the node is ready
        cases hstopped : Orchestrator.responseOf (.stopCapture node name) stopped with
        | captureStopped outcome node' file =>
            rw [hstopped] at answers
            obtain rfl : node' = node := answers
            cases hok : outcome.succeeded with
            | false =>
                refine Or.inl (hinders (Or.inr ⟨[], exchanges, stopped, rfl, leads, ?_⟩))
                rw [hstopped]
                exact hok
            | true =>
                obtain ⟨reported, rfl, rfl⟩ := Option.map_eq_some_iff.mp
                  (Operation.reports_of_leads_stopCapture leads hstopped hok)
                refine Or.inr ?_
                simp only [Response.update, Node.settleStop, hok, if_true, Request.mark,
                  Node.markCaptureStopping, current]
                rfl
        | _ =>
            rw [hstopped] at answers
            exact answers.elim
  · exact Or.inl (hinders (Or.inl named))

/-- The deletion of a debug pod in which nothing is being done. -/
theorem Stands.deleted (hst : st.Stands s base (Meanwhile node fun later n =>
      CleansUp s node later ∨ n.Ready))
    (h : st.Takes (.deletePod node) st') :
    st'.Stands s base (Meanwhile node fun later _ => CleansUp s node later) := by
  refine hst.takes h (by rintro _ ⟨⟩) ?_
  intro later exchanges follows hlater
  rcases hlater with hcleans | ready
  · exact hcleans.append_later exchanges
  obtain ⟨r, between, result, exchanges', begins, leads, follows', -⟩ :=
    h.begun (Orchestrator.deletion_accepted ready hst.calm)
  obtain rfl := follows.unique follows'
  cases begins with
  | deletePod =>
      rw [hst.settings, Operation.ofRequest] at leads
      obtain ⟨e, he, hcall⟩ := Operation.mem_of_leads_deletePod leads
      exact .deletes (List.mem_append_left _ he) hcall

end Station

namespace Errand

variable {α : Type} {kubectl : Kubectl} {base : List Exchange} {st : Station}
  {ok : α → Station → Prop} {failed waiting : Station → Prop}

/-- An intent that is for one status of a node, and what follows it. -/
theorem after_inStatus {status : NodeStatus} {i : Intent} {next : Unit → Errand α}
    (Q : Station → Prop) (idle : st.orchestrator.outstanding = [])
    (skipped : (st.session.stateOf node).status ≠ status → Q st)
    (raised : (st.session.stateOf node).status = status → st.orchestrator.Raises i → failed st)
    (taken : (st.session.stateOf node).status = status → ∀ st', st.Takes i st' → Q st')
    (rest : ∀ st', Q st' → (next ()).After st' ok failed waiting) :
    (Errand.node node >>= fun n =>
      if n.status = status then carryOut kubectl i >>= next else next ()).After st ok failed
        waiting := by
  refine after_bind (after_node ?_)
  refine after_when ?_ ?_
  · intro hstatus
    exact after_carryOut idle (raised hstatus) fun st' h => rest st' (taken hstatus st' h)
  · intro hstatus
    exact rest st (skipped hstatus)

/-- Removing the debug pod of a node at rest cleans up. -/
theorem removePod_cleansUp (hst : st.Stands s base (Meanwhile node fun _ => Node.AtRest)) :
    (removePod kubectl node).After st
      (fun _ => Station.Stands s base (Meanwhile node fun later _ => CleansUp s node later))
      (Station.Stands s base (Meanwhile node fun later _ => CleansUp s node later)) waiting := by
  have unraised : ∀ {o : Orchestrator}, ¬o.Raises (.checkNode node) := by
    rintro o ⟨_, ⟨⟩⟩
  -- a node of which nothing is known is checked
  refine after_inStatus (Station.Stands s base (Meanwhile node fun later n =>
    CleansUp s node later ∨ n.Ready ∨ FindsRunning s node later n)) hst.idle ?_
    (fun _ h => absurd h unraised) (fun unknown st' h => hst.checked h unknown) ?_
  · intro known
    exact hst.weaken fun _ h => Or.inr (Or.inl (h.resolve_right known))
  intro st₁ h₁
  -- a capture that was found is stopped
  refine after_inStatus (Station.Stands s base (Meanwhile node fun later n =>
    CleansUp s node later ∨ n.Ready)) h₁.idle ?_ ?_ ?_ ?_
  · intro hstatus
    exact h₁.weaken fun _ h => h.imp_right fun h => h.resolve_right fun found => hstatus found.1
  · -- the stop is an error, as the capture that was found has an unfit name
    intro running raised
    refine h₁.weaken fun later h => ?_
    rcases h with hcleans | ready | found
    · exact hcleans
    · cases ready.symm.trans running
    · refine (List.nil_append later) ▸ found.cleansUp fun capture current => Or.inl ?_
      exact (Orchestrator.stop_accepted running current).2.mp raised
  · intro running st' h
    refine Station.Stands.stopFound (h₁.weaken fun _ h => h.imp_right ?_) h
    exact fun h => h.resolve_left fun ready => nomatch ready.symm.trans running
  intro st₂ h₂
  -- a capture whose stop failed is in the way already, whatever another check finds
  refine after_inStatus (Station.Stands s base (Meanwhile node fun later n =>
    CleansUp s node later ∨ n.Ready)) h₂.idle (fun _ => h₂) (fun _ h => absurd h unraised) ?_ ?_
  · intro unknown st' h
    refine h₂.takes h (by rintro _ ⟨⟩) fun later exchanges _ hlater => ?_
    rcases hlater with hcleans | ready
    · exact Or.inl (hcleans.append_later exchanges)
    · cases ready.symm.trans unknown
  intro st₃ h₃
  exact after_carryOut h₃.idle (by rintro ⟨_, ⟨⟩⟩) fun st' h => h₃.deleted h

end Errand

end NodeCapture
