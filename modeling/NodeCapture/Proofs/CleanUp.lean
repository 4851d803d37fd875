import NodeCapture.CommandLine.Basic
import NodeCapture.Proofs.PodRemoval

/-! # Cleaning up after a capture

    The run of a capture prepares the debug pod, takes the capture and removes
    the pod, whatever went wrong with the capture.  But the preparation comes
    before that: where the manifest is applied and then the pod does not become
    ready, or does not get its tools, the run ends without a removal.

    `RunsCapture` lists what a run comes to, from which the main statement
    follows (`cleans_up_iff_readied`). -/

namespace NodeCapture

variable {s : Settings} {node : String}

/-! ## Preparing the debug pod -/

/-- The debug pod became ready and got its tools, right at the beginning. -/
def Readies (s : Settings) (node : String) (later : List Exchange) : Prop :=
  ∃ after r r', r.succeeded = true ∧ r'.succeeded = true ∧ later
    = after ++ [⟨s.exec node Settings.installCommand, .exited r'⟩, ⟨s.waitReady node, .exited r⟩]

/-- A debug pod that became ready did so, whatever comes later. -/
theorem Readies.append {before : List Exchange} (h : Readies s node before)
    (later : List Exchange) :
    Readies s node (later ++ before) := by
  obtain ⟨after, r, r', hr, hr', rfl⟩ := h
  exact ⟨later ++ after, r, r', hr, hr', (List.append_assoc ..).symm⟩

/-- The debug pod did not become ready, or did not get its tools. -/
inductive Unready (s : Settings) (node : String) : List Exchange → Prop where
  | waiting {reply : Reply} (bad : reply.IsBad) : Unready s node [⟨s.waitReady node, reply⟩]
  | installing {reply : Reply} {r : CommandResult} (bad : reply.IsBad) :
      Unready s node [⟨s.exec node Settings.installCommand, reply⟩, ⟨s.waitReady node, .exited r⟩]

/-- What the preparation of a debug pod comes to: the exchanges and the status
    of the node. -/
inductive Prepares (s : Settings) (node : String) : List Exchange → NodeStatus → Prop where
  | unapplied {exchanges : List Exchange} {status : NodeStatus} (unapplied : Unapplied exchanges) :
      Prepares s node exchanges status
  | refused {reply : Reply} {before : List Exchange} (bad : reply.IsBad)
      (earlier : Unapplied before) :
      Prepares s node (⟨s.applyManifest node, reply⟩ :: before) .unknown
  | unready {rest before : List Exchange} {r : CommandResult} (succeeded : r.succeeded = true)
      (unready : Unready s node rest) (earlier : Unapplied before) :
      Prepares s node (rest ++ ⟨s.applyManifest node, .exited r⟩ :: before) .unknown
  | ready {rest before : List Exchange} {r : CommandResult} (succeeded : r.succeeded = true)
      (readies : Readies s node rest) (unapplied : Unapplied rest) (earlier : Unapplied before) :
      Prepares s node (rest ++ ⟨s.applyManifest node, .exited r⟩ :: before) .podRunning

/-- What the run of a capture comes to: the exchanges at its end. -/
inductive RunsCapture (s : Settings) (node : String) : List Exchange → Prop where
  | unapplied {exchanges : List Exchange} (unapplied : Unapplied exchanges) :
      RunsCapture s node exchanges
  | refused {reply : Reply} {before : List Exchange} (bad : reply.IsBad)
      (earlier : Unapplied before) : RunsCapture s node (⟨s.applyManifest node, reply⟩ :: before)
  | unready {rest before : List Exchange} {r : CommandResult} (succeeded : r.succeeded = true)
      (unready : Unready s node rest) (earlier : Unapplied before) :
      RunsCapture s node (rest ++ ⟨s.applyManifest node, .exited r⟩ :: before)
  | cleaned {later before : List Exchange} {r : CommandResult} (succeeded : r.succeeded = true)
      (readies : Readies s node later) (cleans : CleansUp s node later)
      (unapplied : Unapplied later) (earlier : Unapplied before) :
      RunsCapture s node (later ++ ⟨s.applyManifest node, .exited r⟩ :: before)

/-- A run ends where the debug pod is not running. -/
theorem Prepares.ends {exchanges : List Exchange} {status : NodeStatus}
    (h : Prepares s node exchanges status) (hstatus : status ≠ .podRunning) :
    RunsCapture s node exchanges := by
  cases h with
  | unapplied unapplied => exact .unapplied unapplied
  | refused bad earlier => exact .refused bad earlier
  | unready succeeded unready earlier => exact .unready succeeded unready earlier
  | ready => exact absurd rfl hstatus

/-- A run that goes on cleans up. -/
theorem Prepares.cleaned {exchanges later : List Exchange}
    (h : Prepares s node exchanges .podRunning) (cleans : CleansUp s node later)
    (hlater : Unapplied later) : RunsCapture s node (later ++ exchanges) := by
  cases h with
  | unapplied unapplied => exact .unapplied (hlater.append unapplied)
  | ready succeeded readies hrest earlier =>
      rename_i rest before r
      rw [← List.append_assoc]
      exact .cleaned succeeded (readies.append later) (cleans.append_before rest)
        (hlater.append hrest) earlier

/-- A creation that fails leaves nothing known. -/
theorem Operation.Fails.unknown_of_createPod {result : Except OperationFault Response}
    {text : String}
    {n : Node}
    (h : Fails (fun error => .podCreated (.failure (text ++ error)) node) result) :
    ((Orchestrator.responseOf (.createPod node) result).update n.markCreatingPod).status
      = .unknown := by
  rcases h with ⟨error, rfl⟩ | ⟨fault, rfl⟩ <;> rfl

/-- The creation of a debug pod prepares it, or ends with a failure. -/
theorem Operation.leads_createPod {exchanges : List Exchange}
    {result : Except OperationFault Response} (leads : (createPod s node).Leads exchanges result)
    {before : List Exchange} (earlier : Unapplied before) {n : Node} :
    Prepares s node (exchanges ++ before)
      ((Orchestrator.responseOf (.createPod node) result).update n.markCreatingPod).status := by
  rw [createPod] at leads
  rcases leads_attempt leads with ⟨r, rest, hr, rfl, leads₁⟩ | ⟨reply, bad, rfl, hfails⟩
  · rw [List.append_assoc, List.singleton_append]
    rcases leads_attempt leads₁ with ⟨r₁, rest₁, hr₁, rfl, leads₂⟩ | ⟨reply, bad, rfl, hfails⟩
    · rcases leads_attempt leads₂ with ⟨r₂, rest₂, hr₂, rfl, leads₃⟩ | ⟨reply, bad, rfl, hfails⟩
      · cases leads₃
        refine .ready hr ⟨[], r₁, r₂, hr₁, hr₂, rfl⟩ ?_ earlier
        simp [Unapplied, not_applies_exec, not_applies_waitReady]
      · rw [hfails.unknown_of_createPod]
        exact .unready hr (.installing bad) earlier
    · rw [hfails.unknown_of_createPod]
      exact .unready hr (.waiting bad) earlier
  · rw [hfails.unknown_of_createPod]
    exact .refused bad earlier

namespace Errand

variable {kubectl : Kubectl} {st : Station}

/-- What a station has come to before a debug pod is created. -/
def Untouched (node : String) (later : List Exchange) (session : Session) : Prop :=
  Unapplied later ∧ (session.stateOf node).Calm

/-- What a station has come to while a debug pod is prepared. -/
def Preparing (s : Settings) (node : String) (later : List Exchange) (session : Session) : Prop :=
  (session.stateOf node).Calm ∧ Prepares s node later (session.stateOf node).status

/-- A run may end before the debug pod is created. -/
theorem runs_of_untouched (h : st.Stands s [] (Untouched node)) :
    RunsCapture s node st.bench.exchanges := by
  obtain ⟨later, hlater, unapplied, -⟩ := h.since
  rw [hlater, List.append_nil]
  exact .unapplied unapplied

/-- Only the creation of a debug pod applies its manifest. -/
theorem untouched_takes {st' : Station} {i : Intent} (hi : ∀ name, i ≠ .createPod name)
    (h : st.Stands s [] (Untouched node)) (takes : st.Takes i st') :
    st'.Stands s [] (Untouched node) := by
  obtain ⟨exchanges, follows, hnew⟩ := takes.unapplied hi
  exact h.follows follows fun later hlater => ⟨hnew.append hlater.1, takes.calm hlater.2⟩

/-- The creation of a debug pod on a node that has none. -/
theorem preparing_of_created {st' : Station} (h : st.Stands s [] (Untouched node))
    (clean : (st.session.stateOf node).status = .clean) (created : st.Takes (.createPod node) st') :
    st'.Stands s [] (Preparing s node) := by
  obtain ⟨_, -, -, calm⟩ := h.since
  obtain ⟨r, between, result, exchanges, begins, leads, follows, hset⟩ :=
    created.begun (Orchestrator.creation_accepted clean)
  refine h.follows follows fun later hlater => ⟨created.calm calm, ?_⟩
  cases begins with
  | createPod =>
      rw [h.settings, Operation.ofRequest] at leads
      rw [Session.stateOf_of_some _ _ (hset node rfl (by rintro ⟨⟩))]
      exact Operation.leads_createPod leads hlater.1

/-- A debug pod that is not running is not gone on with. -/
theorem after_ifRunning {R failed waiting : Station → Prop} (h : R st)
    (ends : (st.session.stateOf node).status ≠ .podRunning → failed st) :
    After (do
        let n ← Errand.node node
        if n.status = .captureRunning then fail (.alreadyRunning (n.captureName.getD "") node)
        if n.status ≠ .podRunning then fail (.reportedOr n.error (.inStatus node n.status)))
      st (fun _ st' => R st' ∧ (st'.session.stateOf node).status = .podRunning) failed waiting := by
  refine after_bind (after_node ?_)
  refine after_unless ?_ ?_
  · intro hstatus
    exact ends (by rw [hstatus]; decide)
  · intro _
    dsimp only
    split
    · next hstatus => exact after_fail (ends hstatus)
    · next hstatus => exact after_pure ⟨h, not_not.mp hstatus⟩

/-- The preparation of a debug pod, step by step: what holds before the check,
    after it, and where the pod was created or need not be.  Only a running pod
    is gone on with. -/
theorem after_preparePod {known checked prepared : List Exchange → Session → Prop}
    {failed waiting : Station → Prop} (hst : st.Stands s [] known)
    (lists : ∀ {st st' : Station}, st.Stands s [] known → st.Takes .listNodes st' →
      st'.Stands s [] known)
    (checks : ∀ {st st' : Station}, st.Stands s [] known → st.Takes (.checkNode node) st' →
      st'.Stands s [] checked)
    (creates : ∀ {st st' : Station}, st.Stands s [] checked →
      (st.session.stateOf node).status = .clean → st.Takes (.createPod node) st' →
      st'.Stands s [] prepared)
    (exists_already : ∀ {st : Station}, st.Stands s [] checked → st.Stands s [] prepared)
    (stops : ∀ {st : Station}, st.Stands s [] known → failed st)
    (ends : ∀ {st : Station}, st.Stands s [] prepared →
      (st.session.stateOf node).status ≠ .podRunning → failed st) :
    (preparePod kubectl node).After st
      (fun _ st' => st'.Stands s [] prepared ∧ (st'.session.stateOf node).status = .podRunning)
      failed waiting := by
  refine after_bind (after_bind (after_ensureKnown hst.idle ?_))
  intro st₁ reached
  have h₁ : st₁.Stands s [] known := by
    rcases reached with rfl | listed
    · exact hst
    · exact lists hst listed
  refine ⟨after_carryOut h₁.idle (fun _ => stops h₁) ?_, stops h₁⟩
  intro st₂ checked
  have h₂ := checks h₁ checked
  -- whether the debug pod is created or not, only its status counts afterwards
  refine after_bind (after_node ?_)
  dsimp only
  split
  · next clean =>
      refine after_bind (after_say ?_)
      refine after_bind (after_carryOut h₂.idle (by rintro ⟨_, ⟨⟩⟩) ?_)
      intro st₃ created
      have h₃ := creates h₂ clean created
      exact after_ifRunning h₃ (ends h₃)
  · have h₃ := exists_already h₂
    exact after_ifRunning h₃ (ends h₃)

/-- A run ends where the debug pod that was prepared is not running. -/
theorem runs_of_preparing (h : st.Stands s [] (Preparing s node))
    (hstatus : (st.session.stateOf node).status ≠ .podRunning) :
    RunsCapture s node st.bench.exchanges := by
  obtain ⟨later, hlater, -, prepares⟩ := h.since
  rw [hlater, List.append_nil]
  exact prepares.ends hstatus

/-- The preparation ends the run, or goes on with a debug pod that is running. -/
theorem preparePod_prepares {waiting : Station → Prop} (hst : st.Stands s [] (Untouched node)) :
    (preparePod kubectl node).After st
      (fun _ st' => st'.Stands s [] (Preparing s node)
        ∧ (st'.session.stateOf node).status = .podRunning)
      (fun st' => RunsCapture s node st'.bench.exchanges) waiting :=
  after_preparePod hst (untouched_takes (by rintro _ ⟨⟩)) (untouched_takes (by rintro _ ⟨⟩))
    preparing_of_created (fun h => h.mono fun _ h => ⟨h.2, .unapplied h.1⟩) runs_of_untouched
    runs_of_preparing

/-- Setting the filters and taking a capture leaves a ready node at rest, unless
    there is no end of the capture. -/
theorem captured_rests {base : List Exchange} (now : Moment) (wakes : Binary64 → Bool)
    (o : RunOptions) (hst : st.Stands s base (Meanwhile o.node fun _ => Node.Ready)) :
    (setFilters kubectl o >>= fun _ => capture kubectl now wakes o).After st
      (fun _ => Station.Stands s base (Meanwhile o.node fun _ => Node.AtRest))
      (Station.Stands s base (Meanwhile o.node fun _ => Node.AtRest))
      (fun st' => wakes o.duration = false
        ∧ st'.Stands s base (Meanwhile o.node fun _ => Node.Captures)) := by
  refine after_bind
    ((setFilters_keeps (keeps_aside Node.Alike.ready) o st hst).imp ?_ ?_ fun _ h => h)
  · exact fun _ _ h => capture_rests h
  · exact fun _ h => h.weaken fun _ => Or.inl

/-- Where the debug pod is ready, the rest of the run cleans up, unless the pod
    is to be kept or there is no end of the capture. -/
theorem rest_cleansUp {base : List Exchange} (now : Moment) (wakes : Binary64 → Bool)
    (o : RunOptions) (hst : st.Stands s base (Meanwhile o.node fun _ => Node.Ready)) :
    After (do
        carryOut kubectl (.select (some o.node))
        let captured : Errand Unit := do
          setFilters kubectl o
          capture kubectl now wakes o
        if o.keepsPod then captured
        else withLast captured do
          say ("🧹 Removing debug pod from " ++ o.node ++ "...")
          removePod kubectl o.node)
      st
      (fun _ => Station.Stands s base
        (Meanwhile o.node fun later _ => o.keepsPod = false → CleansUp s o.node later))
      (Station.Stands s base
        (Meanwhile o.node fun later _ => o.keepsPod = false → CleansUp s o.node later))
      (fun st' => wakes o.duration = false
        ∧ st'.Stands s base (Meanwhile o.node fun _ => Node.Captures)) := by
  refine after_bind (after_carryOut hst.idle (by rintro ⟨_, ⟨⟩⟩) ?_)
  intro st₁ selected
  have h₁ : st₁.Stands s base (Meanwhile o.node fun _ => Node.Ready) :=
    hst.takes selected (by rintro _ ⟨⟩) fun _ _ _ => selected.ready_of_aside rfl
  -- the pod is removed behind the capture, whether that ends well or fails
  cases hkeeps : o.keepsPod with
  | true =>
      have kept : ∀ st₂ : Station, st₂.Stands s base (Meanwhile o.node fun _ => Node.AtRest) →
          st₂.Stands s base
            (Meanwhile o.node fun later _ => true = false → CleansUp s o.node later) :=
        fun st₂ h₂ => h₂.weaken fun _ _ hremoves => nomatch hremoves
      exact (captured_rests now wakes o h₁).imp (fun _ => kept) kept fun _ h => h
  | false =>
      have removed : ∀ st₂ : Station, st₂.Stands s base (Meanwhile o.node fun _ => Node.AtRest) →
          (say ("🧹 Removing debug pod from " ++ o.node ++ "...") >>= fun _ =>
            removePod kubectl o.node).After st₂
              (fun _ => Station.Stands s base
                (Meanwhile o.node fun later _ => false = false → CleansUp s o.node later))
              (Station.Stands s base
                (Meanwhile o.node fun later _ => false = false → CleansUp s o.node later))
              (fun st' => wakes o.duration = false
                ∧ st'.Stands s base (Meanwhile o.node fun _ => Node.Captures)) := by
        intro st₂ h₂
        refine after_bind (after_say ((removePod_cleansUp h₂).imp ?_ ?_ fun _ h => h))
        · exact fun _ _ h => h.weaken fun _ cleans _ => cleans
        · exact fun _ h => h.weaken fun _ cleans _ => cleans
      exact after_withLast (captured_rests now wakes o h₁) (fun _ => removed) removed fun _ h => h

/-- The run of a capture from a station at which nothing was done. -/
theorem runCapture_runs (kubectl : Kubectl) (now : Moment) (wakes : Binary64 → Bool)
    {o : RunOptions} (removes : o.keepsPod = false) (hst : st.Stands s [] (Untouched o.node)) :
    (runCapture kubectl now wakes o).After st
      (fun _ st' => RunsCapture s o.node st'.bench.exchanges)
      (fun st' => RunsCapture s o.node st'.bench.exchanges)
      (fun _ => wakes o.duration = false) := by
  refine after_bind ((preparePod_prepares hst).imp ?_ (fun _ h => h) fun _ h => h)
  rintro _ st₁ ⟨prepared, ready⟩
  obtain ⟨base, hbase, calm, prepares⟩ := prepared.since
  rw [ready] at prepares
  have h₁ := prepared.behind calm ready
  rw [hbase, List.append_nil] at h₁
  have cleaned : ∀ st' : Station, st'.Stands s base
      (Meanwhile o.node fun later _ => o.keepsPod = false → CleansUp s o.node later) →
      RunsCapture s o.node st'.bench.exchanges := by
    intro st' h
    obtain ⟨later, hlater, meanwhile⟩ := h.since
    rw [hlater]
    exact prepares.cleaned (meanwhile.state removes) meanwhile.unapplied
  exact (rest_cleansUp now wakes o h₁).imp (fun _ => cleaned) cleaned fun _ => And.left

end Errand

/-! ## The command -/

/-- Looking for the kubeconfig leaves the environment as it is. -/
theorem Machine.resolveKubeconfig_env {m m' : Machine} {path : Option String} {found : LocalPath}
    (h : m.resolveKubeconfig path = .ok (found, m')) : m'.env = m.env := by
  unfold resolveKubeconfig at h
  split at h
  · cases h
    rfl
  · dsimp only at h
    split at h
    · cases h
    · split at h
      · cases h
        rfl
      · cases h

/-- A station that is set up has the settings of the environment, and nothing
    was done at it. -/
theorem Setup.build_opens {m : Machine} {path : Option String} {configured : String}
    {discover : Bool} {setup : Setup} (h : build m path configured discover = .ok setup) :
    ∃ s cluster nodes files nesting, Settings.ofEnvironment m.env = .ok s
      ∧ (discover = false → nodes = [])
      ∧ setup.station = ⟨s, .create cluster nodes, { files := files, nesting := nesting }⟩ := by
  have opened : ∀ {s : Settings} {o : Orchestrator} {files : LocalFiles} {nesting : Nat}
      {station : Station}, open? s o files nesting = .ok station →
      station = ⟨s, o, { files := files, nesting := nesting }⟩ := by
    intro s o files nesting station hopen
    rw [open?] at hopen
    split at hopen
    · cases hopen
    · cases hopen
      rfl
  simp only [build, bind, Except.bind] at h
  split at h
  · cases h
  next found hfound =>
    rw [Machine.resolveKubeconfig_env hfound] at h
    cases hs : Settings.ofEnvironment m.env with
    | error e =>
        rw [hs] at h
        cases h
    | ok s =>
        simp only [hs, Except.mapError] at h
        split at h
        · cases h
        split at h
        · cases h
        next hopen =>
          cases h
          refine ⟨s, _, _, _, _, rfl, fun undiscovered => ?_, opened hopen⟩
          rw [undiscovered]
          rfl

/-- What holds of nothing holds of a station that is set up without nodes. -/
theorem Setup.build_stands {m : Machine} {path : Option String} {configured : String}
    {setup : Setup} (h : build m path configured false = .ok setup)
    {P : Settings → List Exchange → Session → Prop}
    (hP : ∀ s cluster, P s [] (Session.create cluster [])) :
    ∃ s, Settings.ofEnvironment m.env = .ok s ∧ setup.station.Stands s [] (P s) := by
  obtain ⟨s, cluster, nodes, files, nesting, hs, hnodes, hstation⟩ := build_opens h
  obtain rfl := hnodes rfl
  exact ⟨s, hs, hstation ▸ ⟨rfl, rfl, [], rfl, hP s cluster⟩⟩

/-- A command at a cluster fails before anything is called, or its errand starts
    at a station at which nothing was done: it ends well, fails or waits for
    ever. -/
theorem Workplace.runErrand_ends (w : Workplace) (kubeconfig : Option String)
    {errand : Kubectl → Errand Unit} {P : Settings → List Exchange → Session → Prop}
    {ok failed waiting : Settings → Station → Prop}
    (hP : ∀ s cluster, P s [] (Session.create cluster []))
    (h : ∀ s kubectl st, Station.Stands s [] (P s) st →
      (errand kubectl).After st (fun _ => ok s) (failed s) (waiting s)) :
    ((w.runErrand kubeconfig errand).exitCode = 1
        ∧ (w.runErrand kubeconfig errand).ending ≠ .waiting
        ∧ (w.runErrand kubeconfig errand).exchanges = [])
      ∨ ∃ s st, Settings.ofEnvironment w.machine.env = .ok s
          ∧ (w.runErrand kubeconfig errand).exchanges = st.bench.exchanges
          ∧ (((w.runErrand kubeconfig errand).ending = .succeeded ∧ ok s st)
            ∨ ((∃ fault, (w.runErrand kubeconfig errand).ending = .failed fault) ∧ failed s st)
            ∨ ((w.runErrand kubeconfig errand).ending = .waiting ∧ waiting s st)) := by
  rw [runErrand]
  cases hsetup : Setup.build w.machine kubeconfig w.configuration.kubeconfig false with
  | error fault =>
      refine Or.inl ?_
      dsimp only [CommandReport.exitCode]
      split
      · exact ⟨rfl, by rintro ⟨⟩, rfl⟩
      · exact ⟨rfl, by rintro ⟨⟩, rfl⟩
  | ok setup =>
      obtain ⟨s, hs, stands⟩ := Setup.build_stands hsetup hP
      have hafter := h s (w.kubectl setup.runner) setup.station stands
        { station := setup.station } rfl
      refine Or.inr ⟨s, ((errand (w.kubectl setup.runner)).run.run
        { station := setup.station }).2.station, hs, rfl, ?_⟩
      -- the three outcomes are those of the errand at the station that was set up
      revert hafter
      dsimp only
      rcases (errand (w.kubectl setup.runner)).run.run _ with ⟨(fault | _) | _, counter⟩
      · exact fun hfailed => Or.inr (Or.inl ⟨⟨fault, rfl⟩, hfailed⟩)
      · exact fun hwaiting => Or.inr (Or.inr ⟨rfl, hwaiting⟩)
      · exact fun hok => Or.inl ⟨rfl, hok⟩

/-- Where a manifest was applied once, it was there. -/
theorem Unapplied.split_unique {later later' before before' : List Exchange} {e e' : Exchange}
    (hlater : Unapplied later) (hbefore : Unapplied before) (applies : e'.call.Applies)
    (h : later ++ e :: before = later' ++ e' :: before') : later = later' ∧ e = e' := by
  rcases List.append_eq_append_iff.mp h with ⟨between, rfl, hrest⟩ | ⟨between, rfl, hrest⟩
  · cases between with
    | nil => exact ⟨(List.append_nil _).symm, (List.cons.inj hrest).1⟩
    | cons x between =>
        obtain ⟨rfl, rfl⟩ := List.cons.inj hrest
        exact absurd applies (hbefore e' (List.mem_append_right _ List.mem_cons_self))
  · cases between with
    | nil => exact ⟨List.append_nil _, (List.cons.inj hrest).1.symm⟩
    | cons x between =>
        obtain ⟨rfl, rfl⟩ := List.cons.inj hrest
        exact absurd applies (hlater e' (List.mem_append_right _ List.mem_cons_self))

/-- No manifest is applied between the one of the debug pod and the failure of
    its preparation. -/
theorem Unready.unapplied {rest : List Exchange} (h : Unready s node rest) : Unapplied rest := by
  cases h <;> simp [Unapplied, Operation.not_applies_exec, Operation.not_applies_waitReady]

/-- What is done before the debug pod is ready cleans nothing up. -/
theorem Unready.not_cleansUp {rest : List Exchange} (h : Unready s node rest) :
    ¬CleansUp s node rest := by
  have others : ∀ e ∈ rest, e.call ≠ s.deletePod node ∧ e.call ≠ s.listDebugPods := by
    cases h <;>
      simp [Settings.waitReady, Settings.exec, Settings.deletePod, Settings.listDebugPods]
  intro cleans
  cases cleans with
  | deletes mem deletes => exact (others _ mem).1 deletes
  | rechecks split leads hinders =>
      obtain ⟨e, he, hcall⟩ := Operation.mem_of_leads_checkNode leads
      refine (others e ?_).2 hcall
      rw [split]
      exact List.mem_append_left _ (List.mem_append_right _ he)

/-- A debug pod does not both become ready and fail to. -/
theorem Unready.not_readies {rest : List Exchange} (h : Unready s node rest) :
    ¬Readies s node rest := by
  rintro ⟨after, r, r', -, hr', hrest⟩
  have hlength := congrArg List.length hrest
  cases h with
  | waiting bad => simp at hlength
  | installing bad =>
      obtain rfl : after = [] := by simpa using hlength
      obtain ⟨hfirst, -⟩ := List.cons.inj hrest
      rw [bad r' (congrArg Exchange.reply hfirst)] at hr'
      cases hr'

/-- A run of a capture that is not to keep the debug pod comes to one of these
    ends, unless there is no end of the capture. -/
theorem Workplace.run_runsCapture (w : Workplace) (kubeconfig : Option String) {o : RunOptions}
    (hs : Settings.ofEnvironment w.machine.env = .ok s) (removes : o.keepsPod = false) :
    ((w.run (.atCluster kubeconfig (.runCapture o))).ending ≠ .waiting
        ∧ RunsCapture s o.node (w.run (.atCluster kubeconfig (.runCapture o))).exchanges)
      ∨ ((w.run (.atCluster kubeconfig (.runCapture o))).ending = .waiting
        ∧ w.wakes o.duration = false) := by
  rcases w.runErrand_ends kubeconfig (P := fun _ => Errand.Untouched o.node)
    (fun _ _ => ⟨unapplied_nil, Node.calm_empty⟩)
    (fun s kubectl st stands => Errand.runCapture_runs kubectl w.now w.wakes removes stands) with
    ⟨-, ended, hnothing⟩ | ⟨s', st, hs', hexchanges, ends⟩
  · exact Or.inl ⟨ended, hnothing ▸ .unapplied unapplied_nil⟩
  · obtain rfl := Except.ok.inj (hs.symm.trans hs')
    rcases ends with ⟨hending, runs⟩ | ⟨⟨fault, hending⟩, runs⟩ | ends
    · exact Or.inl ⟨fun h => absurd (hending.symm.trans h) (by rintro ⟨⟩), hexchanges ▸ runs⟩
    · exact Or.inl ⟨fun h => absurd (hending.symm.trans h) (by rintro ⟨⟩), hexchanges ▸ runs⟩
    · exact Or.inr ends

/-- Where the capture is to take a time of which there is an end, the run ends. -/
theorem Workplace.run_ended {w : Workplace} {kubeconfig : Option String} {o : RunOptions}
    (hs : Settings.ofEnvironment w.machine.env = .ok s) (removes : o.keepsPod = false)
    (hwakes : w.wakes o.duration = true) :
    (w.run (.atCluster kubeconfig (.runCapture o))).ending ≠ .waiting := by
  rcases w.run_runsCapture kubeconfig hs removes with ⟨ended, -⟩ | ⟨-, hwaits⟩
  · exact ended
  · rw [hwakes] at hwaits
    cases hwaits

/-- Of a run that applied the manifest it can be told how it went on. -/
theorem RunsCapture.outcome {later before : List Exchange} {r : CommandResult}
    (h : RunsCapture s node (later ++ ⟨s.applyManifest node, .exited r⟩ :: before))
    (succeeded : r.succeeded = true) :
    Unready s node later ∨ (Readies s node later ∧ CleansUp s node later) := by
  have applies : (Exchange.mk (s.applyManifest node) (.exited r)).call.Applies := rfl
  generalize hexchanges : later ++ _ :: before = exchanges at h
  cases h with
  | unapplied unapplied =>
      refine absurd applies (unapplied _ ?_)
      rw [← hexchanges]
      exact List.mem_append_right _ List.mem_cons_self
  | refused bad earlier =>
      obtain ⟨-, hexchange⟩ := unapplied_nil.split_unique earlier applies hexchanges.symm
      rw [bad r (congrArg Exchange.reply hexchange)] at succeeded
      cases succeeded
  | unready _ unready earlier =>
      obtain ⟨rfl, -⟩ := unready.unapplied.split_unique earlier applies hexchanges.symm
      exact Or.inl unready
  | cleaned _ readies cleans unapplied earlier =>
      obtain ⟨rfl, -⟩ := unapplied.split_unique earlier applies hexchanges.symm
      exact Or.inr ⟨readies, cleans⟩

/-- Whatever kubectl replies and whatever else is asked for, a run of a capture
    that is not to keep the debug pod, and that applied its manifest, cleans up
    exactly if the pod became ready and got its tools: then it deletes the pod,
    or checks the node and finds something in the way, whichever later step
    fails.  Otherwise the run ends with the wait or with the installation that
    failed.  A run does not end only where it waits for a capture of which there
    is no end (`Workplace.run_ended`). -/
theorem cleans_up_iff_readied (w : Workplace) (kubeconfig : Option String) (o : RunOptions)
    (s : Settings) (hs : Settings.ofEnvironment w.machine.env = .ok s)
    (removes : o.keepsPod = false)
    (ended : (w.run (.atCluster kubeconfig (.runCapture o))).ending ≠ .waiting)
    (later before : List Exchange) (r : CommandResult)
    (applied : (w.run (.atCluster kubeconfig (.runCapture o))).exchanges
      = later ++ ⟨s.applyManifest o.node, .exited r⟩ :: before)
    (succeeded : r.succeeded = true) :
    (CleansUp s o.node later ↔ Readies s o.node later)
      ∧ (Readies s o.node later ∨ Unready s o.node later) := by
  obtain ⟨-, hruns⟩ := (w.run_runsCapture kubeconfig hs removes).resolve_right (ended ·.1)
  rw [applied] at hruns
  rcases hruns.outcome succeeded with unready | ⟨readies, cleans⟩
  · exact ⟨iff_of_false unready.not_cleansUp unready.not_readies, Or.inr unready⟩
  · exact ⟨iff_of_true cleans readies, Or.inl readies⟩

/-- A workplace with a kubeconfig, where kubectl gives some replies in turn. -/
def labWorkplace (replies : List Reply) : Workplace where
  machine :=
    { env := [("KUBECONFIG_CONTENT", "current-context: lab\ncontexts:\n- name: lab\n  context:\n"
        ++ "    cluster: lab\nclusters:\n- name: lab\n  cluster: here\n")]
      files := .basic ["home"]
      contents := [] }
  configuration := {}
  kubectl := fun _ => .inTurn replies
  now := ⟨2024, 5, 6, 0, 0, 0, 0⟩

/-- The options of a run with nothing but a node. -/
def plainRun : RunOptions := { CommandForm.readRun [] with node := "n", keepsPod := false }

/-- The replies of kubectl where the node is listed and without a debug pod,
    whose manifest is applied. -/
def applyingReplies : List Reply := [.exited { stdout := "n\n" }, .exited {}, .exited {}]

/-- A run with such replies and some more. -/
def labRun (more : List Reply) : CommandReport :=
  (labWorkplace (applyingReplies ++ more)).run (.atCluster none (.runCapture plainRun))

/-- Such a run ends. -/
theorem labRun_ended (more : List Reply) : (labRun more).ending ≠ .waiting :=
  Workplace.run_ended (o := plainRun) (s := {}) rfl rfl rfl

/-- What kind of call was exchanged. -/
def Exchange.verb (e : Exchange) : Option String := e.call.args.head?

/-- Where another call follows one that applies a manifest, that one went well. -/
theorem labRun_applied {more : List Reply} {verb : Option String} {verbs : List (Option String)}
    (hverbs : (labRun more).exchanges.map Exchange.verb = verb :: verbs)
    (hlast : verb ≠ some "apply") (happly : some "apply" ∈ verbs) :
    ∃ later before r, r.succeeded = true
      ∧ (labRun more).exchanges = later ++ ⟨Settings.applyManifest {} "n", .exited r⟩ :: before
      ∧ (Unready {} "n" later ∨ (Readies {} "n" later ∧ CleansUp {} "n" later)) := by
  obtain ⟨-, hruns⟩ : _ ∧ RunsCapture {} "n" (labRun more).exchanges :=
    ((labWorkplace (applyingReplies ++ more)).run_runsCapture none (o := plainRun) rfl
      rfl).resolve_right fun h => labRun_ended more h.1
  generalize (labRun more).exchanges = exchanges at hruns hverbs
  cases hruns with
  | unapplied unapplied =>
      obtain ⟨e, he, hverb⟩ := List.mem_map.mp (hverbs ▸ List.mem_cons_of_mem _ happly)
      exact absurd hverb (unapplied e he)
  | refused => exact absurd (List.cons.inj hverbs).1.symm hlast
  | unready succeeded unready => exact ⟨_, _, _, succeeded, rfl, Or.inl unready⟩
  | cleaned succeeded readies cleans => exact ⟨_, _, _, succeeded, rfl, Or.inr ⟨readies, cleans⟩⟩

/-- A run in which the capture cannot be started cleans up. -/
theorem cleans_up_after_failed_start :
    ∃ later before r, r.succeeded = true
      ∧ (labRun [.exited {}, .exited {}, .exited { exitCode := 1 }]).exchanges
          = later ++ ⟨Settings.applyManifest {} "n", .exited r⟩ :: before
      ∧ CleansUp {} "n" later := by
  have verbs :
      (labRun [.exited {}, .exited {}, .exited { exitCode := 1 }]).exchanges.map Exchange.verb
      = [some "delete", some "exec", some "exec", some "wait", some "apply", some "get",
        some "get"] := by
    decide +kernel
  obtain ⟨later, before, r, succeeded, applied, hlater⟩ :=
    labRun_applied verbs (by decide) (by decide)
  refine ⟨later, before, r, succeeded, applied, ?_⟩
  refine (cleans_up_iff_readied (labWorkplace _) none plainRun {} rfl rfl (labRun_ended _) later
    before r applied succeeded).1.mpr ?_
  rcases hlater with unready | ⟨readies, -⟩
  · rw [applied] at verbs
    cases unready <;> simp [Exchange.verb, Settings.waitReady, Settings.exec] at verbs
  · exact readies

/-- A run in which the debug pod does not become ready leaves it behind, though
    its manifest was applied. -/
theorem not_cleans_up :
    ¬∀ (w : Workplace) (kubeconfig : Option String) (o : RunOptions) (s : Settings),
      Settings.ofEnvironment w.machine.env = .ok s → o.keepsPod = false →
      (w.run (.atCluster kubeconfig (.runCapture o))).ending ≠ .waiting →
      ∀ later before r, (w.run (.atCluster kubeconfig (.runCapture o))).exchanges
          = later ++ ⟨s.applyManifest o.node, .exited r⟩ :: before → r.succeeded = true →
        CleansUp s o.node later := by
  intro cleans
  have verbs : (labRun [.exited { exitCode := 1 }]).exchanges.map Exchange.verb
      = [some "wait", some "apply", some "get", some "get"] := by
    decide +kernel
  obtain ⟨later, before, r, succeeded, applied, hlater⟩ :=
    labRun_applied verbs (by decide) (by decide)
  rcases hlater with unready | ⟨⟨after, r₁, r₂, -, -, rfl⟩, -⟩
  · exact unready.not_cleansUp
      (cleans (labWorkplace _) none plainRun {} rfl rfl (labRun_ended _) later before r applied
        succeeded)
  · -- nothing was installed in this run
    have hexec :
        some "exec" ∈ (labRun [.exited { exitCode := 1 }]).exchanges.map Exchange.verb := by
      rw [applied]
      simp [Exchange.verb, Settings.exec]
    rw [verbs] at hexec
    exact absurd hexec (by decide)

end NodeCapture
