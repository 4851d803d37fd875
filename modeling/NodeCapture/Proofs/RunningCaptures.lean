import NodeCapture.Proofs.Responding
import NodeCapture.Proofs.TakenCaptures

/-! # Captures that are running already

    The run of a capture first checks its node.  The first command that it runs
    in a debug pod then tells whether a capture is running already: either it
    is that of the check, which lists the processes, or there was no debug pod
    and it installs the tools in a new one.  Once it is known, later commands do
    not change it (`firstCommand?_append`).

    Where a capture is found, everything that is called only looks at the nodes
    and at the debug pod; where the run goes on, none was found.  With that the
    main statement says of every run what its exit code tells
    (`exit_code_tells_capture`). -/

namespace NodeCapture

section Definitions

variable (s : Settings) (node : String)

/-- A call runs a command in a debug pod. -/
def Call.RunsCommand (c : Call) : Prop := c.args.head? = some "exec"

instance : DecidablePred Call.RunsCommand :=
  fun c => inferInstanceAs (Decidable (c.args.head? = some "exec"))

/-- The exchange that first ran a command in a debug pod. -/
def firstCommand? (exchanges : List Exchange) : Option Exchange :=
  exchanges.reverse.find? (fun e => e.call.RunsCommand)

/-- The first command that was run in a debug pod found a capture running on
    the node. -/
def FindsCapture (exchanges : List Exchange) : Prop :=
  ∃ e capture pid, firstCommand? exchanges = some e ∧ ListsProcess s node capture pid e

/-- A command was run in a debug pod, and the first one found no capture. -/
def RulesOut (exchanges : List Exchange) : Prop :=
  ∃ e, firstCommand? exchanges = some e ∧ ∀ capture pid, ¬ListsProcess s node capture pid e

/-- A call changes something: it applies a manifest, starts a capture, ends a
    process, or deletes something. -/
inductive Call.Changes : Call → Prop where
  | applies {c : Call} (applies : c.Applies) : Changes c
  | starts {node capture : String} {filters : CaptureFilters} :
      Changes (s.exec node (s.startCommand capture filters))
  | kills {node : String} {pid : Int} : Changes (s.exec node (Settings.killCommand pid))
  | deletes {c : Call} (deletes : c.args.head? = some "delete") : Changes c

end Definitions

variable {s : Settings} {node : String} {exchanges later before : List Exchange}

/-! ## The first command -/

/-- The first command was an earlier one, if there was one. -/
theorem firstCommand?_append :
    firstCommand? (later ++ before) = (firstCommand? before).or (firstCommand? later) := by
  rw [firstCommand?, List.reverse_append, List.find?_append, firstCommand?, firstCommand?]

/-- There is no first command where there is none. -/
theorem firstCommand?_eq_none :
    firstCommand? exchanges = none ↔ ∀ e ∈ exchanges, ¬e.call.RunsCommand := by
  simp [firstCommand?]

/-- What the first command ruled out stays so. -/
theorem RulesOut.append (h : RulesOut s node before) (later : List Exchange) :
    RulesOut s node (later ++ before) := by
  obtain ⟨e, hfirst, hnone⟩ := h
  exact ⟨e, by rw [firstCommand?_append, hfirst, Option.some_or], hnone⟩

/-- The first command does not both find a capture and rule it out. -/
theorem RulesOut.not_findsCapture (h : RulesOut s node exchanges) :
    ¬FindsCapture s node exchanges := by
  rintro ⟨e, capture, pid, hfirst, hlists⟩
  obtain ⟨e', hfirst', hnone⟩ := h
  obtain rfl := Option.some.inj (hfirst.symm.trans hfirst')
  exact hnone capture pid hlists

/-- Who looks at a debug pod lists its processes or its capture files. -/
theorem Call.Looks.command {node' command : String} (h : (s.exec node' command).Looks s node) :
    command = Settings.processCommand ∨ command = s.findCommand := by
  generalize hcall : s.exec node' command = c at h
  cases h with
  | processes => exact Or.inl (by simpa [Settings.exec] using congrArg (·.args.getLast?) hcall)
  | files => exact Or.inr (by simpa [Settings.exec] using congrArg (·.args.getLast?) hcall)
  | _ =>
      simp [Settings.exec, listNodes, Settings.listDebugPods, Settings.waitReady] at hcall

/-- Looking changes nothing. -/
theorem Call.Looks.not_changes {c : Call} (h : c.Looks s node) : ¬c.Changes s := by
  intro changes
  cases changes with
  | applies applies => exact h.not_applies applies
  | deletes deletes =>
      cases h <;>
        simp [listNodes, Settings.listDebugPods, Settings.waitReady, Settings.exec] at deletes
  | starts =>
      rename_i node' capture filters
      have hlast := s.getLast?_startCommand capture filters
      rcases h.command with hcommand | hcommand
      · rw [hcommand] at hlast
        exact absurd hlast (by decide)
      · exact s.getLast?_findCommand (hcommand ▸ hlast)
  | kills =>
      rcases h.command with hcommand | hcommand
      · exact Operation.killCommand_ne_processCommand _ hcommand
      · exact Operation.killCommand_ne_findCommand s _ hcommand

/-! ## The preparation of the debug pod -/

/-- What a check comes to: the exchanges and the status of the node. -/
structure Looked (s : Settings) (node : String) (exchanges : List Exchange) (status : NodeStatus) :
    Prop where
  looks : ∀ e ∈ exchanges, e.call.Looks s node
  bare : status = .clean → firstCommand? exchanges = none
  rulesOut : status = .podRunning → RulesOut s node exchanges

/-- A capture that is found is left alone, and where the debug pod runs none was
    found. -/
structure Spares (s : Settings) (node : String) (exchanges : List Exchange) (status : NodeStatus) :
    Prop where
  looks : FindsCapture s node exchanges → ∀ e ∈ exchanges, e.call.Looks s node
  rulesOut : status = .podRunning → RulesOut s node exchanges

/-- A check that tells nothing. -/
theorem Looked.of_unknown {status : NodeStatus} (looks : ∀ e ∈ exchanges, e.call.Looks s node)
    (unknown : status = .unknown) : Looked s node exchanges status := by
  subst unknown
  exact ⟨looks, by rintro ⟨⟩, by rintro ⟨⟩⟩

/-- A check leaves captures alone. -/
theorem Looked.spares {status : NodeStatus} (h : Looked s node exchanges status) :
    Spares s node exchanges status :=
  ⟨fun _ => h.looks, h.rulesOut⟩

/-- Listing nodes runs no command. -/
theorem firstCommand?_listing (h : ∀ e ∈ before, e.call = listNodes) :
    firstCommand? before = none := by
  refine firstCommand?_eq_none.mpr fun e he => ?_
  rw [h e he]
  decide

/-- A check may follow the listing of nodes. -/
theorem Looked.after_listing {status : NodeStatus} (h : Looked s node exchanges status)
    (hbefore : ∀ e ∈ before, e.call = listNodes) : Looked s node (exchanges ++ before) status := by
  have hfirst : firstCommand? (exchanges ++ before) = firstCommand? exchanges := by
    rw [firstCommand?_append, firstCommand?_listing hbefore, Option.none_or]
  refine ⟨List.forall_mem_append.mpr ⟨h.looks, ?_⟩, ?_, ?_⟩
  · intro e he
    rw [hbefore e he]
    exact .nodes
  · rw [hfirst]
    exact h.bare
  · rw [RulesOut, hfirst]
    exact h.rulesOut

namespace Operation

variable {result : Except OperationFault Response}

/-- A check that was awaited comes to what it looked at. -/
theorem looked_of_leads (leads : (checkNode s node).Leads exchanges result) {n : Node} :
    Looked s node exchanges
      ((Orchestrator.responseOf (.checkNode node) result).update n.markChecking).status := by
  have looks : ∀ e ∈ exchanges, e.call.Looks s node := (checkNode_makes s node).of_leads leads
  -- a check that fails tells nothing
  have failed : ∀ {podRunning : Bool} {running : Option String} {text : String},
      Fails (fun error => .nodeChecked (.failure (text ++ error)) node podRunning running [])
          result →
      Looked s node exchanges
        ((Orchestrator.responseOf (.checkNode node) result).update n.markChecking).status := by
    rintro podRunning running text (⟨error, rfl⟩ | ⟨fault, rfl⟩) <;> exact .of_unknown looks rfl
  have faulty : (∃ fault, result = .error fault) → Looked s node exchanges
      ((Orchestrator.responseOf (.checkNode node) result).update n.markChecking).status := by
    rintro ⟨fault, rfl⟩
    exact .of_unknown looks rfl
  rw [checkNode] at leads
  rcases leads_attempt leads with ⟨r, rest, -, rfl, leads₁⟩ | ⟨reply, -, -, hfails⟩
  swap
  · exact failed hfails
  dsimp only at leads₁
  split at leads₁
  swap
  · -- there is no debug pod
    cases leads₁
    exact ⟨looks, fun _ => rfl, by rintro ⟨⟩⟩
  rcases leads_attempt leads₁ with ⟨r₁, rest₁, -, rfl, leads₂⟩ | ⟨reply, -, -, hfails⟩
  swap
  · exact failed hfails
  rcases leads_attempt leads₂ with ⟨r₂, rest₂, -, rfl, leads₃⟩ | ⟨reply, -, -, hfails⟩
  swap
  · exact failed hfails
  rcases leads_reading leads₃ with ⟨processes, hprocesses, leads₄⟩ | herror
  swap
  · exact faulty herror
  rcases leads_attempt leads₄ with ⟨r₃, rest₃, -, rfl, leads₅⟩ | ⟨reply, -, -, hfails⟩
  swap
  · exact failed hfails
  rcases leads_reading leads₅ with ⟨files, -, leads₆⟩ | herror
  swap
  · exact faulty herror
  cases leads₆
  cases processes with
  | nil =>
      refine ⟨looks, by rintro ⟨⟩, fun _ => ⟨_, rfl, ?_⟩⟩
      rintro capture pid ⟨r, found, -, hfound, hmem, he⟩
      obtain rfl : r₂ = r := Reply.exited.inj (congrArg Exchange.reply he)
      rw [← Except.ok.inj (hprocesses.symm.trans hfound)] at hmem
      cases hmem
  | cons process more => exact ⟨looks, by rintro ⟨⟩, by rintro ⟨⟩⟩

/-- The first command in a new debug pod installs its tools. -/
theorem spares_of_leads_createPod (leads : (createPod s node).Leads exchanges result)
    (hbefore : firstCommand? before = none) {n : Node} :
    Spares s node (exchanges ++ before)
      ((Orchestrator.responseOf (.createPod node) result).update n.markCreatingPod).status := by
  have installs : (firstCommand? exchanges = none
        ∧ ((Orchestrator.responseOf (.createPod node) result).update n.markCreatingPod).status
          = .unknown)
      ∨ ∃ reply, firstCommand? exchanges = some ⟨s.exec node Settings.installCommand, reply⟩ := by
    rw [createPod] at leads
    rcases leads_attempt leads with ⟨r, rest, -, rfl, leads₁⟩ | ⟨reply, -, rfl, hfails⟩
    swap
    · exact Or.inl ⟨rfl, hfails.unknown_of_createPod⟩
    rcases leads_attempt leads₁ with ⟨r₁, rest₁, -, rfl, leads₂⟩ | ⟨reply, -, rfl, hfails⟩
    swap
    · exact Or.inl ⟨rfl, hfails.unknown_of_createPod⟩
    rcases leads_attempt leads₂ with ⟨r₂, rest₂, -, rfl, leads₃⟩ | ⟨reply, -, rfl, -⟩
    swap
    · exact Or.inr ⟨reply, rfl⟩
    cases leads₃
    exact Or.inr ⟨.exited r₂, rfl⟩
  rcases installs with ⟨hfirst, hstatus⟩ | ⟨reply, hfirst⟩
  · have hnone : firstCommand? (exchanges ++ before) = none := by
      rw [firstCommand?_append, hbefore, hfirst, Option.none_or]
    refine ⟨?_, fun hrunning => absurd (hstatus.symm.trans hrunning) (by decide)⟩
    rintro ⟨e, capture, pid, hfound, -⟩
    cases hnone.symm.trans hfound
  · have rulesOut : RulesOut s node (exchanges ++ before) := by
      refine ⟨_, by rw [firstCommand?_append, hbefore, hfirst, Option.none_or], ?_⟩
      rintro capture pid ⟨r, processes, -, -, -, he⟩
      have hcommand := (exec_inj s node).mp (congrArg Exchange.call he)
      exact absurd hcommand (by decide)
    exact ⟨fun finds => absurd finds rulesOut.not_findsCapture, fun _ => rulesOut⟩

end Operation

namespace Station

variable {st st' : Station}

/-- What a station has come to before a node is checked: the nodes were listed
    at most. -/
def Unchecked (node : String) (later : List Exchange) (session : Session) : Prop :=
  (∀ e ∈ later, e.call = listNodes) ∧ (session.stateOf node).status = .unknown

/-- Listing nodes checks none. -/
theorem Takes.unchecked (hst : st.Stands s [] (Unchecked node)) (h : st.Takes .listNodes st') :
    st'.Stands s [] (Unchecked node) := by
  have hstatus := (h.alike rfl node).status
  obtain ⟨exchanges, follows, hnew⟩ :
      ∃ exchanges, st.Follows exchanges st' ∧ ∀ e ∈ exchanges, e.call = listNodes := by
    cases h with
    | stayed declined session follows =>
        exact ⟨[], follows, fun e he => absurd he List.not_mem_nil⟩
    | carried begins leads session follows =>
        cases begins
        have makes : Operation.listNodes.Makes (· = listNodes) :=
          Operation.makes_attempt rfl fun _ => trivial
        exact ⟨_, follows, makes.of_leads leads⟩
  exact hst.follows follows fun later hlater =>
    ⟨List.forall_mem_append.mpr ⟨hnew, hlater.1⟩, hstatus.trans hlater.2⟩

/-- A check of a node of which nothing is known. -/
theorem Takes.looked (hst : st.Stands s [] (Unchecked node)) (h : st.Takes (.checkNode node) st') :
    st'.Stands s [] (fun later session => Looked s node later (session.stateOf node).status) := by
  obtain ⟨_, -, -, unknown⟩ := hst.since
  obtain ⟨exchanges, follows, looked⟩ : ∃ exchanges, st.Follows exchanges st'
      ∧ Looked s node exchanges (st'.session.stateOf node).status := by
    rcases h.leads node with
      ⟨alike, stays | ⟨r, between, begins, other⟩⟩
        | ⟨r, between, result, exchanges, begins, mine, -, leads, follows, hset⟩
    · have looks : ∀ e ∈ ([] : List Exchange), e.call.Looks s node :=
        fun e he => absurd he List.not_mem_nil
      exact ⟨[], stays, .of_unknown looks (alike.status.trans unknown)⟩
    · cases begins with
      | checkNode => cases other rfl
    · cases begins with
      | checkNode =>
          rw [hst.settings] at leads
          rw [Session.stateOf_of_some _ _ hset]
          exact ⟨exchanges, follows, Operation.looked_of_leads leads⟩
  exact hst.follows follows fun later hlater => looked.after_listing hlater.1

/-- The creation of a debug pod on a node that was found to have none. -/
theorem Takes.spares
    (hst : st.Stands s [] fun later session => Looked s node later (session.stateOf node).status)
    (clean : (st.session.stateOf node).status = .clean) (h : st.Takes (.createPod node) st') :
    st'.Stands s [] (fun later session => Spares s node later (session.stateOf node).status) := by
  obtain ⟨r, between, result, exchanges, begins, leads, follows, hset⟩ :=
    h.begun (Orchestrator.creation_accepted clean)
  cases begins with
  | createPod =>
      rw [hst.settings, Operation.ofRequest] at leads
      refine hst.follows follows fun later looked => ?_
      rw [Session.stateOf_of_some _ _ (hset node rfl (by rintro ⟨⟩))]
      exact Operation.spares_of_leads_createPod leads (looked.bare clean)

end Station

namespace Errand

variable {kubectl : Kubectl} {st : Station}

/-- Where the preparation of a debug pod fails over a capture, it leaves it
    alone. -/
theorem preparePod_spares {waiting : Station → Prop}
    (hst : st.Stands s [] (Station.Unchecked node)) :
    (preparePod kubectl node).After st
      (fun _ st' => RulesOut s node st'.bench.exchanges)
      (fun st' => FindsCapture s node st'.bench.exchanges →
        ∀ e ∈ st'.bench.exchanges, e.call.Looks s node) waiting := by
  -- what is known at a station of all that was exchanged
  have known : ∀ {st : Station} {P : List Exchange → Session → Prop},
      st.Stands s [] P → P st.bench.exchanges st.session := by
    intro st P h
    obtain ⟨later, hlater, hP⟩ := h.since
    rw [hlater, List.append_nil]
    exact hP
  have looks : ∀ {st : Station}, st.Stands s [] (Station.Unchecked node) →
      ∀ e ∈ st.bench.exchanges, e.call.Looks s node := by
    intro st h e he
    rw [(known h).1 e he]
    exact .nodes
  have prepared : (preparePod kubectl node).After st
      (fun _ st' => st'.Stands s [] (fun later session =>
          Spares s node later (session.stateOf node).status)
        ∧ (st'.session.stateOf node).status = .podRunning)
      (fun st' => FindsCapture s node st'.bench.exchanges →
        ∀ e ∈ st'.bench.exchanges, e.call.Looks s node) waiting :=
    after_preparePod hst (fun h listed => listed.unchecked h) (fun h checked => checked.looked h)
      (fun h clean created => created.spares h clean) (fun h => h.mono fun _ h => h.spares)
      (fun h _ => looks h) (fun h _ => (known h).looks)
  exact prepared.imp (fun _ _ h => (known h.1).rulesOut h.2) (fun _ h => h) fun _ h => h

/-- A run that ends well or waits for ever found no capture, and one that fails
    over a capture leaves it alone. -/
theorem runCapture_spares (kubectl : Kubectl) (now : Moment) (wakes : Binary64 → Bool)
    (o : RunOptions) (hst : st.Stands s [] (Station.Unchecked o.node))
    (fresh : st.Stands s [] (Undownloaded o.node)) :
    (runCapture kubectl now wakes o).After st
      (fun _ st' => ¬FindsCapture s o.node st'.bench.exchanges)
      (fun st' => FindsCapture s o.node st'.bench.exchanges →
        ∀ e ∈ st'.bench.exchanges, e.call.Looks s o.node)
      (fun st' => ¬FindsCapture s o.node st'.bench.exchanges) := by
  refine after_bind (((preparePod_readies fresh).and (preparePod_spares hst)).imp ?_
    (fun _ h => h.2) fun _ h => h.2)
  rintro _ st₁ ⟨⟨prepared, ready⟩, rulesOut⟩
  obtain ⟨_, -, fresh⟩ := prepared.since
  -- whatever comes after the preparation, the first command remains
  have none_found : ∀ {st' : Station} {P : List Exchange → Session → Prop},
      st'.Stands s st₁.bench.exchanges P → ¬FindsCapture s o.node st'.bench.exchanges := by
    intro st' P h
    obtain ⟨later, hlater, -⟩ := h.since
    rw [hlater]
    exact (rulesOut.append later).not_findsCapture
  refine (rest_cleansUp now wakes o (prepared.behind fresh.calm ready)).imp ?_ ?_ ?_
  · exact fun _ _ h => none_found h
  · exact fun _ h finds => absurd finds (none_found h)
  · exact fun _ h => none_found h.2

end Errand

/-! ## The command -/

/-- Whatever kubectl replies and whatever is asked for, a run of a capture ends
    well only if a capture was taken, with its file copied, and the debug pod
    was deleted after that unless it is to be kept.  If its check of the node
    finds a capture that is running already, the run fails, and its calls only
    look and change nothing. -/
theorem exit_code_tells_capture (w : Workplace) (kubeconfig : Option String) (o : RunOptions) :
    ((w.run (.atCluster kubeconfig (.runCapture o))).exitCode = 0 →
        ∃ s, Settings.ofEnvironment w.machine.env = .ok s
          ∧ TakesCapture s o (w.run (.atCluster kubeconfig (.runCapture o))).exchanges)
      ∧ ∀ s, Settings.ofEnvironment w.machine.env = .ok s →
          FindsCapture s o.node (w.run (.atCluster kubeconfig (.runCapture o))).exchanges →
          (w.run (.atCluster kubeconfig (.runCapture o))).exitCode = 1
            ∧ ∀ e ∈ (w.run (.atCluster kubeconfig (.runCapture o))).exchanges,
                e.call.Looks s o.node ∧ ¬e.call.Changes s := by
  have hrun : w.run (.atCluster kubeconfig (.runCapture o))
      = w.runErrand kubeconfig fun kubectl => Errand.runCapture kubectl w.now w.wakes o := rfl
  rw [hrun]
  rcases w.runErrand_ends kubeconfig
    (P := fun _ later session =>
      Station.Unchecked o.node later session ∧ Errand.Undownloaded o.node later session)
    (fun _ _ => ⟨⟨fun _ he => absurd he List.not_mem_nil, rfl⟩, Node.fresh_empty⟩)
    (fun s kubectl st stands =>
      have fresh := stands.mono fun _ h => h.2
      (Errand.runCapture_takes kubectl w.now w.wakes o fresh).and
        (Errand.runCapture_spares kubectl w.now w.wakes o (stands.mono fun _ h => h.1) fresh)) with
    ⟨hcode, -, hnothing⟩ | ⟨s, st, hs, hexchanges, ends⟩
  · rw [hcode, hnothing]
    exact ⟨fun h => absurd h (by decide),
      fun _ _ _ => ⟨rfl, fun _ he => absurd he List.not_mem_nil⟩⟩
  rw [CommandReport.exitCode, hexchanges]
  -- a run that ends well or never ends had found no capture, and one that fails only looked
  rcases ends with ⟨hending, takes, unfound⟩ | ⟨⟨fault, hending⟩, -, spares⟩ | ⟨hending, -, unfound⟩
  · rw [hending]
    refine ⟨fun _ => ⟨s, hs, takes⟩, fun s' hs' finds => ?_⟩
    obtain rfl := Except.ok.inj (hs.symm.trans hs')
    exact absurd finds unfound
  · rw [hending]
    refine ⟨fun h => absurd h Nat.one_ne_zero, fun s' hs' finds => ⟨rfl, fun e he => ?_⟩⟩
    obtain rfl := Except.ok.inj (hs.symm.trans hs')
    exact ⟨spares finds e he, (spares finds e he).not_changes⟩
  · rw [hending]
    refine ⟨fun h => absurd h (by decide), fun s' hs' finds => ?_⟩
    obtain rfl := Except.ok.inj (hs.symm.trans hs')
    exact absurd finds unfound

/-- The line of a process that writes a capture. -/
def runningLine (capture : String) : String :=
  "7 tcpdump " ++ Settings.defaults.tcpdumpBase ++ " -w " ++ Settings.filePath {} capture

/-- The replies of kubectl where a capture is taken. -/
def takingReplies : List Reply :=
  let capture := (labWorkplace []).now.captureName
  [.exited {}, .exited {}, .exited {}, .exited { stdout := runningLine capture }, .exited {},
    .exited { stdout := Settings.filePath {} capture ++ "\t3\n" }, .exited { exitCode := 1 },
    .exited {}, .exited {}, .exited {}]

/-- The replies of kubectl where a capture is running on the node. -/
def holdingReplies : List Reply :=
  [.exited { stdout := "n\n" }, .exited { stdout := "debug-n\n" }, .exited {},
    .exited { stdout := runningLine "web" }, .exited {}]

/-- A run on a node where a capture is running. -/
def heldRun : CommandReport :=
  (labWorkplace holdingReplies).run (.atCluster none (.runCapture plainRun))

/-- The first command of this run finds the capture. -/
theorem heldRun_findsCapture : FindsCapture {} "n" heldRun.exchanges := by
  have first : firstCommand? heldRun.exchanges = some ⟨Settings.exec {} "n" Settings.processCommand,
      .exited { stdout := runningLine "web" }⟩ := by decide +kernel
  have processes : readProcesses {} (runningLine "web") = .ok [⟨7, "web"⟩] := by decide +kernel
  exact ⟨_, "web", 7, first, { stdout := runningLine "web" }, _, rfl, processes,
    List.mem_singleton_self _, rfl⟩

/-- At the lab one run takes a capture, and another one leaves a capture alone. -/
theorem exit_code_tells_capture_at_lab :
    ((labRun takingReplies).exitCode = 0
        ∧ ∃ s, Settings.ofEnvironment (labWorkplace []).machine.env = .ok s
          ∧ TakesCapture s plainRun (labRun takingReplies).exchanges)
      ∧ heldRun.exitCode = 1
      ∧ ∀ e ∈ heldRun.exchanges, e.call.Looks {} "n" ∧ ¬e.call.Changes {} := by
  have succeeded : (labRun takingReplies).exitCode = 0 := by decide +kernel
  obtain ⟨taken, -⟩ :=
    exit_code_tells_capture (labWorkplace (applyingReplies ++ takingReplies)) none plainRun
  obtain ⟨-, held⟩ := exit_code_tells_capture (labWorkplace holdingReplies) none plainRun
  exact ⟨⟨succeeded, taken succeeded⟩, held {} rfl heldRun_findsCapture⟩

end NodeCapture
