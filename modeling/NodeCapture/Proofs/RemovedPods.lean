import NodeCapture.Proofs.RunningCaptures

/-! # Debug pods that were removed

    The clean-up of a node looks at nothing but the status that its operations
    leave, and repeats the check where nothing is known.  `Attests` says what
    the exchanges then tell of each status: where the node is clean, the last
    ones saw the debug pod gone; where the pod runs, a capture that the latest
    check found was ended since; and where a capture runs, it is the one that
    this check found.  Checks, stops and deletions all keep this, whichever of
    their calls fail, so that the exit code tells whether the pod is gone
    (`exit_code_tells_removal`). -/

namespace NodeCapture

section Definitions

variable (s : Settings) (node : String)

/-- The last exchanges saw the debug pod of a node gone: it was not listed, or
    it was deleted and the wait for its end went well. -/
inductive SeesGone : List Exchange → Prop where
  | unlisted {r : CommandResult} {before : List Exchange} (succeeded : r.succeeded = true)
      (absent : s.podName node ∉ readNames r.stdout) :
      SeesGone (⟨s.listDebugPods, .exited r⟩ :: before)
  | deleted {r r' : CommandResult} {before : List Exchange} (deleted : r.succeeded = true)
      (waited : r'.succeeded = true) :
      SeesGone (⟨s.waitDeleted node, .exited r'⟩ :: ⟨s.deletePod node, .exited r⟩ :: before)

/-- The exchanges since the debug pods were last listed, as each check of a node
    does first. -/
def sinceListing (exchanges : List Exchange) : List Exchange :=
  exchanges.takeWhile (fun e => e.call ≠ s.listDebugPods)

/-- The latest check found a capture before all others that are running, and
    then some exchanges were made. -/
def LatelyFound (capture : String) (since exchanges : List Exchange) : Prop :=
  ∃ r p more reply, r.succeeded = true ∧ readProcesses s r.stdout = .ok (p :: more)
    ∧ p.capture = capture
    ∧ sinceListing s exchanges
      = since ++ [⟨s.exec node Settings.processCommand, .exited r⟩, ⟨s.waitReady node, reply⟩]

/-- A process of a capture was found, and then it was ended. -/
def Ended (capture : String) (exchanges : List Exchange) : Prop :=
  ∃ pid listed killed, ListsProcess s node capture pid listed ∧ Kills s node pid killed
    ∧ [killed, listed].Sublist exchanges

/-- A capture that the latest check found was ended since. -/
def Quiet (exchanges : List Exchange) : Prop :=
  ∀ capture since, LatelyFound s node capture since exchanges → Ended s node capture since

/-- A call deletes something. -/
def Call.Deletes (c : Call) : Prop := c.args.head? = some "delete"

/-- Nothing was deleted but after the captures that were found were ended. -/
def DeletesQuiet (exchanges : List Exchange) : Prop :=
  ∀ later e before, exchanges = later ++ e :: before → e.call.Deletes → Quiet s node before

/-- What the exchanges tell of the status of a node. -/
structure Attests (exchanges : List Exchange) (n : Node) : Prop where
  clean : n.status = .clean → SeesGone s node exchanges
  ready : n.status = .podRunning → Quiet s node exchanges
  running : n.status = .captureRunning →
    ∃ capture since, n.captureName = some capture ∧ LatelyFound s node capture since exchanges

end Definitions

variable {s : Settings} {node capture : String} {exchanges later before since : List Exchange}

/-! ## The latest check -/

/-- What comes later without a listing comes since the latest one. -/
theorem sinceListing_append (h : ∀ e ∈ later, e.call ≠ s.listDebugPods) :
    sinceListing s (later ++ before) = later ++ sinceListing s before :=
  List.takeWhile_append_of_pos fun e he => by simpa using h e he

/-- Only one capture was found before all others by the latest check. -/
theorem LatelyFound.unique {capture' : String} {since' : List Exchange}
    (h : LatelyFound s node capture since exchanges)
    (h' : LatelyFound s node capture' since' exchanges) : capture' = capture ∧ since' = since := by
  obtain ⟨r, p, more, reply, -, hread, rfl, hsplit⟩ := h
  obtain ⟨r', p', more', reply', -, hread', rfl, hsplit'⟩ := h'
  obtain ⟨hsince, hlast⟩ := List.append_inj' (hsplit'.symm.trans hsplit) rfl
  obtain ⟨rfl, -⟩ : r' = r ∧ reply' = reply := by simpa using hlast
  obtain ⟨rfl, -⟩ := List.cons.inj (Except.ok.inj (hread'.symm.trans hread))
  exact ⟨rfl, hsince⟩

/-- A capture that was found lately stays so until the pods are listed again. -/
theorem LatelyFound.append (h : LatelyFound s node capture since before)
    (hlater : ∀ e ∈ later, e.call ≠ s.listDebugPods) :
    LatelyFound s node capture (later ++ since) (later ++ before) := by
  obtain ⟨r, p, more, reply, succeeded, hread, hcapture, hsplit⟩ := h
  refine ⟨r, p, more, reply, succeeded, hread, hcapture, ?_⟩
  rw [sinceListing_append hlater, hsplit, List.append_assoc]

/-- A capture that was found and ended is no longer in the way. -/
theorem LatelyFound.quiet (h : LatelyFound s node capture since exchanges)
    (ended : Ended s node capture since) : Quiet s node exchanges := by
  intro capture' since' h'
  obtain ⟨rfl, rfl⟩ := h.unique h'
  exact ended

/-! ## Deletions -/

/-- Without deletions, nothing more is asked for. -/
theorem DeletesQuiet.append (h : DeletesQuiet s node before)
    (hlater : ∀ e ∈ later, ¬e.call.Deletes) : DeletesQuiet s node (later ++ before) := by
  intro after e earlier split deletes
  rcases List.append_eq_append_iff.mp split with ⟨between, rfl, hrest⟩ | ⟨between, rfl, hrest⟩
  · exact h between e earlier hrest deletes
  · cases between with
    | nil => exact h [] e earlier (by simpa using hrest.symm) deletes
    | cons x between =>
        obtain ⟨rfl, -⟩ := List.cons.inj hrest
        exact absurd deletes (hlater e (by simp))

/-- A deletion may come where nothing runs. -/
theorem DeletesQuiet.cons {e : Exchange} (h : DeletesQuiet s node before)
    (quiet : Quiet s node before) :
    DeletesQuiet s node (e :: before) := by
  intro later e' earlier split deletes
  cases later with
  | nil =>
      obtain ⟨-, rfl⟩ := List.cons.inj split
      exact quiet
  | cons x later => exact h later e' earlier (List.cons.inj split).2 deletes

/-- Only the deletion of a debug pod deletes something. -/
theorem Request.MayCall.of_deletes {q : Request} {c : Call} (h : q.MayCall s c)
    (deletes : c.Deletes) : q.kind = .deletePod := by
  cases h with
  | looks looks => exact absurd (.deletes deletes) looks.not_changes
  | deletes => rfl
  | waitsDeleted => rfl
  | _ =>
      simp [Call.Deletes, Settings.exec, Settings.applyManifest, Settings.waitReady, clientVersion,
        Settings.copyFile, NodeCapture.listNodes, NodeCapture.listPods] at deletes

/-! ## What operations leave to tell -/

/-- Nothing is attested of a node of which nothing is known. -/
theorem Attests.of_unknown {n : Node} (unknown : n.status = .unknown) :
    Attests s node exchanges n := by
  constructor <;> intro hstatus <;> cases unknown.symm.trans hstatus

/-- What the exchanges attest is told by the status and the current capture. -/
theorem Attests.alike {n n' : Node} (h : Attests s node exchanges n) (alike : n'.Alike n) :
    Attests s node exchanges n' := by
  refine ⟨fun hstatus => h.clean (alike.status ▸ hstatus),
    fun hstatus => h.ready (alike.status ▸ hstatus), fun hstatus => ?_⟩
  rw [alike.current]
  exact h.running (alike.status ▸ hstatus)

namespace Operation

variable {result : Except OperationFault Response} {n : Node}

/-- A check tells where the pod is gone, where nothing runs, and what runs. -/
theorem attests_of_leads_checkNode (leads : (checkNode s node).Leads exchanges result) :
    Attests s node (exchanges ++ before)
      ((Orchestrator.responseOf (.checkNode node) result).update n.markChecking) := by
  -- a check that fails leaves nothing known
  have failed : ∀ {podRunning : Bool} {running : Option String} {text : String},
      Fails (fun error => .nodeChecked (.failure (text ++ error)) node podRunning running [])
          result →
      Attests s node (exchanges ++ before)
        ((Orchestrator.responseOf (.checkNode node) result).update n.markChecking) := by
    rintro podRunning running text (⟨error, rfl⟩ | ⟨fault, rfl⟩) <;> exact .of_unknown rfl
  have faulty : (∃ fault, result = .error fault) → Attests s node (exchanges ++ before)
      ((Orchestrator.responseOf (.checkNode node) result).update n.markChecking) := by
    rintro ⟨fault, rfl⟩
    exact .of_unknown rfl
  rw [checkNode] at leads
  rcases leads_attempt leads with ⟨r, rest, hr, rfl, leads₁⟩ | ⟨reply, -, -, hfails⟩
  swap
  · exact failed hfails
  dsimp only at leads₁
  split at leads₁
  swap
  · next habsent =>
      cases leads₁
      have absent : s.podName node ∉ readNames r.stdout := by simpa using habsent
      exact ⟨fun _ => .unlisted hr absent, by rintro ⟨⟩, by rintro ⟨⟩⟩
  rcases leads_attempt leads₁ with ⟨r₁, rest₁, -, rfl, leads₂⟩ | ⟨reply, -, -, hfails⟩
  swap
  · exact failed hfails
  rcases leads_attempt leads₂ with ⟨r₂, rest₂, hr₂, rfl, leads₃⟩ | ⟨reply, -, -, hfails⟩
  swap
  · exact failed hfails
  rcases leads_reading leads₃ with ⟨processes, hprocesses, leads₄⟩ | herror
  swap
  · exact faulty herror
  rcases leads_attempt leads₄ with ⟨r₃, rest₃, -, rfl, leads₅⟩ | ⟨reply, -, -, hfails⟩
  swap
  · exact failed hfails
  rcases leads_reading leads₅ with ⟨files, -, leads₆⟩ | herror
  swap
  · exact faulty herror
  cases leads₆
  simp only [List.nil_append, List.cons_append]
  have since : sinceListing s (⟨s.exec node s.findCommand, .exited r₃⟩
      :: ⟨s.exec node Settings.processCommand, .exited r₂⟩ :: ⟨s.waitReady node, .exited r₁⟩
      :: ⟨s.listDebugPods, .exited r⟩ :: before)
      = [⟨s.exec node s.findCommand, .exited r₃⟩] ++ [⟨s.exec node Settings.processCommand,
        .exited r₂⟩, ⟨s.waitReady node, .exited r₁⟩] := by
    simp [sinceListing, Settings.exec, Settings.waitReady, Settings.listDebugPods]
  cases processes with
  | nil =>
      -- the processes that this check listed are the latest ones
      refine ⟨by rintro ⟨⟩, fun _ => ?_, by rintro ⟨⟩⟩
      rintro capture since' ⟨r', p, more, reply, -, hread, -, hsplit⟩
      obtain ⟨-, hlast⟩ := List.append_inj' (since.symm.trans hsplit) rfl
      obtain ⟨rfl, -⟩ : r₂ = r' ∧ Reply.exited r₁ = reply := by simpa using hlast
      cases hprocesses.symm.trans hread
  | cons process more =>
      have found : LatelyFound s node process.capture _ _ :=
        ⟨r₂, process, more, _, hr₂, hprocesses, rfl, since⟩
      exact ⟨by rintro ⟨⟩, by rintro ⟨⟩, fun _ => ⟨_, _, rfl, found⟩⟩

/-- A stop that ends well has ended the capture that was found. -/
theorem attests_of_leads_stopCapture (leads : (stopCapture s node capture).Leads exchanges result)
    (found : LatelyFound s node capture since before) :
    Attests s node (exchanges ++ before)
      ((Orchestrator.responseOf (.stopCapture node capture) result).update
        n.markCaptureStopping) := by
  have others : ∀ e ∈ exchanges, e.call ≠ s.listDebugPods := by
    intro e he
    have calls := (stopCapture_mayCall s node capture).of_leads leads e he
    generalize e.call = c at calls
    cases calls <;> simp [Settings.exec, Settings.listDebugPods]
  have answers := Station.answers_of_leads (r := .stopCapture node capture) leads
  cases hresponse : Orchestrator.responseOf (.stopCapture node capture) result with
  | captureStopped outcome name file =>
      simp only [Response.update, Node.settleStop]
      split
      · next hok =>
          obtain ⟨pid, listed, killed, file, rfl, hlisted, hkilled, -⟩ :=
            stops_of_leads leads (by rw [hresponse]; exact hok)
          have ended : Ended s node capture ([file, killed, listed] ++ since) :=
            ⟨pid, listed, killed, hlisted, hkilled,
              ((List.Sublist.refl _).cons file).trans (List.sublist_append_left _ _)⟩
          have quiet := (found.append others).quiet ended
          split
          · split
            · exact ⟨by rintro ⟨⟩, fun _ => quiet, by rintro ⟨⟩⟩
            · exact .of_unknown rfl
          · exact .of_unknown rfl
      · exact .of_unknown rfl
  | _ =>
      rw [hresponse] at answers
      exact answers.elim

/-- A deletion that ends well sees the debug pod gone. -/
theorem attests_of_leads_deletePod (leads : (deletePod s node).Leads exchanges result)
    (careful : DeletesQuiet s node before) (quiet : Quiet s node before) :
    DeletesQuiet s node (exchanges ++ before)
      ∧ Attests s node (exchanges ++ before)
        ((Orchestrator.responseOf (.deletePod node) result).update n.markDeletingPod) := by
  have failed : ∀ {text : String},
      Fails (fun error => .podDeleted (.failure (text ++ error)) node) result →
      Attests s node (exchanges ++ before)
        ((Orchestrator.responseOf (.deletePod node) result).update n.markDeletingPod) := by
    rintro text (⟨error, rfl⟩ | ⟨fault, rfl⟩) <;> exact .of_unknown rfl
  rw [deletePod] at leads
  rcases leads_attempt leads with ⟨r, rest, hr, rfl, leads₁⟩ | ⟨reply, -, rfl, hfails⟩
  swap
  · exact ⟨careful.cons quiet, failed hfails⟩
  have waits : ¬(s.waitDeleted node).Deletes := by simp [Call.Deletes, Settings.waitDeleted]
  rw [List.append_assoc] at failed ⊢
  rcases leads_attempt leads₁ with ⟨r₁, rest₁, hr₁, rfl, leads₂⟩ | ⟨reply, -, rfl, hfails⟩
  swap
  · exact ⟨(careful.cons quiet).append (List.forall_mem_singleton.mpr waits), failed hfails⟩
  cases leads₂
  refine ⟨(careful.cons quiet).append (List.forall_mem_singleton.mpr waits), ?_⟩
  exact ⟨fun _ => .deleted hr hr₁, by rintro ⟨⟩, by rintro ⟨⟩⟩

end Operation

/-! ## The clean-up -/

namespace Station

variable {base : List Exchange} {st st' : Station} {i : Intent}

/-- What a station has come to while a debug pod is removed. -/
structure Removing (s : Settings) (node : String) (later : List Exchange) (session : Session) :
    Prop where
  careful : DeletesQuiet s node later
  attests : Attests s node later (session.stateOf node)

/-- An intent for an operation at the node is carried out there or not at all. -/
theorem Stands.removing (hst : st.Stands s base (Removing s node)) (h : st.Takes i st')
    (here : ∀ r between, st.session.Begins i r between → r.node? = some node ∧ r.kind ≠ .listPods)
    (carried : ∀ r between result exchanges later, st.session.Begins i r between →
      r.Fits (st.session.stateOf node) → (Operation.ofRequest s r).Leads exchanges result →
      Removing s node later st.session → DeletesQuiet s node (exchanges ++ later)
        ∧ Attests s node (exchanges ++ later)
          ((Orchestrator.responseOf r result).update (r.mark (st.session.stateOf node)))) :
    st'.Stands s base (Removing s node) := by
  rcases h.leads node with
    ⟨alike, stays | ⟨r, between, begins, other⟩⟩
      | ⟨r, between, result, exchanges, begins, -, fits, leads, follows, hset⟩
  · exact hst.follows stays fun later h => ⟨h.careful, h.attests.alike alike⟩
  · obtain ⟨mine, hkind⟩ := here r between begins
    exact absurd (other mine) hkind
  · refine hst.follows follows fun later h => ?_
    obtain ⟨careful, attests⟩ :=
      carried r between result exchanges later begins fits (hst.settings ▸ leads) h
    exact ⟨careful, by rwa [Session.stateOf_of_some _ _ hset]⟩

/-- A check of the node, whatever was known before. -/
theorem Stands.removing_checked (hst : st.Stands s base (Removing s node))
    (h : st.Takes (.checkNode node) st') : st'.Stands s base (Removing s node) := by
  refine hst.removing h (by rintro r between ⟨⟩; exact ⟨rfl, by rintro ⟨⟩⟩) ?_
  rintro r between result exchanges later ⟨⟩ - leads h
  have looks := (Operation.checkNode_makes s node).of_leads leads
  exact ⟨h.careful.append fun e he deletes => (looks e he).not_changes (.deletes deletes),
    Operation.attests_of_leads_checkNode leads⟩

/-- A stop is that of the capture that the latest check found. -/
theorem Stands.removing_stopped (hst : st.Stands s base (Removing s node))
    (h : st.Takes (.stopCapture node) st') : st'.Stands s base (Removing s node) := by
  refine hst.removing h (by rintro r between ⟨⟩; exact ⟨rfl, by rintro ⟨⟩⟩) ?_
  rintro r between result exchanges later begins fits leads h
  cases begins with
  | stopCapture =>
      obtain ⟨capture, since, current, found⟩ := h.attests.running fits.1
      obtain rfl := Option.some.inj (fits.2.symm.trans current)
      have calls := (Operation.stopCapture_mayCall s node _).of_leads leads
      exact ⟨h.careful.append fun e he deletes => (nomatch (calls e he).of_deletes deletes),
        Operation.attests_of_leads_stopCapture leads found⟩

/-- The debug pod is deleted only where it runs without a capture. -/
theorem Stands.removing_deleted (hst : st.Stands s base (Removing s node))
    (h : st.Takes (.deletePod node) st') : st'.Stands s base (Removing s node) := by
  refine hst.removing h (by rintro r between ⟨⟩; exact ⟨rfl, by rintro ⟨⟩⟩) ?_
  rintro r between result exchanges later ⟨⟩ fits leads h
  exact Operation.attests_of_leads_deletePod leads h.careful (h.attests.ready fits.1)

/-- Before the first check nothing is known. -/
theorem Unchecked.removing {session : Session} (h : Unchecked node later session) :
    Removing s node later session := by
  refine ⟨?_, .of_unknown h.2⟩
  rintro after e before rfl deletes
  rw [h.1 e (by simp)] at deletes
  exact absurd deletes (by simp [Call.Deletes, listNodes])

end Station

namespace Errand

variable {kubectl : Kubectl}

/-- Carrying out an intent that keeps what holds, if it is carried out. -/
theorem keeps_carryOut {base : List Exchange} {P : List Exchange → Session → Prop} {i : Intent}
    (h : ∀ {st st' : Station}, st.Stands s base P → st.Takes i st' → st'.Stands s base P) :
    (carryOut kubectl i).Keeps (Station.Stands s base P) :=
  fun _ hst => after_carryOut hst.idle (fun _ => hst) fun _ takes => h hst takes

/-- Removing a debug pod keeps what the exchanges attest. -/
theorem removePod_attests {base : List Exchange} :
    (removePod kubectl node).Keeps (Station.Stands s base (Station.Removing s node)) := by
  refine keeps_bind keeps_node fun _ => ?_
  refine keeps_when (keeps_carryOut fun h => h.removing_checked) ?_
  refine keeps_bind keeps_node fun _ => ?_
  refine keeps_when (keeps_carryOut fun h => h.removing_stopped) ?_
  refine keeps_bind keeps_node fun _ => ?_
  refine keeps_when (keeps_carryOut fun h => h.removing_checked) ?_
  exact keeps_carryOut fun h => h.removing_deleted

/-- A clean-up ends well only where the debug pod was seen gone. -/
theorem cleanUp_attests {st : Station} (hst : st.Stands s [] (Station.Unchecked node)) :
    (cleanUp kubectl node).After st
      (fun _ st' => SeesGone s node st'.bench.exchanges ∧ DeletesQuiet s node st'.bench.exchanges)
      (fun st' => DeletesQuiet s node st'.bench.exchanges) := by
  have told : ∀ {st : Station}, st.Stands s [] (Station.Removing s node) →
      Station.Removing s node st.bench.exchanges st.session := by
    intro st h
    obtain ⟨later, hlater, removing⟩ := h.since
    rwa [hlater, List.append_nil]
  refine after_bind (after_ensureKnown hst.idle ?_)
  intro st₁ reached
  -- listing the nodes tells nothing of this one
  have h₁ : st₁.Stands s [] (Station.Removing s node) := by
    rcases reached with rfl | listed
    · exact hst.mono fun _ h => h.removing
    · exact (listed.unchecked hst).mono fun _ h => h.removing
  refine ⟨after_bind ((removePod_attests st₁ h₁).mono ?_ fun _ h => (told h).careful),
    (told h₁).careful⟩
  intro _ st₂ h₂
  refine after_bind (after_node (after_unless (fun _ => (told h₂).careful) fun hstatus => ?_))
  exact after_say ⟨(told h₂).attests.clean (not_not.mp hstatus), (told h₂).careful⟩

end Errand

/-- Whatever kubectl replies, a clean-up ends well only if its last exchanges
    saw the debug pod gone: the pod was not listed, or it was deleted and the
    wait for its end went well.  Whether it ends well or not, if the latest
    check before a deletion found a capture that runs, then a process of this
    capture was found and ended between the two. -/
theorem exit_code_tells_removal (w : Workplace) (kubeconfig : Option String) (node : String) :
    ((w.run (.atCluster kubeconfig (.cleanUp node))).exitCode = 0 →
        ∃ s, Settings.ofEnvironment w.machine.env = .ok s
          ∧ SeesGone s node (w.run (.atCluster kubeconfig (.cleanUp node))).exchanges)
      ∧ ∀ s, Settings.ofEnvironment w.machine.env = .ok s →
          DeletesQuiet s node (w.run (.atCluster kubeconfig (.cleanUp node))).exchanges := by
  have hrun : w.run (.atCluster kubeconfig (.cleanUp node))
      = w.runErrand kubeconfig fun kubectl => Errand.cleanUp kubectl node := rfl
  rw [hrun]
  rcases w.runErrand_ends kubeconfig (P := fun _ => Station.Unchecked node)
    (fun _ _ => ⟨fun _ he => absurd he List.not_mem_nil, rfl⟩)
    (fun s kubectl st stands => Errand.cleanUp_attests stands) with
    ⟨hcode, -, hnothing⟩ | ⟨s, st, hs, hexchanges, ends⟩
  · rw [hcode, hnothing]
    exact ⟨fun h => absurd h (by decide), fun _ _ later e before split => by simp at split⟩
  · rw [hexchanges]
    constructor
    · intro hsucceeded
      rw [CommandReport.exitCode] at hsucceeded
      rcases ends with ⟨-, gone, -⟩ | ⟨⟨fault, hending⟩, -⟩ | ⟨hending, -⟩
      · exact ⟨s, hs, gone⟩
      · rw [hending] at hsucceeded
        cases hsucceeded
      · rw [hending] at hsucceeded
        cases hsucceeded
    · intro s' hs'
      obtain rfl := Except.ok.inj (hs.symm.trans hs')
      -- the deletions are quiet however the run ends
      rcases ends with ⟨-, -, careful⟩ | ⟨-, careful⟩ | ⟨-, careful⟩ <;> exact careful

/-- The replies of kubectl where a capture is running on the node and can be
    ended, and then the debug pod can be deleted. -/
def endingReplies : List Reply :=
  holdingReplies ++ [.exited { stdout := runningLine "web" }, .exited {},
    .exited { stdout := Settings.filePath {} "web" ++ "\t3\n" }, .exited {}, .exited {}]

/-- A clean-up of a node where a capture is running. -/
def endingRun : CommandReport := (labWorkplace endingReplies).run (.atCluster none (.cleanUp "n"))

/-- What was exchanged between the check and the deletion. -/
def endingExchanges : List Exchange :=
  [⟨Settings.exec {} "n" (Settings.findCommand {}),
      .exited { stdout := Settings.filePath {} "web" ++ "\t3\n" }⟩,
    ⟨Settings.exec {} "n" "kill 7", .exited {}⟩,
    ⟨Settings.exec {} "n" Settings.processCommand, .exited { stdout := runningLine "web" }⟩,
    ⟨Settings.exec {} "n" (Settings.findCommand {}), .exited {}⟩]

/-- The latest check of this run found the capture. -/
theorem endingRun_latelyFound :
    LatelyFound {} "n" "web" endingExchanges (endingRun.exchanges.drop 2) := by
  have since : sinceListing {} (endingRun.exchanges.drop 2) = endingExchanges
      ++ [⟨Settings.exec {} "n" Settings.processCommand, .exited { stdout := runningLine "web" }⟩,
        ⟨Settings.waitReady {} "n", .exited {}⟩] := by
    decide +kernel
  have processes : readProcesses {} (runningLine "web") = .ok [⟨7, "web"⟩] := by decide +kernel
  exact ⟨{ stdout := runningLine "web" }, ⟨7, "web"⟩, [], _, rfl, processes, rfl, since⟩

/-- The capture is ended, and then the debug pod is seen gone. -/
theorem exit_code_tells_removal_at_lab :
    endingRun.exitCode = 0
      ∧ (∃ s, Settings.ofEnvironment (labWorkplace []).machine.env = .ok s
          ∧ SeesGone s "n" endingRun.exchanges)
      ∧ Ended {} "n" "web" endingExchanges := by
  have succeeded : endingRun.exitCode = 0 := by decide +kernel
  have deletion : endingRun.exchanges = [⟨Settings.waitDeleted {} "n", .exited {}⟩]
      ++ ⟨Settings.deletePod {} "n", .exited {}⟩ :: endingRun.exchanges.drop 2 := by
    decide +kernel
  obtain ⟨gone, quiet⟩ := exit_code_tells_removal (labWorkplace endingReplies) none "n"
  exact ⟨succeeded, gone succeeded,
    quiet {} rfl _ _ _ deletion rfl "web" endingExchanges endingRun_latelyFound⟩

end NodeCapture
