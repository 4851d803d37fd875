import Mathlib.Data.List.Nodup
import NodeCapture.Proofs.TakenCaptures

/-! # Nodes that were checked

    A check makes up to four calls, each of them once: it lists the debug pods,
    waits for the one of the node, and lists its processes and its capture
    files.  `SeesNoPod` and `SeesPod` say what the replies to these calls may
    show of the node; as no call is made twice, at most one of them holds, and
    a call that goes wrong rules both out (`not_seesNoPod_of_isBad`,
    `SeesPod.not_isBad`).

    The main statement reads the status of the node off them: which of the
    four statuses a check leads to is exactly what the replies show, and the
    captures are those that were listed (`check_classifies_node`). -/

namespace NodeCapture

section Definitions

/-- A call was made, went well, and printed an output. -/
def Prints (made : List Exchange) (c : Call) (out : String) : Prop :=
  ∃ r, r.succeeded = true ∧ r.stdout = out ∧ ⟨c, .exited r⟩ ∈ made

variable (s : Settings) (node : String) (made : List Exchange)

/-- The debug pods were listed, and none of them is the one of the node. -/
def SeesNoPod : Prop :=
  ∃ names, Prints made s.listDebugPods names ∧ s.podName node ∉ readNames names

/-- The debug pods were listed, and the one of the node is among them. -/
def ListsPod : Prop :=
  ∃ names, Prints made s.listDebugPods names ∧ s.podName node ∈ readNames names

/-- The debug pod of the node was listed and is ready, and its processes and its
    capture files were listed. -/
structure SeesPod (processes : List CaptureProcess) (files : List CaptureFile) : Prop where
  listed : ListsPod s node made
  ready : ∃ out, Prints made (s.waitReady node) out
  processes : ∃ ps, Prints made (s.exec node Settings.processCommand) ps
    ∧ readProcesses s ps = .ok processes
  files : ∃ found, Prints made (s.exec node s.findCommand) found ∧ readFiles s found = .ok files

/-- The calls of a check, of which the last comes first. -/
def checkCalls : List Call :=
  [s.exec node s.findCommand, s.exec node Settings.processCommand, s.waitReady node,
    s.listDebugPods]

/-- What a check tells from its exchanges. -/
inductive CheckTells : Response → Prop where
  | absent (sees : SeesNoPod s node made) : CheckTells (.nodeChecked .success node false none [])
  | present {processes : List CaptureProcess} {files : List CaptureFile}
      (sees : SeesPod s node made processes files) :
      CheckTells (.nodeChecked .success node true (processes.map CaptureProcess.capture).head?
        (files.filter (fun file =>
          !(processes.map CaptureProcess.capture).contains file.name)))
  | failed {e : Exchange} {error : String} {podRunning : Bool} {running : Option String}
      (mem : e ∈ made) (bad : e.reply.IsBad)
      (listed : e.call = s.listDebugPods ∨ ListsPod s node made) :
      CheckTells (.nodeChecked (.failure error) node podRunning running [])

end Definitions

variable {s : Settings} {node : String} {made : List Exchange}

/-! ## Calls that are made once -/

/-- The calls of a check are four different ones. -/
theorem nodup_checkCalls : (checkCalls s node).Nodup := by
  have hcommands : s.findCommand ≠ Settings.processCommand := by
    intro h
    have hhead := congrArg (fun command => command.toList.head?) h
    rw [Settings.findCommand] at hhead
    simp [Settings.processCommand] at hhead
  simp [checkCalls, Settings.exec, Settings.waitReady, Settings.listDebugPods, hcommands]

/-- No two exchanges are for the same call. -/
def MadeOnce (made : List Exchange) : Prop :=
  ∀ e ∈ made, ∀ e' ∈ made, e.call = e'.call → e = e'

/-- The calls of a check are made once each. -/
theorem madeOnce_of_suffix (h : made.map Exchange.call <:+ checkCalls s node) : MadeOnce made :=
  fun _ he _ he' => List.inj_on_of_nodup_map (nodup_checkCalls.sublist h.sublist) he he'

/-- A call that is made once prints one text. -/
theorem Prints.unique {c : Call} {out out' : String} (once : MadeOnce made)
    (h : Prints made c out) (h' : Prints made c out') : out = out' := by
  obtain ⟨r, -, rfl, hr⟩ := h
  obtain ⟨r', -, rfl, hr'⟩ := h'
  cases once _ hr _ hr' rfl
  rfl

/-- A call that went well went no other way. -/
theorem Prints.not_isBad {c : Call} {out : String} {e : Exchange} (once : MadeOnce made)
    (h : Prints made c out) (he : e ∈ made) (hcall : e.call = c) : ¬e.reply.IsBad := by
  obtain ⟨r, hok, -, hr⟩ := h
  rw [once e he _ hr hcall]
  intro bad
  rw [bad r rfl] at hok
  cases hok

/-- One listing does not have the debug pod and lack it. -/
theorem ListsPod.not_seesNoPod (once : MadeOnce made) (h : ListsPod s node made) :
    ¬SeesNoPod s node made := by
  rintro ⟨names, hprints, habsent⟩
  obtain ⟨names', hprints', hlisted⟩ := h
  rw [hprints'.unique once hprints] at hlisted
  exact habsent hlisted

/-- What is seen of a debug pod is seen of it once. -/
theorem SeesPod.unique {processes processes' : List CaptureProcess}
    {files files' : List CaptureFile}
    (once : MadeOnce made) (h : SeesPod s node made processes files)
    (h' : SeesPod s node made processes' files') : processes = processes' ∧ files = files' := by
  obtain ⟨ps, hps, hprocesses⟩ := h.processes
  obtain ⟨ps', hps', hprocesses'⟩ := h'.processes
  obtain ⟨found, hfound, hfiles⟩ := h.files
  obtain ⟨found', hfound', hfiles'⟩ := h'.files
  obtain rfl := hps.unique once hps'
  obtain rfl := hfound.unique once hfound'
  exact ⟨Except.ok.inj (hprocesses.symm.trans hprocesses'),
    Except.ok.inj (hfiles.symm.trans hfiles')⟩

/-- Where a pod is seen, no call of the check went wrong. -/
theorem SeesPod.not_isBad {processes : List CaptureProcess} {files : List CaptureFile}
    {e : Exchange}
    (h : SeesPod s node made processes files)
    (hcalls : made.map Exchange.call <:+ checkCalls s node) (he : e ∈ made) : ¬e.reply.IsBad := by
  have once := madeOnce_of_suffix hcalls
  have hcall : e.call ∈ checkCalls s node := hcalls.subset (List.mem_map_of_mem he)
  obtain ⟨names, hnames, -⟩ := h.listed
  obtain ⟨out, hready⟩ := h.ready
  obtain ⟨ps, hps, -⟩ := h.processes
  obtain ⟨found, hfound, -⟩ := h.files
  simp only [checkCalls, List.mem_cons, List.not_mem_nil, or_false] at hcall
  rcases hcall with hcall | hcall | hcall | hcall
  · exact hfound.not_isBad once he hcall
  · exact hps.not_isBad once he hcall
  · exact hready.not_isBad once he hcall
  · exact hnames.not_isBad once he hcall

/-! ## The check -/

namespace Operation

/-- A check makes its calls in order, and tells what their replies show. -/
theorem tells_of_leads_checkNode {response : Response}
    (leads : (checkNode s node).Leads made (.ok response)) :
    made.map Exchange.call <:+ checkCalls s node ∧ CheckTells s node made response := by
  -- whichever call fails, the check reports it in the same way
  have failed : ∀ {made' : List Exchange} {e : Exchange} {text : String} {podRunning : Bool}
      {running : Option String},
      Fails (fun error => .nodeChecked (.failure (text ++ error)) node podRunning running [])
        (.ok response) →
      e ∈ made' → e.reply.IsBad → (e.call = s.listDebugPods ∨ ListsPod s node made') →
      CheckTells s node made' response := by
    rintro made' e text podRunning running (⟨error, hresult⟩ | ⟨fault, hresult⟩) mem bad listed
    · cases hresult
      exact .failed mem bad listed
    · cases hresult
  rw [checkNode] at leads
  rcases leads_attempt leads with ⟨r, rest, hr, rfl, leads₁⟩ | ⟨reply, bad, rfl, hfails⟩
  swap
  · exact ⟨⟨[_, _, _], rfl⟩, failed hfails (List.mem_singleton_self _) bad (Or.inl rfl)⟩
  have names : ∀ front, Prints (front ++ [⟨s.listDebugPods, .exited r⟩]) s.listDebugPods r.stdout :=
    fun front => ⟨r, hr, rfl, List.mem_append_right _ (List.mem_singleton_self _)⟩
  dsimp only at leads₁
  split at leads₁
  swap
  · next habsent =>
      cases leads₁
      exact ⟨⟨[_, _, _], rfl⟩, .absent ⟨_, names [], by simpa using habsent⟩⟩
  next hpresent =>
  have listed : ∀ front, ListsPod s node (front ++ [⟨s.listDebugPods, .exited r⟩]) :=
    fun front => ⟨_, names front, by simpa using hpresent⟩
  rcases leads_attempt leads₁ with ⟨r₁, rest₁, hr₁, rfl, leads₂⟩ | ⟨reply, bad, rfl, hfails⟩
  swap
  · exact ⟨⟨[_, _], rfl⟩, failed hfails List.mem_cons_self bad (Or.inr (listed _))⟩
  rcases leads_attempt leads₂ with ⟨r₂, rest₂, hr₂, rfl, leads₃⟩ | ⟨reply, bad, rfl, hfails⟩
  swap
  · exact ⟨⟨[_], rfl⟩, failed hfails List.mem_cons_self bad (Or.inr (listed _))⟩
  rcases leads_reading leads₃ with ⟨processes, hprocesses, leads₄⟩ | ⟨fault, hfault⟩
  swap
  · cases hfault
  rcases leads_attempt leads₄ with ⟨r₃, rest₃, hr₃, rfl, leads₅⟩ | ⟨reply, bad, rfl, hfails⟩
  swap
  · exact ⟨⟨[], rfl⟩, failed hfails List.mem_cons_self bad (Or.inr (listed _))⟩
  rcases leads_reading leads₅ with ⟨files, hfiles, leads₆⟩ | ⟨fault, hfault⟩
  swap
  · cases hfault
  cases leads₆
  refine ⟨⟨[], rfl⟩, .present ⟨listed _, ⟨_, r₁, hr₁, rfl, ?_⟩, ⟨_, ⟨r₂, hr₂, rfl, ?_⟩, hprocesses⟩,
    ⟨_, ⟨r₃, hr₃, rfl, ?_⟩, hfiles⟩⟩⟩
  all_goals simp

end Operation

/-- A check that fails saw no pod missing. -/
theorem not_seesNoPod_of_isBad {e : Exchange} (once : MadeOnce made) (mem : e ∈ made)
    (bad : e.reply.IsBad) (listed : e.call = s.listDebugPods ∨ ListsPod s node made) :
    ¬SeesNoPod s node made := by
  rcases listed with hcall | listed
  · rintro ⟨names, hprints, -⟩
    exact hprints.not_isBad once mem hcall bad
  · exact listed.not_seesNoPod once

/-- A check that is answered while it is awaited settles the node. -/
theorem Session.node?_fold_nodeChecked {session : Session} {n : Node}
    (here : session.node? node = some n) (checking : n.status = .checking) (o : Outcome)
    (podRunning : Bool) (running : Option String) (completed : List CaptureFile) :
    (session.fold (.nodeChecked o node podRunning running completed)).node? node
      = some (n.settleCheck o podRunning running completed) := by
  rw [fold_eq_updateNode session rfl (by rintro ⟨⟩), node?_updateNode, if_pos rfl, here,
    Option.map_some]
  simp [Response.effect, Node.awaiting, Response.kind, OperationKind.awaitedStatus?, checking,
    Response.update]

/-- A check that returns tells the status of its node exactly.  The node is
    clean where the debug pods could be listed and its own is none of them; the
    pod runs, or a capture does, where the pod is listed and ready and its
    processes and files could be listed; and in all other cases nothing is
    known.  Where the pod is seen, the capture that runs is the first of the
    processes, and the completed captures are the listed files but those of
    captures that run. -/
theorem check_classifies_node (kubectl : Kubectl) (s : Settings) (node : String) (b : Bench)
    {response : Response} (returns : ((Operation.checkNode s node).run kubectl b).1 = .ok response)
    {session : Session} {n : Node} (here : session.node? node = some n)
    (checking : n.status = .checking) :
    ∃ made n', ((Operation.checkNode s node).run kubectl b).2.exchanges = made ++ b.exchanges
      ∧ (session.fold response).node? node = some n'
      ∧ (n'.status = .clean ↔ SeesNoPod s node made)
      ∧ (n'.status = .podRunning ↔ ∃ files, SeesPod s node made [] files)
      ∧ (n'.status = .captureRunning ↔ ∃ p more files, SeesPod s node made (p :: more) files)
      ∧ (n'.status = .unknown ↔
        ¬SeesNoPod s node made ∧ ∀ processes files, ¬SeesPod s node made processes files)
      ∧ ∀ processes files, SeesPod s node made processes files →
        n'.captureName = processes.head?.map CaptureProcess.capture
          ∧ n'.captures = (files.filter (fun file => ∀ p ∈ processes, p.capture ≠ file.name)).map
            (fun file => { name := file.name, sizeKb := file.sizeKb }) := by
  obtain ⟨made, hmade, leads⟩ := Task.run_leads kubectl (Operation.checkNode s node) b
  rw [returns] at leads
  obtain ⟨hcalls, tells⟩ := Operation.tells_of_leads_checkNode leads
  -- no call is made twice, so that what one printed is determined
  have once := madeOnce_of_suffix hcalls
  cases tells with
  | absent sees =>
      have hnone : ∀ processes files, ¬SeesPod s node made processes files :=
        fun _ _ h => h.listed.not_seesNoPod once sees
      refine ⟨made, _, hmade, Session.node?_fold_nodeChecked here checking _ _ _ _, ?_⟩
      simp [Node.settleCheck, Outcome.success, Node.checkedStatus, sees, hnone]
  | @present processes files sees =>
      have hpod : ¬SeesNoPod s node made := sees.listed.not_seesNoPod once
      have hunique : ∀ processes' files', SeesPod s node made processes' files' ↔
          processes' = processes ∧ files' = files := by
        intro processes' files'
        constructor
        · exact fun h => h.unique once sees
        · rintro ⟨rfl, rfl⟩
          exact sees
      have hcompleted : files.filter (fun file =>
            !(processes.map CaptureProcess.capture).contains file.name)
          = files.filter (fun file => ∀ p ∈ processes, p.capture ≠ file.name) :=
        List.filter_congr fun file _ => by rw [Bool.eq_iff_iff]; simp
      refine ⟨made, _, hmade, Session.node?_fold_nodeChecked here checking _ _ _ _, ?_⟩
      rw [hcompleted]
      cases processes with
      | nil => simp [Node.settleCheck, Outcome.success, Node.checkedStatus, hpod, hunique]
      | cons p more =>
          simp [Node.settleCheck, Outcome.success, Node.checkedStatus, hpod, hunique]
  | failed mem bad listed =>
      have hpod := not_seesNoPod_of_isBad once mem bad listed
      have hnone : ∀ processes files, ¬SeesPod s node made processes files :=
        fun _ _ h => h.not_isBad hcalls mem bad
      refine ⟨made, _, hmade, Session.node?_fold_nodeChecked here checking _ _ _ _, ?_⟩
      simp [Node.settleCheck, Outcome.failure, Node.fail, NodeStatus.rollback, checking,
        hpod, hnone]

/-- The replies to a check of a node with two captures running, where the pod
    of another node is listed first. -/
def busyReplies : List CommandResult :=
  [{ stdout := "debug-n10\ndebug-n1\n" }, {},
    { stdout := "7 tcpdump tcpdump --snapshot-length=0 -vvv -w /tmp/capturectl_web.cap\n"
        ++ "8 tcpdump tcpdump -i any\n"
        ++ "9 tcpdump tcpdump --snapshot-length=0 -vvv -w /tmp/capturectl_db.cap\n" },
    { stdout := "/tmp/capturectl_db.cap\t4\n/tmp/capturectl_old.cap\t12\n/tmp/other.cap\t9\n" }]

/-- That check, from its beginning to its end. -/
def busyCheck : Except OperationFault Response × Bench :=
  (Operation.checkNode {} "n1").run (.inTurn (busyReplies.map .exited)) { files := .basic ["home"] }

/-- The session in which the node is checked. -/
def busySession : Session :=
  { cluster := "lab", nodes := [("n10", {}), ("n1", { status := .checking })] }

/-- The first capture is the one that runs, and the other one that runs is not
    among the completed ones. -/
theorem check_classifies_node_busy :
    ∃ response n, busyCheck.1 = .ok response ∧ (busySession.fold response).node? "n1" = some n
      ∧ n.status = .captureRunning ∧ n.captureName = some "web"
      ∧ n.captures = [{ name := "old", sizeKb := 12 }] := by
  obtain ⟨responds, exchanges⟩ : busyCheck.1.isOk = true ∧ busyCheck.2.exchanges
      = (List.zipWith Exchange.mk (checkCalls {} "n1").reverse
          (busyReplies.map .exited)).reverse := by
    decide +kernel
  cases returns : busyCheck.1 with
  | error fault =>
      rw [returns] at responds
      cases responds
  | ok response =>
      have here : busySession.node? "n1" = some { status := .checking } := rfl
      obtain ⟨made, n, hmade, hfold, -, -, hrunning, -, hcaptures⟩ :=
        check_classifies_node _ {} "n1" _ returns here rfl
      rw [List.append_nil, ← busyCheck, exchanges] at hmade
      have sees : SeesPod {} "n1" made [⟨7, "web"⟩, ⟨9, "db"⟩] [⟨"db", 4⟩, ⟨"old", 12⟩] := by
        subst hmade
        exact ⟨⟨_, ⟨_, rfl, rfl, List.mem_reverse.mpr (.head _)⟩, by decide +kernel⟩,
          ⟨_, _, rfl, rfl, List.mem_reverse.mpr (.tail _ (.head _))⟩,
          ⟨_, ⟨_, rfl, rfl, List.mem_reverse.mpr (.tail _ (.tail _ (.head _)))⟩, by decide +kernel⟩,
          ⟨_, ⟨_, rfl, rfl, List.mem_reverse.mpr (.tail _ (.tail _ (.tail _ (.head _))))⟩,
            by decide +kernel⟩⟩
      obtain ⟨hname, hcompleted⟩ := hcaptures _ _ sees
      exact ⟨response, n, rfl, hfold, hrunning.mpr ⟨_, _, _, sees⟩, hname, hcompleted⟩

end NodeCapture
