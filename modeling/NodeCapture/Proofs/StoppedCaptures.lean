import NodeCapture.Proofs.Folding
import NodeCapture.Proofs.Runs
import NodeCapture.Proofs.Transcripts

/-! # Captures that are stopped

    The processes of a node are not only those of captures, and a process is
    ended by its number.  So the stop of a capture first lists the processes,
    and `FindsProcess` says what it looks for: the first process that the
    listing shows to write this capture.  `StopGoes` has one case for each way
    that a stop can go.

    The main statement (`stop_kills_found_process`) holds for any settings and
    any replies.  The process that was found is ended, by the only call that
    ends one; where none was found, none is ended; and a stop that reports
    success has ended the process, has found the file of the capture, and takes
    a node that waits for it to a debug pod with one more capture. -/

namespace NodeCapture

/-- A result of an operation that reports no success. -/
def NoSuccess (result : Except OperationFault Response) : Prop :=
  ∀ response, result = .ok response → response.outcome.succeeded = false

section Definitions

/-- A call runs a command that ends a process. -/
def Call.Kills (c : Call) : Prop :=
  ∃ command, c.args.getLast? = some command ∧ "kill".toList <+: command.toList

variable (s : Settings) (node capture : String)

/-- The processes of a node were listed, and the first one of the capture is
    that with this number. -/
def FindsProcess (pid : Int) (e : Exchange) : Prop :=
  ∃ r before after, r.succeeded = true
    ∧ readProcesses s r.stdout = .ok (before ++ ⟨pid, capture⟩ :: after)
    ∧ (∀ p ∈ before, p.capture ≠ capture)
    ∧ e = ⟨s.exec node Settings.processCommand, .exited r⟩

/-- A process was ended. -/
def Kills (node : String) (pid : Int) (e : Exchange) : Prop :=
  ∃ r, r.succeeded = true ∧ e = ⟨s.exec node (Settings.killCommand pid), .exited r⟩

/-- The capture files of a node were listed, and this one, which is among them,
    is that of the capture. -/
def FindsFile (file : CaptureFile) (e : Exchange) : Prop :=
  ∃ r files, r.succeeded = true ∧ readFiles s r.stdout = .ok files ∧ file ∈ files
    ∧ file.name = capture ∧ e = ⟨s.exec node s.findCommand, .exited r⟩

/-- Of all processes, the one of the capture that was found is ended, by the
    next call; where none was found, no more calls are made. -/
structure KillsFound (listed : Exchange) (later : List Exchange) : Prop where
  lists : listed.call = s.exec node Settings.processCommand
  kills : ∀ pid, FindsProcess s node capture pid listed →
    ∃ killed after, later = after ++ [killed]
      ∧ killed.call = s.exec node (Settings.killCommand pid) ∧ ∀ e ∈ after, ¬e.call.Kills
  spares : (∀ pid, ¬FindsProcess s node capture pid listed) → later = []

/-- How the stop of a capture goes: the exchanges that it makes, of which the
    last comes first, and its result. -/
inductive StopGoes : List Exchange → Except OperationFault Response → Prop where
  | unseen {listed : Exchange} {result : Except OperationFault Response}
      (lists : listed.call = s.exec node Settings.processCommand)
      (unseen : ∀ pid, ¬FindsProcess s node capture pid listed)
      (fails : NoSuccess result) :
      StopGoes [listed] result
  | alive {pid : Int} {listed killed : Exchange} {result : Except OperationFault Response}
      (finds : FindsProcess s node capture pid listed)
      (kills : killed.call = s.exec node (Settings.killCommand pid))
      (fails : NoSuccess result) :
      StopGoes [killed, listed] result
  | lost {pid : Int} {listed killed found : Exchange} {result : Except OperationFault Response}
      (finds : FindsProcess s node capture pid listed) (kills : Kills s node pid killed)
      (looks : found.call = s.exec node s.findCommand)
      (fails : NoSuccess result) :
      StopGoes [found, killed, listed] result
  | stopped {pid : Int} {listed killed found : Exchange} {file : CaptureFile}
      (finds : FindsProcess s node capture pid listed) (kills : Kills s node pid killed)
      (shows : FindsFile s node capture file found) :
      StopGoes [found, killed, listed] (.ok (.captureStopped .success node (some file)))

end Definitions

variable {s : Settings} {node capture : String}

/-! ## The calls -/

/-- A command ends a process if it starts with the word for that. -/
theorem Settings.kills_exec {command : String} :
    (s.exec node command).Kills ↔ "kill".toList <+: command.toList := by
  constructor
  · rintro ⟨last, hlast, hkill⟩
    obtain rfl : command = last := Option.some.inj hlast
    exact hkill
  · intro hkill
    exact ⟨command, rfl, hkill⟩

/-- Listing processes ends none. -/
theorem Settings.not_kills_processCommand : ¬(s.exec node processCommand).Kills := by
  rw [kills_exec]
  decide

/-- Searching ends none. -/
theorem Settings.not_kills_findCommand : ¬(s.exec node s.findCommand).Kills := by
  rw [kills_exec, findCommand]
  simp

/-! ## The process that is found -/

/-- In a listing that could be read, this is the process that a search for the
    capture finds. -/
theorem findsProcess_iff {r : CommandResult} {processes : List CaptureProcess} {pid : Int}
    (hr : r.succeeded = true) (hprocesses : readProcesses s r.stdout = .ok processes) :
    FindsProcess s node capture pid ⟨s.exec node Settings.processCommand, .exited r⟩
      ↔ processes.find? (fun p => p.capture == capture) = some ⟨pid, capture⟩ := by
  rw [List.find?_eq_some_iff_append]
  constructor
  · rintro ⟨r', before, after, -, hprocesses', hbefore, heq⟩
    cases heq
    refine ⟨beq_self_eq_true _, before, after, ?_, ?_⟩
    · exact Except.ok.inj (hprocesses.symm.trans hprocesses')
    · intro p hp
      simpa using hbefore p hp
  · rintro ⟨-, before, after, rfl, hbefore⟩
    refine ⟨r, before, after, hr, hprocesses, ?_, rfl⟩
    intro p hp
    simpa using hbefore p hp

/-- One listing finds one process for a capture. -/
theorem FindsProcess.unique {pid pid' : Int} {e : Exchange} (h : FindsProcess s node capture pid e)
    (h' : FindsProcess s node capture pid' e) : pid = pid' := by
  have hfinds := h
  obtain ⟨r, before, after, hr, hprocesses, -, rfl⟩ := h
  rw [findsProcess_iff hr hprocesses] at hfinds h'
  cases hfinds.symm.trans h'
  rfl

/-- A process is found only where the listing went well and could be read. -/
theorem FindsProcess.reads {pid : Int} {reply : Reply}
    (h : FindsProcess s node capture pid ⟨s.exec node Settings.processCommand, reply⟩) :
    ∃ r processes, reply = .exited r ∧ r.succeeded = true
      ∧ readProcesses s r.stdout = .ok processes := by
  obtain ⟨r, before, after, hr, hprocesses, -, heq⟩ := h
  cases heq
  exact ⟨r, _, rfl, hr, hprocesses⟩

/-! ## How a stop goes -/

namespace Operation

variable {made : List Exchange} {result : Except OperationFault Response}

/-- A fault is no success. -/
theorem noSuccess_error (fault : OperationFault) : NoSuccess (.error fault) := by
  rintro response ⟨⟩

/-- A response that says so is no success. -/
theorem noSuccess_ok {response : Response} (h : response.outcome.succeeded = false) :
    NoSuccess (.ok response) := by
  rintro _ ⟨⟩
  exact h

/-- A failure is no success. -/
theorem Fails.noSuccess {failed : String → Response} (h : Fails failed result)
    (hfailed : ∀ text, (failed text).outcome.succeeded = false) : NoSuccess result := by
  rcases h with ⟨text, rfl⟩ | ⟨fault, rfl⟩
  · exact noSuccess_ok (hfailed text)
  · exact noSuccess_error fault

/-- There is no other way for a stop to go. -/
theorem stopGoes_of_leads (leads : (stopCapture s node capture).Leads made result) :
    StopGoes s node capture made result := by
  rw [stopCapture] at leads
  -- the processes are listed
  rcases leads_attempt leads with ⟨r, rest, hr, rfl, leads₁⟩ | ⟨reply, bad, rfl, hfails⟩
  swap
  · refine .unseen rfl ?_ (hfails.noSuccess fun _ => rfl)
    intro pid finds
    obtain ⟨r, -, rfl, hr, -⟩ := finds.reads
    cases (bad r rfl).symm.trans hr
  dsimp only at leads₁
  cases hprocesses : readProcesses s r.stdout with
  | error e =>
      rw [hprocesses] at leads₁
      cases leads₁
      refine .unseen rfl ?_ (noSuccess_error _)
      intro pid finds
      obtain ⟨_, processes, ⟨⟩, -, hread⟩ := finds.reads
      cases hprocesses.symm.trans hread
  | ok processes =>
  rw [hprocesses] at leads₁
  have hfinds : ∀ pid, FindsProcess s node capture pid
      ⟨s.exec node Settings.processCommand, .exited r⟩
        ↔ processes.find? (fun p => p.capture == capture) = some ⟨pid, capture⟩ :=
    fun pid => findsProcess_iff hr hprocesses
  dsimp only [reading] at leads₁
  split at leads₁
  · next hnone =>
      cases leads₁
      refine .unseen rfl ?_ (noSuccess_ok rfl)
      intro pid finds
      cases hnone.symm.trans ((hfinds pid).mp finds)
  next process hprocess =>
  have finds : FindsProcess s node capture process.pid
      ⟨s.exec node Settings.processCommand, .exited r⟩ := by
    have hcapture : process.capture = capture := by simpa using List.find?_some hprocess
    rw [hfinds, hprocess, ← hcapture]
  -- the process is ended
  rcases leads_attempt leads₁ with ⟨r₁, rest₁, hr₁, rfl, leads₂⟩ | ⟨reply, -, rfl, hfails⟩
  swap
  · exact .alive finds rfl (hfails.noSuccess fun _ => rfl)
  -- the files are listed
  rcases leads_attempt leads₂ with ⟨r₂, rest₂, hr₂, rfl, leads₃⟩ | ⟨reply, -, rfl, hfails⟩
  swap
  · exact .lost finds ⟨r₁, hr₁, rfl⟩ rfl (hfails.noSuccess fun _ => rfl)
  cases hfiles : readFiles s r₂.stdout with
  | error e =>
      rw [hfiles] at leads₃
      cases leads₃
      exact .lost finds ⟨r₁, hr₁, rfl⟩ rfl (noSuccess_error _)
  | ok files =>
  rw [hfiles] at leads₃
  dsimp only [reading] at leads₃
  split at leads₃
  · cases leads₃
    exact .lost finds ⟨r₁, hr₁, rfl⟩ rfl (noSuccess_ok rfl)
  next file hfile =>
  cases leads₃
  have hname : file.name = capture := by simpa using List.find?_some hfile
  exact .stopped finds ⟨r₁, hr₁, rfl⟩
    ⟨r₂, files, hr₂, hfiles, List.mem_of_find?_eq_some hfile, hname, rfl⟩

end Operation

/-! ## What a stop leads to -/

/-- A process is found by listing the processes. -/
theorem FindsProcess.call_eq {pid : Int} {e : Exchange} (h : FindsProcess s node capture pid e) :
    e.call = s.exec node Settings.processCommand := by
  obtain ⟨r, before, after, -, -, -, rfl⟩ := h
  rfl

/-- A process is ended by its number. -/
theorem Kills.call_eq {pid : Int} {e : Exchange} (h : Kills s node pid e) :
    e.call = s.exec node (Settings.killCommand pid) := by
  obtain ⟨r, -, rfl⟩ := h
  rfl

/-- A file is found by the search. -/
theorem FindsFile.call_eq {file : CaptureFile} {e : Exchange}
    (h : FindsFile s node capture file e) : e.call = s.exec node s.findCommand := by
  obtain ⟨r, files, -, -, -, -, rfl⟩ := h
  rfl

/-- Ending the process that was found is the only end of a process where no
    other follows. -/
theorem killsFound_of_killed {pid : Int} {listed killed : Exchange} {after : List Exchange}
    (finds : FindsProcess s node capture pid listed)
    (kills : killed.call = s.exec node (Settings.killCommand pid))
    (hafter : ∀ e ∈ after, ¬e.call.Kills) :
    KillsFound s node capture listed (after ++ [killed]) where
  lists := finds.call_eq
  kills := by
    intro pid' finds'
    obtain rfl := finds.unique finds'
    exact ⟨killed, after, rfl, kills, hafter⟩
  spares := fun none => absurd finds (none pid)

namespace StopGoes

variable {made : List Exchange} {result : Except OperationFault Response}

/-- However it goes, a stop ends the process that it finds, and no other. -/
theorem killsFound (h : StopGoes s node capture made result) :
    ∃ listed later, made = later ++ [listed] ∧ KillsFound s node capture listed later := by
  cases h with
  | @unseen listed _ lists unseen fails =>
      exact ⟨listed, [], rfl, lists, fun pid finds => absurd finds (unseen pid), fun _ => rfl⟩
  | @alive pid listed killed _ finds kills fails =>
      exact ⟨listed, [] ++ [killed], rfl, killsFound_of_killed finds kills (by simp)⟩
  | @lost pid listed killed found _ finds kills looks fails =>
      refine ⟨listed, [found] ++ [killed], rfl, killsFound_of_killed finds kills.call_eq ?_⟩
      rw [List.forall_mem_singleton, looks]
      exact Settings.not_kills_findCommand
  | @stopped pid listed killed found file finds kills shows =>
      refine ⟨listed, [found] ++ [killed], rfl, killsFound_of_killed finds kills.call_eq ?_⟩
      rw [List.forall_mem_singleton, shows.call_eq]
      exact Settings.not_kills_findCommand

/-- A stop that reports success has ended the process and found the file. -/
theorem succeeds {response : Response} (h : StopGoes s node capture made (.ok response))
    (succeeded : response.outcome.succeeded = true) :
    ∃ pid listed killed found file, made = [found, killed] ++ [listed]
      ∧ FindsProcess s node capture pid listed ∧ Kills s node pid killed
      ∧ FindsFile s node capture file found
      ∧ response = .captureStopped .success node (some file) := by
  have absurd_of_fails : ∀ {p : Prop}, NoSuccess (.ok response) → p := by
    intro p fails
    cases (fails response rfl).symm.trans succeeded
  cases h with
  | unseen lists unseen fails => exact absurd_of_fails fails
  | alive finds kills fails => exact absurd_of_fails fails
  | lost finds kills looks fails => exact absurd_of_fails fails
  | stopped finds kills shows => exact ⟨_, _, _, _, _, rfl, finds, kills, shows, rfl⟩

end StopGoes

/-- A stop that is answered while it is awaited settles the node. -/
theorem Session.node?_fold_captureStopped {session : Session} {n : Node}
    (here : session.node? node = some n) (stopping : n.status = .captureStopping) (o : Outcome)
    (file : Option CaptureFile) :
    (session.fold (.captureStopped o node file)).node? node = some (n.settleStop o file) := by
  rw [fold_eq_updateNode session rfl (by rintro ⟨⟩), node?_updateNode, if_pos rfl, here,
    Option.map_some]
  simp [Response.effect, Node.awaiting, Response.kind, OperationKind.awaitedStatus?, stopping,
    Response.update]

/-- A stop that ends well and names the current capture completes it. -/
theorem Node.settleStop_of_name {n : Node} {file : CaptureFile}
    (current : n.captureName = some file.name) :
    n.settleStop .success (some file)
      = { n with
          status := .podRunning
          error := none
          captureName := none
          captures := n.captures ++ [{ name := file.name, sizeKb := file.sizeKb }] } := by
  simp [settleStop, Outcome.success, current]

/-- The stop of a capture ends the process that it was for, and no other.
    First it lists the processes of the node.  If the first one of the capture
    is that with some number, the next call ends the process with this number,
    and no call after it ends one; if there is none, no more calls are made.  If
    the stop reports success, the process was ended, and the capture files that
    were listed next show one of this name; a node that waits for the stop of
    this capture has the file as its last capture, and its debug pod runs. -/
theorem stop_kills_found_process (kubectl : Kubectl) (s : Settings) (node capture : String)
    (b : Bench) :
    ∃ listed later, ((Operation.stopCapture s node capture).run kubectl b).2.exchanges
        = later ++ listed :: b.exchanges
      ∧ ¬listed.call.Kills ∧ KillsFound s node capture listed later
      ∧ ∀ response, ((Operation.stopCapture s node capture).run kubectl b).1 = .ok response →
        response.outcome.succeeded = true →
          ∃ pid killed found file, later = [found, killed] ∧ FindsProcess s node capture pid listed
            ∧ Kills s node pid killed ∧ FindsFile s node capture file found
            ∧ response = .captureStopped .success node (some file)
            ∧ ∀ (session : Session) (n : Node), session.node? node = some n →
              n.status = .captureStopping → n.captureName = some capture →
                (session.fold response).node? node = some { n with
                  status := .podRunning
                  error := none
                  captureName := none
                  captures := n.captures ++ [{ name := capture, sizeKb := file.sizeKb }] } := by
  obtain ⟨made, hmade, leads⟩ := Task.run_leads kubectl (Operation.stopCapture s node capture) b
  have goes := Operation.stopGoes_of_leads leads
  obtain ⟨listed, later, rfl, kills⟩ := goes.killsFound
  refine ⟨listed, later, ?_, ?_, kills, ?_⟩
  · rw [hmade, List.append_assoc, List.singleton_append]
  · rw [kills.lists]
    exact Settings.not_kills_processCommand
  intro response hresponse hsucceeded
  rw [hresponse] at goes
  obtain ⟨pid, listed', killed, found, file, hcalls, finds, ends, shows, rfl⟩ :=
    goes.succeeds hsucceeded
  -- both descriptions are of the same exchanges
  obtain ⟨rfl, hsame⟩ := List.append_inj' hcalls rfl
  obtain rfl := List.singleton_inj.mp hsame
  refine ⟨pid, killed, found, file, rfl, finds, ends, shows, rfl, ?_⟩
  intro session n here stopping current
  obtain ⟨r, files, -, -, -, hname, -⟩ := shows
  rw [Session.node?_fold_captureStopped here stopping, Node.settleStop_of_name (hname ▸ current),
    hname]

/-- The processes of a node where others look like that of a capture: one that
    this tool did not start, and one of a capture whose name starts alike. -/
def crowdedProcesses : String :=
  "5 tcpdump tcpdump -w /tmp/capturectl_web.cap\n"
    ++ "7 tcpdump tcpdump --snapshot-length=0 -vvv -w /tmp/capturectl_web2.cap\n"
    ++ "11 tcpdump tcpdump --snapshot-length=0 -vvv -w /tmp/capturectl_web.cap\n"

/-- The stop of the capture on that node, from its beginning to its end. -/
def crowdedStop : Except OperationFault Response × Bench :=
  (Operation.stopCapture {} "n1" "web").run
    (.inTurn [.exited { stdout := crowdedProcesses }, .exited {},
      .exited { stdout := "/tmp/capturectl_web.cap\t12\n" }])
    { files := .basic ["home"] }

/-- The process that is ended is the last of those that were listed. -/
theorem stop_kills_found_process_crowded :
    ∃ listed killed found file, crowdedStop.2.exchanges = [found, killed, listed]
      ∧ FindsProcess {} "n1" "web" 11 listed
      ∧ killed.call = Settings.exec {} "n1" (Settings.killCommand 11)
      ∧ crowdedStop.1 = .ok (.captureStopped .success "n1" (some file)) := by
  obtain ⟨responds, hfirst⟩ :
      crowdedStop.1.toOption.map (fun response => response.outcome.succeeded) = some true
        ∧ crowdedStop.2.exchanges.getLast? = some ⟨Settings.exec {} "n1" Settings.processCommand,
            .exited { stdout := crowdedProcesses }⟩ := by
    decide +kernel
  have reads : readProcesses {} crowdedProcesses
      = .ok ([⟨7, "web2"⟩] ++ ⟨11, "web"⟩ :: []) := by decide +kernel
  obtain ⟨listed, later, hmade, -, hkills, hsucceeds⟩ :=
    stop_kills_found_process _ {} "n1" "web" _
  rw [← crowdedStop, List.append_cons, List.append_nil] at hmade
  rw [hmade, List.getLast?_concat] at hfirst
  have finds : FindsProcess {} "n1" "web" 11 listed := by
    rw [Option.some.inj hfirst]
    exact ⟨{ stdout := crowdedProcesses }, _, _, rfl, reads, by decide, rfl⟩
  cases returns : crowdedStop.1 with
  | error fault =>
      rw [returns] at responds
      cases responds
  | ok response =>
      rw [returns] at responds
      obtain ⟨pid, killed, found, file, rfl, -, -, -, rfl, -⟩ :=
        hsucceeds response returns (Option.some.inj responds)
      obtain ⟨killed', after, hlater, hcall, -⟩ := hkills.kills 11 finds
      have hlast : [found] ++ [killed] = after ++ [killed'] := hlater
      obtain ⟨-, hsame⟩ := List.append_inj' hlast rfl
      rw [← List.singleton_inj.mp hsame] at hcall
      exact ⟨listed, killed, found, file, hmade, finds, hcall, rfl⟩

end NodeCapture
