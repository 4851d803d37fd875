import NodeCapture.Kubectl.Basic
import NodeCapture.Proofs.Endings
import NodeCapture.Proofs.Listings
import NodeCapture.Proofs.LocalPaths

/-! # Which operations end with a response

    An operation reports what goes wrong with a call.  What it does not provide
    for is output that it cannot read, and a local path that cannot be resolved.
    Which paths can be resolved is for the machine to say, and so is how deep a
    document may be nested.

    `RespondsIff` follows an operation through its calls: it ends with a
    response exactly if each exchange was understood.  The main statement is
    `operation_responds_iff`; `not_always_responds` shows that each kind of
    output, and the path, do stop an operation. -/

namespace NodeCapture

/-- The output of a call that ended well. -/
def Reply.output? : Reply → Option String
  | .exited r => if r.succeeded then some r.stdout else none
  | _ => none

/-- What was printed in the debug pod of a node can be read, where it is a
    listing. -/
structure Exchange.ListingsReadable (s : Settings) (node : String) (e : Exchange) : Prop where
  processes : e.call = s.exec node Settings.processCommand →
    ∀ out, e.reply.output? = some out → ProcessesReadable s out
  files : e.call = s.exec node s.findCommand →
    ∀ out, e.reply.output? = some out → FilesReadable s out

/-- An operation can read what it reads of an exchange: listings where it looks
    for captures, the client version before a copy, and nothing else. -/
def Request.Understands (s : Settings) (nesting : Nat) : Request → Exchange → Prop
  | .checkNode node, e => e.ListingsReadable s node
  | .stopCapture node _, e => e.ListingsReadable s node
  | .download .., e =>
    e.call = clientVersion → ∀ out, e.reply.output? = some out → VersionReadable nesting out
  | _, _ => True

/-- The machine can resolve the local path of a request, if it has one. -/
def Request.Resolves (files : LocalFiles) : Request → Prop
  | .download _ _ path => ∃ target, files.resolve path = .ok target
  | _ => True

/-- The local path of a request, if it has one, names a path where there are no
    links. -/
def Request.NamesPath (homes : List (String × LocalPath)) : Request → Prop
  | .download _ _ path => LocalPath.NamesPath homes path
  | _ => True

/-- Where paths are resolved plainly, a request resolves if it names a path. -/
theorem Request.resolves_iff {files : LocalFiles}
    (plain : files.resolve = LocalPath.resolve files.homes) (q : Request) :
    q.Resolves files ↔ q.NamesPath files.homes := by
  cases q with
  | download node capture path =>
      rw [Resolves, plain]
      exact LocalPath.resolve_eq_ok_iff
  | _ => exact Iff.rfl

/-! ## Following an operation -/

/-- However an operation is run where documents may be nested so deep, it ends
    with a response exactly if each of its exchanges has a property. -/
def Operation.RespondsIff (kubectl : Kubectl) (nesting : Nat) (R : Exchange → Prop) {n : Nat}
    (t : Operation n) : Prop :=
  ∀ b : Bench, b.nesting = nesting →
    ∃ exchanges, (t.run kubectl b).2.exchanges = exchanges ++ b.exchanges
      ∧ ((∃ r, (t.run kubectl b).1 = .ok r) ↔ ∀ e ∈ exchanges, R e)

namespace Operation

variable {kubectl : Kubectl} {nesting : Nat} {R : Exchange → Prop} {n : Nat}

/-- A response is reached without exchanges. -/
theorem respondsIff_respond {r : Response} :
    RespondsIff kubectl nesting R (respond r : Operation n) :=
  fun _ _ => ⟨[], rfl, fun _ _ h => (nomatch h), fun _ => ⟨r, rfl⟩⟩

/-- After a call the operation goes on, or has to stop because of the reply. -/
theorem respondsIff_call {c : Call} {next : Reply → Operation n}
    (h : ∀ exchanges,
      (R ⟨c, kubectl exchanges c⟩ ∧ RespondsIff kubectl nesting R (next (kubectl exchanges c)))
        ∨ (¬R ⟨c, kubectl exchanges c⟩ ∧ ∃ fault, next (kubectl exchanges c) = stop fault)) :
    RespondsIff kubectl nesting R (.call c next : Operation (n + 1)) := by
  intro b hb
  rw [Task.run, Bench.exchange]
  dsimp only
  -- the exchanges that follow stand before this one: the bench keeps the latest first
  rcases h b.exchanges with ⟨hunderstood, hnext⟩ | ⟨hnot, fault, hstop⟩
  · obtain ⟨later, hlater, hiff⟩ :=
      hnext { b with exchanges := ⟨c, kubectl b.exchanges c⟩ :: b.exchanges } hb
    refine ⟨later ++ [⟨c, kubectl b.exchanges c⟩], ?_, ?_⟩
    · rw [hlater, List.append_assoc, List.singleton_append]
    · rw [hiff, List.forall_mem_append, List.forall_mem_singleton]
      exact (and_iff_left hunderstood).symm
  · refine ⟨[⟨c, kubectl b.exchanges c⟩], ?_, ?_⟩
    · rw [hstop]
      rfl
    · rw [hstop, List.forall_mem_singleton]
      exact ⟨fun ⟨_, h⟩ => (nomatch h), fun h => absurd h hnot⟩

/-- Making directories is no exchange. -/
theorem respondsIff_makeDirectories {path : LocalPath} {next : Option OsError → Operation n}
    (h : ∀ fault, RespondsIff kubectl nesting R (next fault)) :
    RespondsIff kubectl nesting R (.makeDirectories path next : Operation n) := by
  intro b hb
  have hsame : (b.makeDirectories path).2.exchanges = b.exchanges
      ∧ (b.makeDirectories path).2.nesting = b.nesting := by
    rw [Bench.makeDirectories]
    split <;> exact ⟨rfl, rfl⟩
  obtain ⟨later, hlater, hiff⟩ :=
    h (b.makeDirectories path).1 (b.makeDirectories path).2 (hsame.2.trans hb)
  exact ⟨later, hlater.trans (by rw [hsame.1]), hiff⟩

/-- Looking up what is known of the client is no exchange. -/
theorem respondsIff_consult {next : ClientKnowledge → Operation n}
    (h : ∀ version, RespondsIff kubectl nesting R (next ⟨version, nesting⟩)) :
    RespondsIff kubectl nesting R (.consult next : Operation n) := by
  rintro b rfl
  exact h b.version b rfl

/-- Remembering a version is no exchange. -/
theorem respondsIff_rememberVersion {version : Version} {next : Operation n}
    (h : RespondsIff kubectl nesting R next) :
    RespondsIff kubectl nesting R (.rememberVersion version next : Operation n) :=
  fun b hb => h (b.remember version) hb

/-- A kubectl that replies, well or badly, to every call. -/
def Replies (kubectl : Kubectl) : Prop := ∀ exchanges c text, kubectl exchanges c ≠ .crashed text

/-- A call whose output is read: the operation goes on with what was read, and
    with the report of a failure, but stops where the output cannot be read. -/
theorem respondsIff_call_reading (hreplies : Replies kubectl) {α ε : Type} {c : Call}
    {next : Reply → Operation n} {read : String → Except ε α}
    (hread : ∀ reply, R ⟨c, reply⟩ ↔ ∀ out, reply.output? = some out → ∃ a, read out = .ok a)
    (hok : ∀ r a, r.succeeded = true → read r.stdout = .ok a →
      RespondsIff kubectl nesting R (next (.exited r)))
    (herror : ∀ r e, r.succeeded = true → read r.stdout = .error e →
      ∃ fault, next (.exited r) = stop fault)
    (hfailed : ∀ r, r.succeeded = false → RespondsIff kubectl nesting R (next (.exited r)))
    (htransport : ∀ text, RespondsIff kubectl nesting R (next (.transportError text))) :
    RespondsIff kubectl nesting R (.call c next : Operation (n + 1)) := by
  refine respondsIff_call ?_
  intro exchanges
  rw [hread]
  cases hreply : kubectl exchanges c with
  | exited r =>
      cases hsucceeded : r.succeeded with
      | true =>
          rw [Reply.output?, if_pos hsucceeded]
          cases hout : read r.stdout with
          | ok a => exact Or.inl ⟨by rintro _ ⟨⟩; exact ⟨a, hout⟩, hok r a hsucceeded hout⟩
          | error e =>
              refine Or.inr ⟨fun h => ?_, herror r e hsucceeded hout⟩
              obtain ⟨a, ha⟩ := h _ rfl
              rw [hout] at ha
              cases ha
      | false =>
          rw [Reply.output?, hsucceeded]
          exact Or.inl ⟨fun _ h => (nomatch h), hfailed r hsucceeded⟩
  | transportError text => exact Or.inl ⟨fun _ h => (nomatch h), htransport text⟩
  | crashed text => exact absurd hreply (hreplies _ _ _)

/-- An attempt that goes on with what it reads. -/
theorem respondsIff_attempt_reading (hreplies : Replies kubectl) {α : Type} {c : Call}
    {failed : String → Response} {read : String → Except NumberError α} {next : α → Operation n}
    (hread : ∀ reply, R ⟨c, reply⟩ ↔ ∀ out, reply.output? = some out → ∃ a, read out = .ok a)
    (hnext : ∀ a, RespondsIff kubectl nesting R (next a)) :
    RespondsIff kubectl nesting R (attempt c failed (fun out => reading (read out) next)) := by
  refine respondsIff_call_reading hreplies hread ?_ ?_ ?_ (fun _ => respondsIff_respond)
  · intro r a hsucceeded ha
    simp only [hsucceeded, if_true, ha, reading]
    exact hnext a
  · intro r e hsucceeded he
    simp only [hsucceeded, if_true, he, reading]
    exact ⟨_, rfl⟩
  · intro r hsucceeded
    simp only [hsucceeded]
    exact respondsIff_respond

/-- An attempt whose output need not be read. -/
theorem respondsIff_attempt (hreplies : Replies kubectl) {c : Call} {failed : String → Response}
    {next : String → Operation n} (hunderstood : ∀ reply, R ⟨c, reply⟩)
    (hnext : ∀ out, RespondsIff kubectl nesting R (next out)) :
    RespondsIff kubectl nesting R (attempt c failed next) := by
  -- output that is taken as it is counts as read
  have hread : ∀ reply, R ⟨c, reply⟩
      ↔ ∀ out, reply.output? = some out → ∃ text, (.ok out : Except Empty String) = .ok text :=
    fun reply => iff_of_true (hunderstood reply) fun out _ => ⟨out, rfl⟩
  refine respondsIff_call_reading hreplies hread ?_ (fun _ _ _ h => (nomatch h)) ?_
    (fun _ => respondsIff_respond)
  · intro r _ hsucceeded _
    simp only [hsucceeded, if_true]
    exact hnext r.stdout
  · intro r hsucceeded
    simp only [hsucceeded, Bool.false_eq_true, if_false]
    exact respondsIff_respond

variable (s : Settings) (node : String)

/-! ## The calls that are read -/

/-- Different commands are different calls. -/
theorem exec_inj {command command' : String} :
    s.exec node command = s.exec node command' ↔ command = command' := by
  simp [Settings.exec]

/-- The search starts with its own letter. -/
theorem head?_findCommand : s.findCommand.toList.head? = some 'f' := by
  simp [Settings.findCommand]

/-- So does the command that ends a process. -/
theorem head?_killCommand (pid : Int) : (Settings.killCommand pid).toList.head? = some 'k' := by
  simp [Settings.killCommand]

/-- The search is not the listing of processes. -/
theorem findCommand_ne_processCommand : s.findCommand ≠ Settings.processCommand := by
  intro h
  have hhead := head?_findCommand s
  rw [h] at hhead
  exact absurd hhead (by decide)

/-- Ending a process is not listing them. -/
theorem killCommand_ne_processCommand (pid : Int) :
    Settings.killCommand pid ≠ Settings.processCommand := by
  intro h
  have hhead := head?_killCommand pid
  rw [h] at hhead
  exact absurd hhead (by decide)

/-- Ending a process is not searching. -/
theorem killCommand_ne_findCommand (pid : Int) : Settings.killCommand pid ≠ s.findCommand := by
  intro h
  have hhead := head?_killCommand pid
  rw [h, head?_findCommand] at hhead
  exact absurd hhead (by decide)

variable {s node}

/-- Of a listing of processes, its output counts. -/
theorem listingsReadable_processes (reply : Reply) :
    (Exchange.mk (s.exec node Settings.processCommand) reply).ListingsReadable s node
      ↔ ∀ out, reply.output? = some out → ∃ found, readProcesses s out = .ok found := by
  simp only [readProcesses_eq_ok_iff]
  refine ⟨fun h => h.processes rfl, fun h => ⟨fun _ => h, ?_⟩⟩
  intro hfind
  exact absurd ((exec_inj s node).mp hfind).symm (findCommand_ne_processCommand s)

/-- Of a listing of files, its output counts. -/
theorem listingsReadable_files (reply : Reply) :
    (Exchange.mk (s.exec node s.findCommand) reply).ListingsReadable s node
      ↔ ∀ out, reply.output? = some out → ∃ found, readFiles s out = .ok found := by
  simp only [readFiles_eq_ok_iff]
  refine ⟨fun h => h.files rfl, fun h => ⟨?_, fun _ => h⟩⟩
  intro hprocess
  exact absurd ((exec_inj s node).mp hprocess) (findCommand_ne_processCommand s)

/-- Only what runs in the debug pod is a listing. -/
theorem listingsReadable_of_not_exec {c : Call} (h : c.args.head? ≠ some "exec") (reply : Reply) :
    (Exchange.mk c reply).ListingsReadable s node := by
  have hne : ∀ command, c ≠ s.exec node command := by
    rintro command rfl
    exact h rfl
  exact ⟨fun hcall => absurd hcall (hne _), fun hcall => absurd hcall (hne _)⟩

/-- Ending a process has nothing to be read. -/
theorem listingsReadable_kill (pid : Int) (reply : Reply) :
    (Exchange.mk (s.exec node (Settings.killCommand pid)) reply).ListingsReadable s node :=
  ⟨fun h => absurd ((exec_inj s node).mp h) (killCommand_ne_processCommand pid),
    fun h => absurd ((exec_inj s node).mp h) (killCommand_ne_findCommand s pid)⟩

/-! ## The operations -/

variable {kubectl : Kubectl} (hreplies : Replies kubectl)
include hreplies

/-- A check responds exactly if its listings can be read. -/
theorem checkNode_respondsIff :
    RespondsIff kubectl nesting (Exchange.ListingsReadable s node) (checkNode s node) := by
  have hlist : s.listDebugPods.args.head? ≠ some "exec" := by simp [Settings.listDebugPods]
  have hwait : (s.waitReady node).args.head? ≠ some "exec" := by simp [Settings.waitReady]
  rw [checkNode]
  refine respondsIff_attempt hreplies (listingsReadable_of_not_exec hlist) ?_
  intro names
  dsimp only
  split
  · refine respondsIff_attempt hreplies (listingsReadable_of_not_exec hwait) ?_
    intro _
    refine respondsIff_attempt_reading hreplies listingsReadable_processes ?_
    intro processes
    refine respondsIff_attempt_reading hreplies listingsReadable_files ?_
    intro files
    exact respondsIff_respond
  · exact respondsIff_respond

/-- A stop responds exactly if its listings can be read. -/
theorem stopCapture_respondsIff {capture : String} :
    RespondsIff kubectl nesting (Exchange.ListingsReadable s node)
      (stopCapture s node capture) := by
  rw [stopCapture]
  refine respondsIff_attempt_reading hreplies listingsReadable_processes ?_
  intro processes
  dsimp only
  split
  · -- the capture does not run
    exact respondsIff_respond
  · refine respondsIff_attempt hreplies (listingsReadable_kill _) ?_
    intro _
    refine respondsIff_attempt_reading hreplies listingsReadable_files ?_
    intro files
    split <;> exact respondsIff_respond

omit hreplies in
/-- An operation that first resolves a path and stops where it cannot. -/
theorem resolve_runs {R : Exchange → Prop} {n : Nat} {path : String}
    {next : Except PathFault LocalPath → Operation n}
    (herror : ∀ fault, ∃ fault', next (.error fault) = stop fault')
    (hok : ∀ target, RespondsIff kubectl nesting R (next (.ok target))) (b : Bench)
    (hb : b.nesting = nesting) :
    ∃ exchanges, ((Task.resolve path next).run kubectl b).2.exchanges = exchanges ++ b.exchanges
      ∧ ((∃ r, ((Task.resolve path next).run kubectl b).1 = .ok r)
        ↔ (∃ target, b.files.resolve path = .ok target) ∧ ∀ e ∈ exchanges, R e) := by
  rw [Task.run]
  cases hresolved : b.files.resolve path with
  | error fault =>
      obtain ⟨fault', hstop⟩ := herror fault
      rw [hstop]
      exact ⟨[], rfl, fun ⟨_, h⟩ => (nomatch h), fun ⟨⟨_, h⟩, _⟩ => (nomatch h)⟩
  | ok target =>
      obtain ⟨exchanges, hrun, hiff⟩ := hok target b hb
      exact ⟨exchanges, hrun, hiff.trans (and_iff_right ⟨target, rfl⟩).symm⟩

/-- The version is asked for at most once, and then a copy is made. -/
theorem download_runs {capture path : String} (b : Bench) (hb : b.nesting = nesting) :
    ∃ exchanges, ((download s node capture path).run kubectl b).2.exchanges
        = exchanges ++ b.exchanges
      ∧ ((∃ r, ((download s node capture path).run kubectl b).1 = .ok r)
        ↔ (∃ target, b.files.resolve path = .ok target)
          ∧ ∀ e ∈ exchanges, (Request.download node capture path).Understands s nesting e) := by
  -- of all calls, only the question for the version has an answer that must be understood
  have hcopy : ∀ target retries reply, (Request.download node capture path).Understands s nesting
      ⟨s.copyFile node capture target retries, reply⟩ := by
    intro target retries reply hcall
    simp [Settings.copyFile, clientVersion] at hcall
  have hversion : ∀ reply, (Request.download node capture path).Understands s nesting
      ⟨clientVersion, reply⟩
        ↔ ∀ out, reply.output? = some out →
          ∃ found, parseClientVersion out nesting = .ok found := by
    intro reply
    simp only [parseClientVersion_eq_ok_iff]
    exact ⟨fun h => h rfl, fun h _ => h⟩
  rw [download]
  refine resolve_runs (fun fault => ⟨.path fault, rfl⟩) ?_ b hb
  intro target
  refine respondsIff_makeDirectories ?_
  intro fault
  cases fault with
  | some e => exact respondsIff_respond
  | none =>
      refine respondsIff_consult ?_
      intro version
      cases version with
      | some version =>
          exact respondsIff_attempt hreplies (hcopy _ _) (fun _ => respondsIff_respond)
      | none =>
          refine respondsIff_call_reading hreplies hversion ?_ ?_ ?_ ?_
          · intro r found hsucceeded hfound
            simp only [hsucceeded, if_true, hfound]
            refine respondsIff_rememberVersion ?_
            exact respondsIff_attempt hreplies (hcopy _ _) (fun _ => respondsIff_respond)
          · intro r fault hsucceeded hfault
            simp only [hsucceeded, if_true, hfault]
            exact ⟨_, rfl⟩
          · intro r hsucceeded
            simp only [hsucceeded, Bool.false_eq_true, if_false]
            exact respondsIff_attempt hreplies (hcopy _ _) (fun _ => respondsIff_respond)
          · intro text
            exact respondsIff_attempt hreplies (hcopy _ _) (fun _ => respondsIff_respond)

/-- The creation of a debug pod always responds. -/
theorem createPod_respondsIff :
    RespondsIff kubectl nesting ((Request.createPod node).Understands s nesting)
      (createPod s node) := by
  rw [createPod]
  refine respondsIff_attempt hreplies (fun _ => trivial) ?_
  intro _
  refine respondsIff_attempt hreplies (fun _ => trivial) ?_
  intro _
  refine respondsIff_attempt hreplies (fun _ => trivial) ?_
  intro _
  exact respondsIff_respond

/-- The deletion of a debug pod always responds. -/
theorem deletePod_respondsIff :
    RespondsIff kubectl nesting ((Request.deletePod node).Understands s nesting)
      (deletePod s node) := by
  rw [deletePod]
  refine respondsIff_attempt hreplies (fun _ => trivial) ?_
  intro _
  refine respondsIff_attempt hreplies (fun _ => trivial) ?_
  intro _
  exact respondsIff_respond

/-- An operation ends with a response exactly if its path resolves and each
    reply is understood. -/
theorem ofRequest_runs (q : Request) (b : Bench) (hb : b.nesting = nesting) :
    ∃ exchanges, ((ofRequest s q).run kubectl b).2.exchanges = exchanges ++ b.exchanges
      ∧ ((∃ r, ((ofRequest s q).run kubectl b).1 = .ok r)
        ↔ q.Resolves b.files ∧ ∀ e ∈ exchanges, q.Understands s nesting e) := by
  -- all operations but the download have no path to resolve
  have hpathless : ∀ {t : Operation 4}, RespondsIff kubectl nesting (q.Understands s nesting) t →
      q.Resolves b.files →
        ∃ exchanges, (t.run kubectl b).2.exchanges = exchanges ++ b.exchanges
          ∧ ((∃ r, (t.run kubectl b).1 = .ok r)
            ↔ q.Resolves b.files ∧ ∀ e ∈ exchanges, q.Understands s nesting e) := by
    intro t ht hpath
    obtain ⟨exchanges, hrun, hiff⟩ := ht b hb
    exact ⟨exchanges, hrun, hiff.trans (and_iff_right hpath).symm⟩
  have hsingle : ∀ {c : Call} {failed : String → Response} {finished : String → Response},
      (∀ reply, q.Understands s nesting ⟨c, reply⟩) →
        RespondsIff kubectl nesting (q.Understands s nesting)
        (attempt c failed (fun out => respond (finished out)) : Operation 4) :=
    fun hunderstood => respondsIff_attempt hreplies hunderstood (fun _ => respondsIff_respond)
  cases q with
  | checkNode node => exact hpathless (checkNode_respondsIff hreplies) trivial
  | createPod node => exact hpathless (createPod_respondsIff hreplies) trivial
  | deletePod node => exact hpathless (deletePod_respondsIff hreplies) trivial
  | startCapture node capture filters =>
      rw [ofRequest, startCapture]
      exact hpathless (hsingle fun _ => trivial) trivial
  | stopCapture node capture => exact hpathless (stopCapture_respondsIff hreplies) trivial
  | download node capture path => exact download_runs hreplies b hb
  | listInterfaces node =>
      rw [ofRequest, listInterfaces]
      exact hpathless (hsingle fun _ => trivial) trivial
  | listNodes =>
      rw [ofRequest, listNodes]
      exact hpathless (hsingle fun _ => trivial) trivial
  | listPods node =>
      rw [ofRequest, listPods]
      exact hpathless (hsingle fun _ => trivial) trivial

end Operation

/-- A kubectl that prints one text, whatever it is asked. -/
def printing (out : String) : Kubectl := fun _ _ => .exited { stdout := out }

theorem replies_printing (out : String) : Operation.Replies (printing out) :=
  fun _ _ _ h => (nomatch h)

/-- A machine on which nothing has happened. -/
def freshBench : Bench := { files := .basic ["home"] }

/-- A download to a path that can be resolved. -/
def webDownload : Request := .download "n" "web" "/tmp/web.cap"

/-- What a client prints that retries copies. -/
def retryingVersion : String := "\x7b\"clientVersion\":\x7b\"gitVersion\":\"v1.23.0\"\x7d\x7d"

/-- The printed document is one of a version. -/
theorem versionReadable_retryingVersion : VersionReadable freshBench.nesting retryingVersion := by
  have hread : Json.read retryingVersion.toList freshBench.nesting
      = .ok (.object [("clientVersion", .object [("gitVersion", .string "v1.23.0")])]) := rfl
  have hparts : versionParts "v1.23.0".toList = some (['1'], ['2', '3'], ['0']) := rfl
  rw [VersionReadable, hread]
  refine ⟨_, rfl, ?_⟩
  rintro _ ⟨⟩
  refine ⟨_, rfl, ?_⟩
  rintro _ ⟨⟩
  refine ⟨_, rfl, ?_⟩
  intro major minor patch h
  rw [hparts] at h
  cases h
  decide

/-- An operation ends with a response to its request, whatever kubectl replies. -/
def AlwaysResponds (s : Settings) (q : Request) : Prop :=
  ∀ kubectl, Operation.Replies kubectl → ∀ b : Bench,
    ∃ r, ((Operation.ofRequest s q).run kubectl b).1 = .ok r ∧ r.Answers q

end NodeCapture
