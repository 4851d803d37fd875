import NodeCapture.Proofs.Runs
import NodeCapture.Proofs.Transcripts

/-! # First failures

    An operation makes no call after one that failed, but for the question for
    the client version, whose failure it puts up with.  Its response reports
    that failure, in words that end with those of the call.

    `Operation.Concludes` says in which of three ways an operation that ends
    with a response comes to its end: with a call that failed, without a
    failure but lacking what it needs, or well.  It has one rule for each step
    that operations are made of; from the three ways the main statement reads
    off which responses report success. -/

namespace NodeCapture

/-- What is to be reported of a call that failed: the description of a process
    that ended badly, or the text of the transport. -/
def Exchange.failure? (e : Exchange) : Option String :=
  match e.reply with
  | .exited r => if r.succeeded then none else some (describeFailure e.call.args r)
  | .transportError text => some text
  | .crashed _ => none

/-- A call ended well. -/
def Exchange.WentWell (e : Exchange) : Prop := ∃ r, e.reply = .exited r ∧ r.succeeded

/-- All calls ended well but questions for the client version. -/
def Unfailing (made : List Exchange) : Prop := ∀ e ∈ made, e.call ≠ clientVersion → e.WentWell

/-- A response says that its operation failed, in words that end with a text. -/
def Response.Reports (r : Response) (text : String) : Prop :=
  ∃ lead, r.outcome = .failure (lead ++ text)

/-- What an operation needs is not there, although its calls end well: there is
    no process of the capture to stop, no file of a capture that was stopped, or
    no directory for a download, which then makes no call. -/
inductive Request.Lacks (s : Settings) (b : Bench) (made : List Exchange) : Request → Prop where
  | process {node capture : String} {r : CommandResult} {processes : List CaptureProcess}
      (listed : made = [⟨s.exec node Settings.processCommand, .exited r⟩])
      (read : readProcesses s r.stdout = .ok processes)
      (missing : ∀ p ∈ processes, p.capture ≠ capture) :
      Lacks s b made (.stopCapture node capture)
  | file {node capture : String} {r : CommandResult} {files : List CaptureFile}
      {earlier : List Exchange}
      (listed : made = ⟨s.exec node s.findCommand, .exited r⟩ :: earlier)
      (read : readFiles s r.stdout = .ok files)
      (missing : ∀ f ∈ files, f.name ≠ capture) :
      Lacks s b made (.stopCapture node capture)
  | directory {node capture path : String} {target : LocalPath} {e : OsError}
      (resolved : b.files.resolve path = .ok target)
      (refused : b.files.ensureDirectories target.tail = .error e) (nothing : made = []) :
      Lacks s b made (.download node capture path)

variable {lacks : List Exchange → Prop} {made later earlier : List Exchange} {response : Response}

theorem unfailing_nil : Unfailing [] := fun _ he => absurd he List.not_mem_nil

/-- Exchanges that did not fail may be followed by others. -/
theorem Unfailing.append (hlater : Unfailing later) (hearlier : Unfailing earlier) :
    Unfailing (later ++ earlier) :=
  List.forall_mem_append.mpr ⟨hlater, hearlier⟩

/-- A command that succeeded did not fail. -/
theorem unfailing_exited {c : Call} {r : CommandResult} (h : r.succeeded = true) :
    Unfailing [⟨c, .exited r⟩] :=
  List.forall_mem_singleton.mpr fun _ => ⟨r, rfl, h⟩

theorem unfailing_probe (reply : Reply) : Unfailing [⟨clientVersion, reply⟩] :=
  List.forall_mem_singleton.mpr fun h => absurd rfl h

/-- A call that failed did not end well. -/
theorem Exchange.not_wentWell {e : Exchange} {text : String} (h : e.failure? = some text) :
    ¬e.WentWell := by
  rintro ⟨r, hreply, hr⟩
  rw [failure?, hreply] at h
  simp [hr] at h

/-- An error may be reported by itself. -/
theorem Response.reports_bare {text : String} (h : response.outcome = .failure text) :
    response.Reports text :=
  ⟨"", by rw [h, String.empty_append]⟩

/-- What reports an error has not succeeded. -/
theorem Response.Reports.not_succeeded {text : String} (h : response.Reports text) :
    response.outcome.succeeded = false := by
  obtain ⟨lead, hlead⟩ := h
  rw [hlead]
  rfl

namespace Operation

/-- How an operation comes to its response, by the exchanges that it made: with
    a call that failed, or without a failure, but lacking something or well. -/
inductive Concludes (lacks : List Exchange → Prop) : List Exchange → Response → Prop where
  | failed {e : Exchange} {earlier : List Exchange} {text : String} {response : Response}
      (fails : e.failure? = some text) (counts : e.call ≠ clientVersion)
      (unfailing : Unfailing earlier) (reports : response.Reports text) :
      Concludes lacks (e :: earlier) response
  | lacking {made : List Exchange} {response : Response} (unfailing : Unfailing made)
      (lacking : lacks made) (bad : response.outcome.succeeded = false) :
      Concludes lacks made response
  | well {made : List Exchange} {response : Response} (unfailing : Unfailing made)
      (served : ¬lacks made) (good : response.outcome.succeeded = true) :
      Concludes lacks made response

/-- What happens after calls that count for nothing concludes the whole. -/
theorem Concludes.behind (h : Concludes (fun later => lacks (later ++ earlier)) later response)
    (unfailing : Unfailing earlier) : Concludes lacks (later ++ earlier) response := by
  cases h with
  | failed fails counts before reports =>
      exact .failed fails counts (before.append unfailing) reports
  | lacking before lacking bad => exact .lacking (before.append unfailing) lacking bad
  | well before served good => exact .well (before.append unfailing) served good

/-- What concludes without lacking anything does so by any measure that it meets. -/
theorem Concludes.of_served (h : Concludes (fun _ => False) made response) (served : ¬lacks made) :
    Concludes lacks made response := by
  cases h with
  | failed fails counts unfailing reports => exact .failed fails counts unfailing reports
  | lacking _ lacking _ => exact lacking.elim
  | well unfailing _ good => exact .well unfailing served good

/-- A failure is the last call and is reported. -/
theorem Concludes.last_of_failure (h : Concludes lacks made response) {e : Exchange} {text : String}
    (split : made = later ++ e :: earlier) (counts : e.call ≠ clientVersion)
    (fails : e.failure? = some text) : later = [] ∧ response.Reports text := by
  have not_unfailing : ∀ {others : List Exchange}, e ∈ others → ¬Unfailing others :=
    fun he unfailing => Exchange.not_wentWell fails (unfailing e he counts)
  have here : e ∈ made := split ▸ List.mem_append_right later List.mem_cons_self
  cases h with
  | failed fails' counts' unfailing reports =>
      -- before the last call nothing failed, so it is the last one
      cases later with
      | nil =>
          obtain ⟨rfl, rfl⟩ := List.cons.inj split
          obtain rfl := Option.some.inj (fails.symm.trans fails')
          exact ⟨rfl, reports⟩
      | cons first between =>
          obtain ⟨-, rfl⟩ := List.cons.inj split
          exact absurd unfailing (not_unfailing (List.mem_append_right _ List.mem_cons_self))
  | lacking unfailing => exact absurd unfailing (not_unfailing here)
  | well unfailing => exact absurd unfailing (not_unfailing here)

/-- Success is reported exactly without a failure and with nothing lacking. -/
theorem Concludes.succeeded_iff (h : Concludes lacks made response) :
    response.outcome.succeeded = true ↔ Unfailing made ∧ ¬lacks made := by
  cases h with
  | failed fails counts unfailing reports =>
      refine iff_of_false (by rw [reports.not_succeeded]; decide) ?_
      rintro ⟨all, -⟩
      exact Exchange.not_wentWell fails (all _ List.mem_cons_self counts)
  | lacking unfailing lacking bad =>
      exact iff_of_false (by rw [bad]; decide) (fun served => served.2 lacking)
  | well unfailing served good => exact iff_of_true good ⟨unfailing, served⟩

/-! ## Steps of operations -/

/-- However an operation gets to a response, it concludes so. -/
def Concluding (lacks : List Exchange → Prop) {n : Nat} (t : Operation n) : Prop :=
  ∀ made response, t.Leads made (.ok response) → Concludes lacks made response

variable {n : Nat}

/-- How an operation concludes is read off the way it took. -/
theorem Concluding.concludes {t : Operation n} (h : Concluding lacks t)
    (leads : t.Leads made (.ok response)) : Concludes lacks made response :=
  h made response leads

/-- An operation may succeed where nothing failed. -/
theorem concluding_done (good : response.outcome.succeeded = true) (served : ¬lacks []) :
    Concluding lacks (respond response : Operation n) := by
  rintro _ _ ⟨⟩
  exact .well unfailing_nil served good

/-- An operation may fail where its target is lacking. -/
theorem concluding_lacking (bad : response.outcome.succeeded = false) (lacking : lacks []) :
    Concluding lacks (respond response : Operation n) := by
  rintro _ _ ⟨⟩
  exact .lacking unfailing_nil lacking bad

/-- Where an operation stops, it concludes nothing. -/
theorem concluding_stop {fault : OperationFault} : Concluding lacks (stop fault : Operation n) := by
  rintro _ _ ⟨⟩

/-- Looking up what is known of the client makes no exchange. -/
theorem concluding_consult {next : ClientKnowledge → Operation n}
    (h : ∀ known, Concluding lacks (next known)) :
    Concluding lacks (.consult next : Operation n) := by
  intro made response leads
  cases leads with
  | consult leads => exact h _ _ _ leads

/-- Neither does remembering a version. -/
theorem concluding_rememberVersion {version : Version} {next : Operation n}
    (h : Concluding lacks next) :
    Concluding lacks (.rememberVersion version next : Operation n) := by
  intro made response leads
  cases leads with
  | rememberVersion leads => exact h _ _ leads

/-- The question for the client version may fail. -/
theorem concluding_probe {next : Reply → Operation n}
    (h : ∀ reply, Concluding (fun later => lacks (later ++ [⟨clientVersion, reply⟩]))
      (next reply)) :
    Concluding lacks (.call clientVersion next : Operation (n + 1)) := by
  intro made response leads
  cases leads with
  | call leads => exact (h _ _ _ leads).behind (unfailing_probe _)

/-- A listing that cannot be read concludes nothing. -/
theorem concluding_reading {α : Type} {listing : Except NumberError α} {next : α → Operation n}
    (h : ∀ a, listing = .ok a → Concluding lacks (next a)) :
    Concluding lacks (reading listing next) := by
  cases listing with
  | ok a => exact h a rfl
  | error e => rintro _ _ ⟨⟩

/-- An attempt concludes with its call, or goes on after it. -/
theorem concluding_attempt {c : Call} {failed : String → Response} {next : String → Operation n}
    (counts : c ≠ clientVersion) (reports : ∀ text, (failed text).Reports text)
    (hnext : ∀ r, r.succeeded = true →
      Concluding (fun later => lacks (later ++ [⟨c, .exited r⟩])) (next r.stdout)) :
    Concluding lacks (attempt c failed next) := by
  intro made response leads
  cases leads with
  | call leads =>
      rename_i reply later
      cases reply with
      | exited r =>
          cases hr : r.succeeded with
          | true =>
              simp only [hr, if_true] at leads
              exact (hnext r hr later response leads).behind (unfailing_exited hr)
          | false =>
              simp only [hr, Bool.false_eq_true, if_false] at leads
              cases leads
              have fails : Exchange.failure? ⟨c, .exited r⟩ = some (describeFailure c.args r) := by
                simp [Exchange.failure?, hr]
              exact .failed fails counts unfailing_nil (reports _)
      | transportError text =>
          cases leads
          exact .failed rfl counts unfailing_nil (reports text)
      | crashed text => cases leads

/-- An attempt after which nothing is left to do but to respond. -/
theorem concluding_attempt_respond {c : Call} {failed finished : String → Response}
    (counts : c ≠ clientVersion) (reports : ∀ text, (failed text).Reports text)
    (good : ∀ out, (finished out).outcome.succeeded = true)
    (served : ∀ r, ¬lacks [⟨c, .exited r⟩]) :
    Concluding lacks (attempt c failed (fun out => respond (finished out)) : Operation (n + 1)) :=
  concluding_attempt counts reports fun r _ => concluding_done (good _) (served r)

/-! ## The operations -/

variable (s : Settings) (node : String)

/-- No command in the debug pod is a question for the version. -/
theorem exec_ne_clientVersion (command : String) : s.exec node command ≠ clientVersion := by
  simp [Settings.exec, clientVersion]

/-- A check stops at the first failure. -/
theorem checkNode_concludes : Concluding (fun _ => False) (checkNode s node) := by
  rw [checkNode]
  refine concluding_attempt (by simp [Settings.listDebugPods, clientVersion])
    (fun _ => ⟨_, rfl⟩) fun names _ => ?_
  dsimp only
  split
  · refine concluding_attempt (by simp [Settings.waitReady, clientVersion])
      (fun _ => ⟨_, rfl⟩) fun _ _ => ?_
    refine concluding_attempt (exec_ne_clientVersion s node _) (fun _ => ⟨_, rfl⟩) fun ps _ => ?_
    refine concluding_reading fun processes _ => ?_
    refine concluding_attempt (exec_ne_clientVersion s node _) (fun _ => ⟨_, rfl⟩) fun found _ => ?_
    exact concluding_reading fun files _ => concluding_done rfl not_false
  · exact concluding_done rfl not_false

/-- The creation of a debug pod stops at the first failure. -/
theorem createPod_concludes : Concluding (fun _ => False) (createPod s node) := by
  rw [createPod]
  refine concluding_attempt (by simp [Settings.applyManifest, clientVersion])
    (fun _ => ⟨_, rfl⟩) fun _ _ => ?_
  refine concluding_attempt (by simp [Settings.waitReady, clientVersion])
    (fun _ => ⟨_, rfl⟩) fun _ _ => ?_
  exact concluding_attempt_respond (exec_ne_clientVersion s node _) (fun _ => ⟨_, rfl⟩)
    (fun _ => rfl) fun _ => not_false

/-- The deletion of a debug pod stops at the first failure. -/
theorem deletePod_concludes : Concluding (fun _ => False) (deletePod s node) := by
  rw [deletePod]
  refine concluding_attempt (by simp [Settings.deletePod, clientVersion])
    (fun _ => ⟨_, rfl⟩) fun _ _ => ?_
  exact concluding_attempt_respond (by simp [Settings.waitDeleted, clientVersion])
    (fun _ => ⟨_, rfl⟩) (fun _ => rfl) fun _ => not_false

/-- The start of a capture stops at the first failure. -/
theorem startCapture_concludes (capture : String) (filters : CaptureFilters) :
    Concluding (fun _ => False) (startCapture s node capture filters) := by
  rw [startCapture]
  exact concluding_attempt_respond (exec_ne_clientVersion s node _)
    (fun _ => Response.reports_bare rfl) (fun _ => rfl) fun _ => not_false

/-- The listing of interfaces stops at the first failure. -/
theorem listInterfaces_concludes : Concluding (fun _ => False) (listInterfaces s node) := by
  rw [listInterfaces]
  exact concluding_attempt_respond (exec_ne_clientVersion s node _)
    (fun _ => Response.reports_bare rfl) (fun _ => rfl) fun _ => not_false

/-- The listing of nodes stops at the first failure. -/
theorem listNodes_concludes : Concluding (fun _ => False) listNodes := by
  rw [listNodes]
  exact concluding_attempt_respond (by simp [NodeCapture.listNodes, clientVersion])
    (fun _ => Response.reports_bare rfl) (fun _ => rfl) fun _ => not_false

/-- The listing of pods stops at the first failure. -/
theorem listPods_concludes : Concluding (fun _ => False) (listPods node) := by
  rw [listPods]
  exact concluding_attempt_respond (by simp [NodeCapture.listPods, clientVersion])
    (fun _ => Response.reports_bare rfl) (fun _ => rfl) fun _ => not_false

/-- A stop lacks a process or a file exactly where it does not find it. -/
theorem stopCapture_concludes (b : Bench) (capture : String) :
    Concluding (fun made => (Request.stopCapture node capture).Lacks s b made)
      (stopCapture s node capture) := by
  have exec_counts := exec_ne_clientVersion s node
  rw [stopCapture]
  refine concluding_attempt (exec_counts _) (fun _ => ⟨_, rfl⟩) fun ps _ => ?_
  refine concluding_reading fun processes hprocesses => ?_
  dsimp only
  split
  · next hnone =>
      refine concluding_lacking rfl (.process rfl hprocesses fun p hp => ?_)
      simpa using List.find?_eq_none.mp hnone p hp
  next process hprocess =>
  refine concluding_attempt (exec_counts _) (fun _ => ⟨_, rfl⟩) fun killed _ => ?_
  refine concluding_attempt (exec_counts _) (fun _ => ⟨_, rfl⟩) fun found _ => ?_
  refine concluding_reading fun files hfiles => ?_
  split
  · next hnone =>
      refine concluding_lacking rfl (.file rfl hfiles fun f hf => ?_)
      simpa using List.find?_eq_none.mp hnone f hf
  next file hfile =>
  refine concluding_done rfl ?_
  intro lacks
  cases lacks with
  | process listed => simp at listed
  | file listed read missing =>
      -- the listing is the one in which the file was found
      have hreply := congrArg Exchange.reply (List.cons.inj listed).1
      obtain rfl := Reply.exited.inj hreply
      obtain rfl := Except.ok.inj (hfiles.symm.trans read)
      exact missing file (List.mem_of_find?_eq_some hfile) (by simpa using List.find?_some hfile)

/-- Where there is a directory for it, a download lacks nothing, whatever the
    client says of its version. -/
theorem download_concludes (b : Bench) (capture path : String) {kubectl : Kubectl}
    (returns : ((download s node capture path).run kubectl b).1 = .ok response) :
    ∃ made, ((download s node capture path).run kubectl b).2.exchanges = made ++ b.exchanges
      ∧ Concludes (fun made => (Request.download node capture path).Lacks s b made)
          made response := by
  have copied : ∀ {n : Nat} {target : LocalPath} {retries : Bool} {text lead : String},
      Concluding (fun _ => False) (attempt (s.copyFile node capture target retries)
        (fun error => .downloaded (.failure (lead ++ error)) node capture (some text))
        (fun _ => respond (.downloaded .success node capture (some text))) : Operation (n + 1)) :=
    concluding_attempt_respond (by simp [Settings.copyFile, clientVersion]) (fun _ => ⟨_, rfl⟩)
      (fun _ => rfl) fun _ => not_false
  -- the directory is looked for before any call, on the files of the bench
  rw [download, Task.run] at returns ⊢
  cases hresolved : b.files.resolve path with
  | error fault =>
      rw [hresolved] at returns
      cases returns
  | ok target =>
      rw [hresolved] at returns
      dsimp only at returns ⊢
      rw [Task.run, Bench.makeDirectories] at returns ⊢
      cases hdirectories : b.files.ensureDirectories target.tail with
      | error e =>
          rw [hdirectories] at returns
          cases returns
          exact ⟨[], rfl, .lacking unfailing_nil (.directory hresolved hdirectories rfl) rfl⟩
      | ok files =>
          rw [hdirectories] at returns
          dsimp only at returns ⊢
          obtain ⟨made, hmade, leads⟩ := Task.run_leads kubectl _ { b with files := files }
          rw [returns] at leads
          refine ⟨made, hmade, Concludes.of_served (Concluding.concludes ?_ leads) ?_⟩
          · refine concluding_consult ?_
            rintro ⟨version, nesting⟩
            cases version with
            | some version => exact copied
            | none =>
                refine concluding_probe fun reply => ?_
                cases reply with
                | exited r =>
                    dsimp only
                    split
                    · split
                      · exact concluding_stop
                      · exact concluding_rememberVersion copied
                    · exact copied
                | transportError text => exact copied
                | crashed text => exact concluding_stop
          · intro lacks
            cases lacks with
            | directory resolved refused =>
                obtain rfl := Except.ok.inj (hresolved.symm.trans resolved)
                cases hdirectories.symm.trans refused

/-- Every operation that ends with a response concludes in one of the three
    ways. -/
theorem ofRequest_concludes (q : Request) (b : Bench) {kubectl : Kubectl}
    (returns : ((ofRequest s q).run kubectl b).1 = .ok response) :
    ∃ made, ((ofRequest s q).run kubectl b).2.exchanges = made ++ b.exchanges
      ∧ Concludes (q.Lacks s b) made response := by
  have runs : ∀ {t : Operation 4} {lacks : List Exchange → Prop}, Concluding lacks t →
      (t.run kubectl b).1 = .ok response →
      ∃ made, (t.run kubectl b).2.exchanges = made ++ b.exchanges
        ∧ Concludes lacks made response := by
    intro t lacks h returns
    obtain ⟨made, hmade, leads⟩ := Task.run_leads kubectl t b
    rw [returns] at leads
    exact ⟨made, hmade, h made response leads⟩
  have runs_served : ∀ {t : Operation 4}, (∀ made, ¬q.Lacks s b made) →
      Concluding (fun _ => False) t → (t.run kubectl b).1 = .ok response →
      ∃ made, (t.run kubectl b).2.exchanges = made ++ b.exchanges
        ∧ Concludes (q.Lacks s b) made response := by
    intro t served h returns
    obtain ⟨made, hmade, concludes⟩ := runs h returns
    exact ⟨made, hmade, concludes.of_served (served made)⟩
  cases q with
  | checkNode node => exact runs_served nofun (checkNode_concludes s node) returns
  | createPod node => exact runs_served nofun (createPod_concludes s node) returns
  | deletePod node => exact runs_served nofun (deletePod_concludes s node) returns
  | startCapture node capture filters =>
      exact runs_served nofun (startCapture_concludes s node capture filters) returns
  | stopCapture node capture => exact runs (stopCapture_concludes s node b capture) returns
  | download node capture path => exact download_concludes s node b capture path returns
  | listInterfaces node => exact runs_served nofun (listInterfaces_concludes s node) returns
  | listNodes => exact runs_served nofun listNodes_concludes returns
  | listPods node => exact runs_served nofun (listPods_concludes node) returns

end Operation

/-- Whatever kubectl replies, an operation that ends with a response stops at
    the first call that fails, but for the question for the client version:
    that call is its last one, and the response reports the failure.  It
    reports success exactly if no such call failed and nothing is lacking. -/
theorem operation_stops_at_first_failure (kubectl : Kubectl) (s : Settings) (q : Request)
    (b : Bench)
    {response : Response} (returns : ((Operation.ofRequest s q).run kubectl b).1 = .ok response) :
    ∃ made, ((Operation.ofRequest s q).run kubectl b).2.exchanges = made ++ b.exchanges
      ∧ (∀ later e earlier text, made = later ++ e :: earlier → e.call ≠ clientVersion →
          e.failure? = some text → later = [] ∧ response.Reports text)
      ∧ (response.outcome.succeeded = true ↔ Unfailing made ∧ ¬q.Lacks s b made) := by
  obtain ⟨made, hmade, concludes⟩ := Operation.ofRequest_concludes s q b returns
  refine ⟨made, hmade, ?_, concludes.succeeded_iff⟩
  intro later e earlier text split counts fails
  exact concludes.last_of_failure split counts fails

/-- The listing of a process that writes a capture. -/
def stubbornListing : CommandResult :=
  { stdout := "7 tcpdump tcpdump --snapshot-length=0 -vvv -w /tmp/capturectl_web.cap" }

/-- The attempt to end it fails. -/
def stubbornKill : Exchange :=
  ⟨Settings.exec {} "n" "kill 7", .exited { exitCode := 1, stderr := "no such process" }⟩

/-- The stop of that capture, from its beginning to its end. -/
def stubbornStop : Except OperationFault Response × Bench :=
  (Operation.ofRequest {} (.stopCapture "n" "web")).run
    (.inTurn [.exited stubbornListing, stubbornKill.reply]) { files := .basic ["home"] }

/-- It ends with that attempt, and reports it. -/
theorem operation_stops_at_failed_kill :
    ∃ response, stubbornStop.1 = .ok response
      ∧ stubbornStop.2.exchanges = [stubbornKill,
          ⟨Settings.exec {} "n" Settings.processCommand, .exited stubbornListing⟩]
      ∧ response.Reports ("Command kubectl exec -n default debug-n -- /bin/sh -c kill 7 failed with "
          ++ "exit code 1: no such process") := by
  have responds : stubbornStop.1.isOk = true := by decide +kernel
  have exchanges : stubbornStop.2.exchanges = [stubbornKill,
      ⟨Settings.exec {} "n" Settings.processCommand, .exited stubbornListing⟩] := by
    decide +kernel
  have fails : stubbornKill.failure? = some
      ("Command kubectl exec -n default debug-n -- /bin/sh -c "
      ++ "kill 7 failed with exit code 1: no such process") := by
    decide +kernel
  cases returns : stubbornStop.1 with
  | error fault =>
      rw [returns] at responds
      cases responds
  | ok response =>
      obtain ⟨made, hmade, last, -⟩ := operation_stops_at_first_failure _ _ _ _ returns
      rw [List.append_nil] at hmade
      obtain ⟨-, reports⟩ := last [] stubbornKill _ _ (hmade.symm.trans exchanges) (by decide) fails
      exact ⟨response, rfl, exchanges, reports⟩

end NodeCapture
