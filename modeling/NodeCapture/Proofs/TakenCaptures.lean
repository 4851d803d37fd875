import NodeCapture.Proofs.CleanUp
import NodeCapture.Proofs.StoppedCaptures

/-! # Captures that were taken

    The run of a capture does not look at what its operations report: after each
    of them it looks at the node again.  Still it ends well only where each
    operation did.  The capture is running only after its start went well; it
    has ended, with the debug pod left running, only after its process was found
    and ended and its file was found; and since no capture of the node was
    downloaded before (`Node.Fresh`), the file is downloaded only after it was
    copied.

    `Taken` says that these five exchanges were made one after another;
    `TakesCapture` adds the deletion of the debug pod. -/

namespace NodeCapture

section Definitions

variable (s : Settings) (node capture : String)

/-- A capture was started. -/
def Starts (e : Exchange) : Prop :=
  ∃ filters r, r.succeeded = true
    ∧ e = ⟨s.exec node (s.startCommand capture filters), .exited r⟩

/-- The processes of a node were listed, and a process of the capture is among
    them. -/
def ListsProcess (pid : Int) (e : Exchange) : Prop :=
  ∃ r processes, r.succeeded = true ∧ readProcesses s r.stdout = .ok processes
    ∧ ⟨pid, capture⟩ ∈ processes ∧ e = ⟨s.exec node Settings.processCommand, .exited r⟩

/-- The capture files of a node were listed, and that of the capture is among
    them. -/
def ListsFile (e : Exchange) : Prop :=
  ∃ r files file, r.succeeded = true ∧ readFiles s r.stdout = .ok files ∧ file ∈ files
    ∧ file.name = capture ∧ e = ⟨s.exec node s.findCommand, .exited r⟩

/-- The file of a capture was copied. -/
def Copies (e : Exchange) : Prop :=
  ∃ path retries r, r.succeeded = true ∧ e = ⟨s.copyFile node capture path retries, .exited r⟩

/-- A capture was started, then its process was found and ended, and then its
    file was found.  The last exchange comes first. -/
def Stopped (exchanges : List Exchange) : Prop :=
  ∃ pid started listed killed found, Starts s node capture started
    ∧ ListsProcess s node capture pid listed ∧ Kills s node pid killed
    ∧ ListsFile s node capture found ∧ [found, killed, listed, started].Sublist exchanges

/-- After that its file was copied. -/
def Taken (exchanges : List Exchange) : Prop :=
  ∃ capture pid started listed killed found copied, Starts s node capture started
    ∧ ListsProcess s node capture pid listed ∧ Kills s node pid killed
    ∧ ListsFile s node capture found ∧ Copies s node capture copied
    ∧ [copied, found, killed, listed, started].Sublist exchanges

/-- A capture was taken, and after that the debug pod was deleted unless it is
    to be kept. -/
def TakesCapture (o : RunOptions) (exchanges : List Exchange) : Prop :=
  ∃ later before, exchanges = later ++ before ∧ Taken s o.node before
    ∧ (o.keepsPod = false → ∃ e ∈ later, e.call = s.deletePod o.node)

end Definitions

variable {s : Settings} {node capture : String}

/-- A capture that was taken may follow anything. -/
theorem Taken.append {later : List Exchange} (h : Taken s node later) (before : List Exchange) :
    Taken s node (later ++ before) := by
  obtain ⟨capture, pid, started, listed, killed, found, copied, h₁, h₂, h₃, h₄, h₅, order⟩ := h
  exact ⟨capture, pid, started, listed, killed, found, copied, h₁, h₂, h₃, h₄, h₅,
    order.trans (List.sublist_append_left _ _)⟩

/-- The process that is found is listed. -/
theorem FindsProcess.lists {pid : Int} {e : Exchange} (h : FindsProcess s node capture pid e) :
    ListsProcess s node capture pid e := by
  obtain ⟨r, before, after, hr, hprocesses, -, rfl⟩ := h
  exact ⟨r, _, hr, hprocesses, List.mem_append_right _ List.mem_cons_self, rfl⟩

/-- The file that is found is listed. -/
theorem FindsFile.lists {file : CaptureFile} {e : Exchange} (h : FindsFile s node capture file e) :
    ListsFile s node capture e := by
  obtain ⟨r, files, hr, hfiles, hmem, hname, rfl⟩ := h
  exact ⟨r, files, file, hr, hfiles, hmem, hname, rfl⟩

/-! ## What operations that end well have exchanged -/

namespace Operation

variable {exchanges : List Exchange} {result : Except OperationFault Response}

/-- An operation goes on with a listing that can be read, or stops. -/
theorem leads_reading {n : Nat} {α : Type} {listing : Except NumberError α} {next : α → Operation n}
    (h : (reading listing next).Leads exchanges result) :
    (∃ a, listing = .ok a ∧ (next a).Leads exchanges result) ∨ ∃ fault, result = .error fault := by
  cases listing with
  | ok a => exact Or.inl ⟨a, rfl, h⟩
  | error e =>
      cases h
      exact Or.inr ⟨_, rfl⟩

/-- An operation that ends with a fault does not end well. -/
theorem not_succeeded_of_error {q : Request} (h : ∃ fault, result = .error fault) :
    (Orchestrator.responseOf q result).outcome.succeeded = false := by
  obtain ⟨fault, rfl⟩ := h
  cases q <;> rfl

/-- A failure does not succeed. -/
theorem Fails.not_succeeded {failed : String → Response} {q : Request} (h : Fails failed result)
    (hfailed : ∀ text, (failed text).outcome.succeeded = false) :
    (Orchestrator.responseOf q result).outcome.succeeded = false := by
  rcases h with ⟨text, rfl⟩ | herror
  · exact hfailed text
  · exact not_succeeded_of_error herror

/-- A start that succeeds is one exchange, which ended well. -/
theorem starts_of_leads {filters : CaptureFilters} {q : Request}
    (leads : (startCapture s node capture filters).Leads exchanges result)
    (succeeded : (Orchestrator.responseOf q result).outcome.succeeded = true) :
    ∃ started, exchanges = [started] ∧ Starts s node capture started := by
  rw [startCapture] at leads
  rcases leads_attempt leads with ⟨r, rest, hr, rfl, leads₁⟩ | ⟨reply, -, -, hfails⟩
  · cases leads₁
    exact ⟨_, rfl, filters, r, hr, rfl⟩
  · rw [hfails.not_succeeded fun _ => rfl] at succeeded
    cases succeeded

/-- A stop that succeeds found the process, ended it, and found the file. -/
theorem stops_of_leads {q : Request} (leads : (stopCapture s node capture).Leads exchanges result)
    (succeeded : (Orchestrator.responseOf q result).outcome.succeeded = true) :
    ∃ pid listed killed found, exchanges = [found, killed, listed]
      ∧ ListsProcess s node capture pid listed ∧ Kills s node pid killed
      ∧ ListsFile s node capture found := by
  cases result with
  | error fault =>
      rw [not_succeeded_of_error ⟨fault, rfl⟩] at succeeded
      cases succeeded
  | ok response =>
      obtain ⟨pid, listed, killed, found, file, rfl, finds, kills, shows, -⟩ :=
        (stopGoes_of_leads leads).succeeds succeeded
      exact ⟨pid, listed, killed, found, rfl, finds.lists, kills, shows.lists⟩

/-- Whichever way the client version is found, a copy that goes well is the last
    call of a download that ends well. -/
theorem copies_of_leads {path : String} {q : Request}
    (leads : (download s node capture path).Leads exchanges result)
    (succeeded : (Orchestrator.responseOf q result).outcome.succeeded = true) :
    ∃ copied ∈ exchanges, Copies s node capture copied := by
  -- each way through the operation ends with a copy, or with a fault, which is no success
  have copied : ∀ {n : Nat} {target : LocalPath} {retries : Bool} {failed : String → Response}
      {finished : Response} {exchanges : List Exchange},
      (∀ text, (failed text).outcome.succeeded = false) →
      (attempt (s.copyFile node capture target retries) failed
        (fun _ => respond finished) : Operation (n + 1)).Leads exchanges result →
      ∃ copied ∈ exchanges, Copies s node capture copied := by
    intro n target retries failed finished exchanges hfailed leads
    rcases leads_attempt leads with ⟨r, rest, hr, rfl, -⟩ | ⟨reply, -, -, hfails⟩
    · exact ⟨_, List.mem_append_right _ (List.mem_singleton_self _), target, retries, r, hr, rfl⟩
    · rw [hfails.not_succeeded hfailed] at succeeded
      cases succeeded
  have stopped : ∀ {n : Nat} {fault : OperationFault} {exchanges : List Exchange},
      (stop fault : Operation n).Leads exchanges result →
      ∃ copied ∈ exchanges, Copies s node capture copied := by
    rintro n fault exchanges ⟨⟩
    rw [not_succeeded_of_error ⟨fault, rfl⟩] at succeeded
    cases succeeded
  rw [download] at leads
  cases leads with
  | resolve leads₁ =>
      rename_i resolved
      cases resolved with
      | error fault => exact stopped leads₁
      | ok target =>
          cases leads₁ with
          | makeDirectories leads₂ =>
              rename_i fault
              cases fault with
              | some e =>
                  cases leads₂
                  cases succeeded
              | none =>
                  cases leads₂ with
                  | consult leads₃ =>
                      rename_i known
                      obtain ⟨version, nesting⟩ := known
                      cases version with
                      | some version => exact copied (fun _ => rfl) leads₃
                      | none =>
                          cases leads₃ with
                          | call leads₄ =>
                              rename_i reply later
                              have found : ∃ copied ∈ later, Copies s node capture copied := by
                                cases reply with
                                | exited r =>
                                    dsimp only at leads₄
                                    split at leads₄
                                    · split at leads₄
                                      · exact stopped leads₄
                                      · cases leads₄ with
                                        | rememberVersion leads₅ =>
                                            exact copied (fun _ => rfl) leads₅
                                    · exact copied (fun _ => rfl) leads₄
                                | transportError text => exact copied (fun _ => rfl) leads₄
                                | crashed text => exact stopped leads₄
                              obtain ⟨e, he, hcopies⟩ := found
                              exact ⟨e, List.mem_append_left _ he, hcopies⟩

end Operation

/-! ## What a node shows -/

/-- No capture of a node was downloaded, and none is being downloaded. -/
def Node.Fresh (n : Node) : Prop := ∀ c ∈ n.captures, c.status = .completed

theorem Node.fresh_empty : ({} : Node).Fresh := fun _ h => absurd h List.not_mem_nil

/-- Whether captures are fresh is told by the captures. -/
theorem Node.Alike.fresh {n n' : Node} (h : n'.Alike n) (fresh : n.Fresh) : n'.Fresh := by
  rw [Node.Fresh, h.captures]
  exact fresh

/-- Where all captures are fresh, none is being downloaded. -/
theorem Node.Fresh.calm {n : Node} (h : n.Fresh) : n.Calm := by
  intro c hc hstatus
  cases (h c hc).symm.trans hstatus

namespace Station

variable {st st' : Station} {i : Intent}

/-- Carrying an intent out makes some exchanges. -/
theorem Takes.follows (h : st.Takes i st') : ∃ exchanges, st.Follows exchanges st' := by
  obtain ⟨exchanges, follows, -⟩ := h.calls
  exact ⟨exchanges, follows⟩

/-- Only a download ends with a capture that was downloaded. -/
theorem Takes.fresh (h : st.Takes i st') (hi : ∀ name capture path, i ≠ .download name capture path)
    (fresh : (st.session.stateOf node).Fresh) : (st'.session.stateOf node).Fresh := by
  rcases h.stateOf node with alike | ⟨r, between, response, begins, -, -, answers, hset⟩
  · exact alike.fresh fresh
  have hkind : r.kind ≠ .download := by
    intro hkind
    cases begins with
    | download => exact hi _ _ _ rfl
    | _ => cases hkind
  rw [Session.stateOf_of_some _ _ hset]
  intro c hc
  rcases Response.mem_captures_update hc with ⟨hold, -⟩ | hcompleted | ⟨-, o, name, path, rfl, -⟩
  · rw [Node.captures_mark hkind] at hold
    exact fresh c hold
  · exact hcompleted
  · exact absurd answers.kind.symm hkind

/-- A capture runs on a node that was ready only if it was started. -/
theorem Takes.starts (h : st.Takes (.startCapture node capture) st')
    (ready : (st.session.stateOf node).Ready)
    (running : (st'.session.stateOf node).status = .captureRunning) :
    (st'.session.stateOf node).captureName = some capture
      ∧ ∃ started, st.Follows [started] st' ∧ Starts st.settings node capture started := by
  rcases h.leads node with
    ⟨alike, -⟩ | ⟨r, between, result, exchanges, begins, mine, -, leads, follows, hset⟩
  · cases running.symm.trans (alike.ready ready)
  rw [Session.stateOf_of_some _ _ hset] at running ⊢
  cases begins with
  | startCapture =>
      have answers := answers_of_leads leads
      cases hresponse : Orchestrator.responseOf (.startCapture node capture _) result with
      | captureStarted outcome name =>
          rw [hresponse] at running
          cases hok : outcome.succeeded with
          | false =>
              simp only [Response.update, Node.settleStart, hok] at running
              cases running
          | true =>
              obtain ⟨started, rfl, hstarts⟩ :=
                Operation.starts_of_leads leads (by rw [hresponse]; exact hok)
              refine ⟨?_, started, follows, hstarts⟩
              simp only [Response.update, Node.settleStart, hok, if_true]
              rfl
      | _ =>
          rw [hresponse] at answers
          exact answers.elim

/-- The debug pod runs on after a capture only if the capture was stopped. -/
theorem Takes.stops (h : st.Takes (.stopCapture node) st')
    (running : (st.session.stateOf node).status = .captureRunning)
    (current : (st.session.stateOf node).captureName = some capture)
    (ready : (st'.session.stateOf node).Ready) :
    ∃ pid listed killed found, st.Follows [found, killed, listed] st'
      ∧ ListsProcess st.settings node capture pid listed ∧ Kills st.settings node pid killed
      ∧ ListsFile st.settings node capture found := by
  rcases h.leads node with
    ⟨alike, -⟩ | ⟨r, between, result, exchanges, begins, mine, fits, leads, follows, hset⟩
  · cases ready.symm.trans (alike.status.trans running)
  rw [Node.Ready, Session.stateOf_of_some _ _ hset] at ready
  cases begins with
  | stopCapture here fits' current' named =>
      rename_i name n
      obtain rfl : capture = name := Option.some.inj (current.symm.trans fits.2)
      have answers := answers_of_leads leads
      cases hresponse : Orchestrator.responseOf (.stopCapture node capture) result with
      | captureStopped outcome name file =>
          rw [hresponse] at ready
          cases hok : outcome.succeeded with
          | false =>
              simp only [Response.update, Node.settleStop, hok] at ready
              cases ready
          | true =>
              obtain ⟨pid, listed, killed, found, rfl, hstops⟩ :=
                Operation.stops_of_leads leads (by rw [hresponse]; exact hok)
              exact ⟨pid, listed, killed, found, follows, hstops⟩
      | _ =>
          rw [hresponse] at answers
          exact answers.elim

/-- A capture was downloaded from a node where none was before only if its file
    was copied. -/
theorem Takes.copies {path : String} (h : st.Takes (.download node capture path) st')
    (fresh : (st.session.stateOf node).Fresh) {c : Capture}
    (hc : c ∈ (st'.session.stateOf node).captures) (downloaded : c.status = .downloaded) :
    ∃ exchanges, st.Follows exchanges st'
      ∧ ∃ copied ∈ exchanges, Copies st.settings node capture copied := by
  rcases h.leads node with
    ⟨alike, -⟩ | ⟨r, between, result, exchanges, begins, mine, -, leads, follows, hset⟩
  · cases (alike.fresh fresh c hc).symm.trans downloaded
  rw [Session.stateOf_of_some _ _ hset] at hc
  cases begins with
  | download =>
      refine ⟨exchanges, follows, ?_⟩
      rcases Response.mem_captures_update hc with
        ⟨hold, -⟩ | hcompleted | ⟨-, o, name, target, hresponse, hok⟩
      · -- the mark of the download is not that of its end
        obtain ⟨before, hbefore, rfl⟩ := List.mem_map.mp hold
        split at downloaded
        · cases downloaded
        · cases (fresh before hbefore).symm.trans downloaded
      · cases hcompleted.symm.trans downloaded
      · exact Operation.copies_of_leads leads (by rw [hresponse]; exact hok)

end Station

namespace Errand

variable {kubectl : Kubectl} {base : List Exchange} {st : Station} {o : RunOptions}

/-- An errand that takes a capture ends well only where the capture was taken. -/
theorem capture_takes {now : Moment} {wakes : Binary64 → Bool}
    (hst : st.Stands s base (Meanwhile o.node fun _ n => n.Ready ∧ n.Fresh)) :
    (Errand.capture kubectl now wakes o).After st
      (fun _ => Station.Stands s base
        (Meanwhile o.node fun later n => n.Ready ∧ Taken s o.node later))
      (fun _ => True) := by
  obtain ⟨ready, fresh⟩ := hst.state
  refine after_bind (after_node ?_)
  refine after_bind (after_say ?_)
  refine after_bind (after_carryOut hst.idle (fun _ => trivial) ?_)
  intro st₁ started
  refine after_bind (after_node ?_)
  refine after_unless (fun _ => trivial) ?_
  intro hrunning
  have running := not_not.mp hrunning
  obtain ⟨current, start, follows₁, hstart⟩ := started.starts ready running
  -- the start is in the exchanges; the stop and the copy will stand in front of it, in this order
  have h₁ : st₁.Stands s base (Meanwhile o.node fun later n => n.Fresh
      ∧ ∃ started, Starts s o.node now.captureName started ∧ [started].Sublist later) := by
    refine hst.takes started (by rintro _ ⟨⟩) fun later exchanges follows _ => ?_
    obtain rfl := follows.unique follows₁
    rw [hst.settings] at hstart
    exact ⟨started.fresh (by rintro _ _ _ ⟨⟩) fresh, start, hstart, List.sublist_append_left _ _⟩
  refine after_bind (after_say ?_)
  refine after_bind (after_wait ?_ fun _ => trivial)
  refine after_bind (after_carryOut h₁.idle (fun _ => trivial) ?_)
  intro st₂ stopped
  refine after_bind (after_node ?_)
  refine after_unless (fun _ => trivial) ?_
  intro hready
  obtain ⟨pid, listed, killed, found, follows₂, hlisted, hkilled, hfound⟩ :=
    stopped.stops running current (not_not.mp hready)
  rw [h₁.settings] at hlisted hkilled hfound
  have h₂ : st₂.Stands s base (Meanwhile o.node fun later n => n.Ready ∧ n.Fresh
      ∧ Stopped s o.node now.captureName later) := by
    refine h₁.takes stopped (by rintro _ ⟨⟩) fun later exchanges follows hlater => ?_
    obtain ⟨fresh, start, hstart, order⟩ := hlater
    obtain rfl := follows.unique follows₂
    exact ⟨not_not.mp hready, stopped.fresh (by rintro _ _ _ ⟨⟩) fresh, pid, start, listed, killed,
      found, hstart, hlisted, hkilled, hfound,
      (List.Sublist.refl [found, killed, listed]).append order⟩
  refine after_bind ((keeps_forM (fun _ => keeps_say) st₂ h₂).mono ?_ (fun _ _ => trivial))
  intro _ st₃ h₃
  refine after_bind (after_get fun c _ => ?_)
  refine after_bind (after_carryOut h₃.idle (fun _ => trivial) ?_)
  intro st₄ downloaded
  refine after_bind (after_node ?_)
  split
  · next name size path hfind =>
      refine after_say (h₃.takes downloaded (by rintro _ ⟨⟩)
        fun later exchanges follows hlater => ?_)
      obtain ⟨ready, fresh, pid, start, listed, killed, found, hstart, hlisted, hkilled, hfound,
        order⟩ := hlater
      obtain ⟨exchanges', follows₄, copied, hmem, hcopied⟩ :=
        downloaded.copies fresh (List.mem_of_find?_eq_some hfind) rfl
      obtain rfl := follows.unique follows₄
      rw [h₃.settings] at hcopied
      exact ⟨downloaded.downloaded ready, now.captureName, pid, start, listed,
        killed, found, copied,
        hstart, hlisted, hkilled, hfound, hcopied, (List.singleton_sublist.mpr hmem).append order⟩
  · exact after_fail trivial

/-- The debug pod of a node that is ready is deleted. -/
theorem removePod_deletes {φ : List Exchange → Prop}
    (hst : st.Stands s base (Meanwhile node fun later n => n.Ready ∧ φ later)) :
    (removePod kubectl node).After st
      (fun _ => Station.Stands s base fun later _ =>
        ∃ exchanges before, later = exchanges ++ before ∧ φ before
          ∧ ∃ e ∈ exchanges, e.call = s.deletePod node)
      (fun _ => True) := by
  obtain ⟨later, hlater, meanwhile⟩ := hst.since
  have ready : (st.session.stateOf node).status = .podRunning := meanwhile.state.1
  -- there is nothing to do before
  have skips : ∀ {status : NodeStatus} {i : Intent} {next : Unit → Errand Unit}
      {ok : Unit → Station → Prop}, status ≠ .podRunning →
      (next ()).After st ok (fun _ => True) →
      (Errand.node node >>= fun n =>
        if n.status = status then carryOut kubectl i >>= next else next ()).After st ok
          (fun _ => True) := by
    intro status i next ok hstatus hnext
    refine after_bind (after_node (after_when ?_ fun _ => hnext))
    exact fun h => absurd (h.symm.trans ready) hstatus
  refine skips (by decide) (skips (by decide) (skips (by decide) ?_))
  refine after_carryOut hst.idle (fun _ => trivial) ?_
  intro st' deleted
  obtain ⟨r, between, result, exchanges, begins, leads, follows, -⟩ :=
    deleted.begun (Orchestrator.deletion_accepted ready hst.calm)
  cases begins with
  | deletePod =>
      rw [hst.settings, Operation.ofRequest] at leads
      exact hst.follows follows fun later hlater =>
        ⟨exchanges, later, rfl, hlater.state.2, Operation.mem_of_leads_deletePod leads⟩

/-- What a station has come to while nothing was downloaded. -/
def Undownloaded (node : String) (_ : List Exchange) (session : Session) : Prop :=
  (session.stateOf node).Fresh

/-- The preparation of a debug pod ends well only where the pod is ready. -/
theorem preparePod_readies (hst : st.Stands s [] (Undownloaded node)) :
    (preparePod kubectl node).After st
      (fun _ st' => st'.Stands s [] (Undownloaded node)
        ∧ (st'.session.stateOf node).status = .podRunning)
      (fun _ => True) := by
  have takes : ∀ {st st' : Station} {i : Intent},
      (∀ name capture path, i ≠ .download name capture path) →
      st.Stands s [] (Undownloaded node) → st.Takes i st' →
      st'.Stands s [] (Undownloaded node) := by
    intro st st' i hi h takes
    obtain ⟨exchanges, follows⟩ := takes.follows
    exact h.follows follows fun _ fresh => takes.fresh hi fresh
  exact after_preparePod hst (takes (by rintro _ _ _ ⟨⟩)) (takes (by rintro _ _ _ ⟨⟩))
    (fun h _ => takes (by rintro _ _ _ ⟨⟩) h) (fun h => h) (fun _ => trivial) (fun _ _ => trivial)

/-- The run of a capture ends well only where a capture was taken. -/
theorem runCapture_takes (kubectl : Kubectl) (now : Moment) (wakes : Binary64 → Bool)
    (o : RunOptions) (hst : st.Stands s [] (Undownloaded o.node)) :
    (runCapture kubectl now wakes o).After st (fun _ st' => TakesCapture s o st'.bench.exchanges)
      (fun _ => True) := by
  refine after_bind ((preparePod_readies hst).mono ?_ fun _ h => h)
  rintro _ st₁ ⟨prepared, ready⟩
  obtain ⟨_, -, fresh⟩ := prepared.since
  have h₁ : st₁.Stands s st₁.bench.exchanges (Meanwhile o.node fun _ n => n.Ready ∧ n.Fresh) :=
    (prepared.behind fresh.calm ready).weaken fun _ ready => ⟨ready, fresh⟩
  have keeps : ∀ {i : Intent}, i.isAside → (carryOut kubectl i).Keeps
      (Station.Stands s st₁.bench.exchanges (Meanwhile o.node fun _ n => n.Ready ∧ n.Fresh)) :=
    keeps_aside fun alike h => ⟨alike.ready h.1, alike.fresh h.2⟩
  refine after_bind ((keeps rfl st₁ h₁).mono ?_ fun _ _ => trivial)
  intro _ st₂ h₂
  have captured : (setFilters kubectl o >>= fun _ => Errand.capture kubectl now wakes o).After st₂
      (fun _ => Station.Stands s st₁.bench.exchanges
        (Meanwhile o.node fun later n => n.Ready ∧ Taken s o.node later)) (fun _ => True) :=
    after_bind ((setFilters_keeps keeps o st₂ h₂).mono (fun _ _ h => capture_takes h)
      fun _ _ => trivial)
  cases hkeeps : o.keepsPod with
  | true =>
      simp only [if_true]
      refine captured.mono ?_ fun _ h => h
      intro _ st' h
      obtain ⟨later, hlater, meanwhile⟩ := h.since
      exact ⟨[], _, hlater, meanwhile.state.2.append _,
        fun hremoves => nomatch hkeeps.symm.trans hremoves⟩
  | false =>
      simp only [Bool.false_eq_true, if_false]
      refine after_withLast captured ?_ (fun _ _ => after_anything) fun _ h => h
      intro _ st₃ h₃
      refine after_bind (after_say ((removePod_deletes h₃).mono ?_ fun _ h => h))
      intro _ st' h
      obtain ⟨later, hlater, exchanges, before, rfl, taken, hdeletes⟩ := h.since
      exact ⟨exchanges, _, by rw [hlater, List.append_assoc], taken.append _, fun _ => hdeletes⟩

end Errand

end NodeCapture
