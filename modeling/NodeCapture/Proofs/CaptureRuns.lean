import NodeCapture.CommandLine.Capturing
import NodeCapture.Proofs.ActionableCaptures
import NodeCapture.Proofs.Errands

/-! # Runs of a capture, step by step

    While a capture is run, a station stands behind some exchanges
    (`Station.Stands`): those that were made since, and the session that they
    led to, have a property.  Between the steps the node is ready, its capture
    runs, or it is at rest; whichever intents are carried out, no manifest is
    applied but by the creation of the debug pod, and no download stays under
    way. -/

namespace NodeCapture

/-- No download is under way on a node. -/
def Node.Calm (n : Node) : Prop := ∀ c ∈ n.captures, c.status ≠ .downloading

namespace Node

variable {n n' : Node}

/-- Whether a download is under way is told by the captures. -/
theorem Calm.of_captures (h : n.Calm) (hcaptures : n'.captures = n.captures) : n'.Calm := by
  rw [Calm, hcaptures]
  exact h

theorem calm_empty : ({} : Node).Calm := fun _ h => absurd h List.not_mem_nil

/-- The end of a download is that of the one that was begun. -/
theorem Calm.updateCapture {capture : String} {f g : Capture → Capture} (h : n.Calm)
    (hf : ∀ c, (f c).name = c.name) (hg : ∀ c, (g c).status ≠ .downloading)
    (hcaptures : n'.captures = ((n.updateCapture capture f).updateCapture capture g).captures) :
    n'.Calm := by
  rw [Calm, hcaptures]
  simp only [Node.updateCapture, List.map_map, List.forall_mem_map, Function.comp_apply]
  intro c hc
  by_cases hname : c.name = capture
  · rw [if_pos hname, if_pos ((hf c).trans hname)]
    exact hg _
  · rw [if_neg hname, if_neg hname]
    exact h c hc

/-- Only a download marks a capture. -/
theorem captures_mark {r : Request} (h : r.kind ≠ .download) :
    (r.mark n).captures = n.captures := by
  cases r with
  | download => exact absurd rfl h
  | _ => rfl

/-- Settling an operation marks nothing as downloading. -/
theorem Calm.update {response : Response} (h : n.Calm) : (response.update n).Calm := by
  intro c hc
  rcases Response.mem_captures_update hc with ⟨hold, -⟩ | hcompleted | ⟨hdownloaded, -⟩
  · exact h c hold
  · rw [hcompleted]
    decide
  · rw [hdownloaded]
    decide

/-- An operation that is carried out leaves no download under way. -/
theorem Calm.carried {r : Request} {response : Response} (h : n.Calm)
    (answers : response.Answers r) : (response.update (r.mark n)).Calm := by
  by_cases hdownload : r.kind = .download
  · cases r with
    | download node capture path =>
        cases response with
        | downloaded o node capture path =>
            obtain ⟨-, rfl⟩ := answers
            simp only [Response.update, settleDownload]
            split
            · exact h.updateCapture (f := fun c => { c with status := .downloading })
                (g := fun c => { c with status := .downloaded, localPath := path })
                (fun _ => rfl) (fun _ => by simp) rfl
            · exact h.updateCapture (f := fun c => { c with status := .downloading })
                (g := fun c => { c with status := .completed, localPath := none })
                (fun _ => rfl) (fun _ => by simp) rfl
        | _ => exact answers.elim
    | _ => cases hdownload
  · exact (h.of_captures (captures_mark hdownload)).update

end Node

namespace Orchestrator

variable {o : Orchestrator} {node : String}

/-- A node that has a state is found in any status that fits. -/
theorem nodeIn?_of_stateOf {statuses : NodeStatus → Bool} (has : o.session.hasNode node)
    (fits : statuses (o.session.stateOf node).status) :
    o.nodeIn? node statuses = some (o.session.stateOf node) := by
  obtain ⟨n, hn⟩ := (Session.hasNode_iff _ _).mp has
  rw [Session.stateOf_of_some _ _ hn] at fits ⊢
  exact nodeIn?_eq_some.mpr ⟨hn, fits⟩

/-- A node with a state of which nothing is known can be checked. -/
theorem check_accepted (has : o.session.hasNode node)
    (unknown : (o.session.stateOf node).status = .unknown) : o.Accepts (.checkNode node) := by
  have hknows : o.knows node = true := by
    rw [knows, Session.knows, has]
    rfl
  have hsame : o.session.ensureNode node = o.session := by rw [Session.ensureNode, if_pos has]
  have hn : (o.publish (o.session.ensureNode node)).nodeIn? node (· == .unknown)
      = some (o.session.stateOf node) := by
    rw [hsame]
    exact nodeIn?_of_stateOf (o := o.publish o.session) has (beq_iff_eq.mpr unknown)
  simp only [Accepts, perform, beginCheck, hknows, if_true, hn]
  exact ⟨_, _, rfl⟩

/-- The debug pod of a clean node can be created. -/
theorem creation_accepted (clean : (o.session.stateOf node).status = .clean) :
    o.Accepts (.createPod node) := by
  have here := Session.node?_eq_some_stateOf o.session node (by rw [clean]; decide)
  have hn : o.nodeIn? node (· == .clean) = some (o.session.stateOf node) :=
    nodeIn?_eq_some.mpr ⟨here, by simpa using clean⟩
  simp only [Accepts, perform, beginCreation, hn]
  exact ⟨_, _, rfl⟩

/-- A debug pod can be deleted while no capture runs and nothing is downloaded. -/
theorem deletion_accepted (running : (o.session.stateOf node).status = .podRunning)
    (calm : (o.session.stateOf node).Calm) : o.Accepts (.deletePod node) := by
  have here := Session.node?_eq_some_stateOf o.session node (by rw [running]; decide)
  have hn : o.nodeIn? node (· == .podRunning) = some (o.session.stateOf node) :=
    nodeIn?_eq_some.mpr ⟨here, by simpa using running⟩
  have hcalm : (o.session.stateOf node).captures.any (fun c => c.status == .downloading)
      = false := by
    simpa [Node.Calm] using calm
  simp only [Accepts, perform, beginDeletion, hn, hcalm]
  exact ⟨_, _, rfl⟩

/-- A running capture can be stopped if its name is fit for a request. -/
theorem stop_accepted {capture : String}
    (running : (o.session.stateOf node).status = .captureRunning)
    (current : (o.session.stateOf node).captureName = some capture) :
    (o.Accepts (.stopCapture node) ↔ isCaptureName capture)
      ∧ (o.Raises (.stopCapture node) ↔ ¬isCaptureName capture) := by
  have here := Session.node?_eq_some_stateOf o.session node (by rw [running]; decide)
  exact stop_accepted_iff here running current

end Orchestrator

/-- No manifest was applied. -/
def Unapplied (exchanges : List Exchange) : Prop := ∀ e ∈ exchanges, ¬e.call.Applies

theorem unapplied_nil : Unapplied [] := fun _ h => absurd h List.not_mem_nil

/-- Exchanges without a manifest may be followed by others. -/
theorem Unapplied.append {later before : List Exchange} (hlater : Unapplied later)
    (hbefore : Unapplied before) : Unapplied (later ++ before) :=
  List.forall_mem_append.mpr ⟨hlater, hbefore⟩

namespace Station

variable {s : Settings} {base exchanges : List Exchange} {node : String} {st st' : Station}
  {i : Intent} {P P' : List Exchange → Session → Prop}

/-- A station stands behind some exchanges, with nothing outstanding: what was
    exchanged since then and the session have a property. -/
structure Stands (s : Settings) (base : List Exchange) (P : List Exchange → Session → Prop)
    (st : Station) : Prop where
  settings : st.settings = s
  idle : st.orchestrator.outstanding = []
  since : ∃ later, st.bench.exchanges = later ++ base ∧ P later st.session

/-- A station that has made more exchanges stands behind these as well. -/
theorem Stands.follows (h : st.Stands s base P) (follows : st.Follows exchanges st')
    (hP : ∀ later, P later st.session → P' (exchanges ++ later) st'.session) :
    st'.Stands s base P' := by
  obtain ⟨later, hlater, hsince⟩ := h.since
  refine ⟨follows.settings.trans h.settings, follows.idle, exchanges ++ later, ?_, hP later hsince⟩
  rw [follows.exchanges, hlater, List.append_assoc]

/-- A station stands behind whatever follows from what it stands behind. -/
theorem Stands.mono (h : st.Stands s base P)
    (hP : ∀ later, P later st.session → P' later st.session) : st.Stands s base P' := by
  obtain ⟨later, hlater, hsince⟩ := h.since
  exact ⟨h.settings, h.idle, later, hlater, hP later hsince⟩

/-- The response that ends an operation answers its request. -/
theorem answers_of_leads {r : Request} {result : Except OperationFault Response}
    (leads : (Operation.ofRequest s r).Leads exchanges result) :
    (Orchestrator.responseOf r result).Answers r :=
  (Request.Yields.ended leads.mayEnd).answers

/-- An intent that is accepted is carried out at its node. -/
theorem Takes.begun (h : st.Takes i st') (accepted : st.orchestrator.Accepts i) :
    ∃ r between result exchanges, st.session.Begins i r between
      ∧ (Operation.ofRequest st.settings r).Leads exchanges result ∧ st.Follows exchanges st'
      ∧ ∀ node, r.node? = some node → r.kind ≠ .listPods → st'.session.node? node
          = some ((Orchestrator.responseOf r result).update
            (r.mark (st.session.stateOf node))) := by
  cases h with
  | stayed declined => exact absurd accepted declined
  | carried begins leads session follows =>
      refine ⟨_, _, _, _, begins, leads, follows, ?_⟩
      intro node mine hpods
      rw [session]
      rcases begins.stateOf_fold (answers_of_leads leads) node with ⟨-, other⟩ | ⟨-, -, hset⟩
      · exact absurd (other mine) hpods
      · exact hset

/-- What an intent does to a node: nothing, because it stays undone or is
    carried out elsewhere, or it is carried out there. -/
theorem Takes.leads (h : st.Takes i st') (node : String) :
    ((st'.session.stateOf node).Alike (st.session.stateOf node)
        ∧ (st.Follows [] st' ∨ ∃ r between, st.session.Begins i r between
            ∧ (r.node? = some node → r.kind = .listPods)))
      ∨ ∃ r between result exchanges, st.session.Begins i r between ∧ r.node? = some node
          ∧ r.Fits (st.session.stateOf node)
          ∧ (Operation.ofRequest st.settings r).Leads exchanges result ∧ st.Follows exchanges st'
          ∧ st'.session.node? node = some
              ((Orchestrator.responseOf r result).update (r.mark (st.session.stateOf node))) := by
  cases h with
  | stayed declined session follows =>
      refine Or.inl ⟨?_, Or.inl follows⟩
      rcases session with session | adjusts
      · rw [session]
        exact .refl _
      · obtain ⟨selection, hstate⟩ := adjusts.stateOf node
        rw [hstate]
        exact ⟨rfl, rfl, rfl⟩
  | carried begins leads session follows =>
      rw [session]
      rcases begins.stateOf_fold (answers_of_leads leads) node with
        ⟨alike, other⟩ | ⟨mine, fits, hset⟩
      · exact Or.inl ⟨alike, Or.inr ⟨_, _, begins, other⟩⟩
      · exact Or.inr ⟨_, _, _, _, begins, mine, fits, leads, follows, hset⟩

/-- What an intent does to the state of a node: nothing that matters, or the
    settling of a request that was made for the node. -/
theorem Takes.stateOf (h : st.Takes i st') (node : String) :
    (st'.session.stateOf node).Alike (st.session.stateOf node)
      ∨ ∃ r between, ∃ response : Response, st.session.Begins i r between ∧ r.node? = some node
          ∧ r.Fits (st.session.stateOf node) ∧ response.Answers r
          ∧ st'.session.node? node
              = some (response.update (r.mark (st.session.stateOf node))) := by
  rcases h.leads node with
    ⟨alike, -⟩ | ⟨r, between, result, exchanges, begins, mine, fits, leads, follows, hset⟩
  · exact Or.inl alike
  · exact Or.inr ⟨r, between, _, begins, mine, fits, answers_of_leads leads, hset⟩

/-- A node never loses its state. -/
theorem Takes.hasNode (h : st.Takes i st') (has : st.session.hasNode node) :
    st'.session.hasNode node := by
  obtain ⟨n, hn⟩ := (Session.hasNode_iff _ _).mp has
  rw [Session.hasNode_iff]
  cases h with
  | stayed declined session follows =>
      rcases session with session | adjusts
      · exact ⟨n, session ▸ hn⟩
      · rcases adjusts.node?_cases node with hsame | ⟨hnone, -⟩ | ⟨n', selection, -, hset⟩
        · exact ⟨n, hsame.trans hn⟩
        · rw [hnone] at hn
          cases hn
        · exact ⟨_, hset⟩
  | carried begins leads session follows =>
      rename_i r between exchanges result
      obtain ⟨n', hn'⟩ : ∃ n', between.node? node = some n' := by
        rcases begins.node?_cases node with ⟨hsame, -⟩ | ⟨-, -, hset⟩
        · exact ⟨n, hsame.trans hn⟩
        · exact ⟨_, hset⟩
      rw [session]
      rcases Session.node?_fold_cases between (Orchestrator.responseOf r result) node with
        hsame | ⟨-, m, -, hset⟩ | ⟨-, hnone, -⟩
      · exact ⟨n', hsame.trans hn'⟩
      · exact ⟨_, hset⟩
      · rw [hnone] at hn'
        cases hn'

/-- Carrying an intent out leaves no download under way. -/
theorem Takes.calm (h : st.Takes i st') (calm : (st.session.stateOf node).Calm) :
    (st'.session.stateOf node).Calm := by
  rcases h.stateOf node with alike | ⟨r, between, response, -, -, -, answers, hset⟩
  · exact calm.of_captures alike.captures
  · rw [Session.stateOf_of_some _ _ hset]
    exact calm.carried answers

/-- What is called while an intent is carried out is called for its request. -/
theorem Takes.calls (h : st.Takes i st') :
    ∃ exchanges, st.Follows exchanges st' ∧ ∀ e ∈ exchanges, ∃ q between,
      st.session.Begins i q between ∧ q.MayCall st.settings e.call := by
  cases h with
  | stayed declined session follows =>
      exact ⟨[], follows, fun e he => absurd he List.not_mem_nil⟩
  | carried begins leads session follows =>
      exact ⟨_, follows, fun e he => ⟨_, _, begins,
        (Operation.ofRequest_mayCall st.settings _).of_leads leads e he⟩⟩

/-- Only the creation of a debug pod applies a manifest. -/
theorem Takes.unapplied (h : st.Takes i st') (hi : ∀ node, i ≠ .createPod node) :
    ∃ exchanges, st.Follows exchanges st' ∧ Unapplied exchanges := by
  obtain ⟨exchanges, follows, calls⟩ := h.calls
  refine ⟨exchanges, follows, ?_⟩
  intro e he applies
  obtain ⟨q, between, begins, hcall⟩ := calls e he
  have hkind := hcall.of_applies applies
  cases begins <;> first | exact hi _ rfl | cases hkind

end Station

/-- An intent lists something or needs no operation. -/
def Intent.isAside (i : Intent) : Bool :=
  match i with
  | .listNodes | .listPods _ => true
  | i => !i.isRemote

/-- What is asked for aside changes no status, name or capture. -/
theorem Station.Takes.alike {st st' : Station} {i : Intent} (h : st.Takes i st')
    (aside : i.isAside) (node : String) :
    (st'.session.stateOf node).Alike (st.session.stateOf node) := by
  rcases h.stateOf node with alike | ⟨r, between, response, begins, mine, -, answers, hset⟩
  · exact alike
  · cases begins with
    | listNodes => cases mine
    | listPods =>
        have halike := response.effect_alike answers.kind node (st.session.stateOf node)
        rw [Session.stateOf_of_some _ _ hset]
        cases response with
        | podsListed => exact halike
        | _ => exact answers.elim
    | _ => cases aside

/-- What holds at a node while no manifest is applied: it has a state, nothing
    is being downloaded, and the exchanges and the state have a property. -/
structure Meanwhile (node : String) (φ : List Exchange → Node → Prop) (later : List Exchange)
    (session : Session) : Prop where
  unapplied : Unapplied later
  known : session.hasNode node
  calm : (session.stateOf node).Calm
  state : φ later (session.stateOf node)

namespace Node

/-- The debug pod runs, and no capture in it. -/
def Ready (n : Node) : Prop := n.status = .podRunning

theorem Alike.ready {n n' : Node} (h : n'.Alike n) (ready : n.Ready) : n'.Ready :=
  h.status.trans ready

/-- A capture runs that can be stopped. -/
structure Captures (n : Node) : Prop where
  status : n.status = .captureRunning
  named : ∃ capture, n.captureName = some capture ∧ isCaptureName capture

/-- The debug pod runs, and no capture in it, or nothing is known. -/
def AtRest (n : Node) : Prop := n.status = .podRunning ∨ n.status = .unknown

end Node

namespace Station

variable {s : Settings} {base : List Exchange} {node : String} {st st' : Station} {i : Intent}
  {φ ψ : List Exchange → Node → Prop}

/-- Carrying an intent out at a node leads from one property of it to another. -/
theorem Stands.takes (hst : st.Stands s base (Meanwhile node φ)) (h : st.Takes i st')
    (hi : ∀ name, i ≠ .createPod name)
    (hφ : ∀ later exchanges, st.Follows exchanges st' → φ later (st.session.stateOf node) →
      ψ (exchanges ++ later) (st'.session.stateOf node)) :
    st'.Stands s base (Meanwhile node ψ) := by
  obtain ⟨exchanges, follows, hnew⟩ := h.unapplied hi
  refine hst.follows follows ?_
  intro later hlater
  exact ⟨hnew.append hlater.unapplied, h.hasNode hlater.known, h.calm hlater.calm,
    hφ later exchanges follows hlater.state⟩

/-- A property of the node may be replaced by one that it implies there. -/
theorem Stands.weaken (hst : st.Stands s base (Meanwhile node φ))
    (hφ : ∀ later, φ later (st.session.stateOf node) → ψ later (st.session.stateOf node)) :
    st.Stands s base (Meanwhile node ψ) := by
  refine hst.mono ?_
  intro later hlater
  exact ⟨hlater.unapplied, hlater.known, hlater.calm, hφ later hlater.state⟩

/-- The node has a state meanwhile. -/
theorem Stands.known (hst : st.Stands s base (Meanwhile node φ)) : st.session.hasNode node := by
  obtain ⟨later, -, hlater⟩ := hst.since
  exact hlater.known

/-- Nothing is downloaded on the node meanwhile. -/
theorem Stands.calm (hst : st.Stands s base (Meanwhile node φ)) :
    (st.session.stateOf node).Calm := by
  obtain ⟨later, -, hlater⟩ := hst.since
  exact hlater.calm

/-- The node has its property meanwhile. -/
theorem Stands.state {φ : Node → Prop} (hst : st.Stands s base (Meanwhile node fun _ => φ)) :
    φ (st.session.stateOf node) := by
  obtain ⟨later, -, hlater⟩ := hst.since
  exact hlater.state

/-- Where the debug pod runs, a station stands behind all that was exchanged. -/
theorem Stands.behind {P : List Exchange → Session → Prop} (hst : st.Stands s base P)
    (calm : (st.session.stateOf node).Calm) (ready : (st.session.stateOf node).Ready) :
    st.Stands s st.bench.exchanges (Meanwhile node fun _ => Node.Ready) := by
  have known : st.session.hasNode node := by
    have here := Session.node?_eq_some_stateOf st.session node
      (by rw [show _ = _ from ready]; decide)
    exact (Session.hasNode_iff _ _).mpr ⟨_, here⟩
  exact ⟨hst.settings, hst.idle, [], rfl, unapplied_nil, known, calm, ready⟩

/-- What is asked for aside leaves a ready node ready. -/
theorem Takes.ready_of_aside (h : st.Takes i st') (aside : i.isAside)
    (ready : (st.session.stateOf node).Ready) : (st'.session.stateOf node).Ready :=
  (h.alike aside node).ready ready

/-- A start leads to a capture that can be stopped, or to nothing. -/
theorem Takes.started {capture : String} (h : st.Takes (.startCapture node capture) st')
    (ready : (st.session.stateOf node).Ready) :
    (st'.session.stateOf node).Ready ∨ (st'.session.stateOf node).Captures := by
  rcases h.stateOf node with alike | ⟨r, between, response, begins, -, -, answers, hset⟩
  · exact Or.inl (alike.status.trans ready)
  · rw [Session.stateOf_of_some _ _ hset]
    cases begins with
    | startCapture here fits named =>
        cases response with
        | captureStarted o name =>
            simp only [Response.update, Node.settleStart]
            split
            · exact Or.inr ⟨rfl, capture, rfl, named⟩
            · exact Or.inl rfl
        | _ => exact answers.elim

/-- A stop ends the capture, or leaves nothing known. -/
theorem Takes.stopped (h : st.Takes (.stopCapture node) st')
    (captures : (st.session.stateOf node).Captures) : (st'.session.stateOf node).AtRest := by
  obtain ⟨capture, current, named⟩ := captures.named
  obtain ⟨r, between, result, exchanges, begins, leads, -, hset⟩ :=
    h.begun ((Orchestrator.stop_accepted captures.status current).1.mpr named)
  cases begins with
  | stopCapture =>
      rw [Session.stateOf_of_some _ _ (hset node rfl (by rintro ⟨⟩))]
      have answers := answers_of_leads leads
      revert answers
      cases Orchestrator.responseOf _ result with
      | captureStopped o name file =>
          intro _
          simp only [Response.update, Node.settleStop]
          split
          · split
            · split
              · exact Or.inl rfl
              · exact Or.inr rfl
            · exact Or.inr rfl
          · exact Or.inr rfl
      | _ => exact False.elim

/-- A download leaves the debug pod as it is. -/
theorem Takes.downloaded {capture path : String} (h : st.Takes (.download node capture path) st')
    (ready : (st.session.stateOf node).Ready) : (st'.session.stateOf node).Ready := by
  rcases h.stateOf node with alike | ⟨r, between, response, begins, -, -, answers, hset⟩
  · exact alike.status.trans ready
  · rw [Session.stateOf_of_some _ _ hset, Node.Ready]
    cases begins with
    | download =>
        rw [Response.update_status (by rw [answers.kind]; rfl)]
        exact ready

end Station

namespace Errand

variable {α β : Type} {R W : Station → Prop}

/-- An errand keeps a property of the station, whether it ends well or fails.
    Where nothing else is said, it keeps the property in a wait as well. -/
def Keeps (e : Errand α) (R : Station → Prop) (W : Station → Prop := R) : Prop :=
  ∀ st, R st → e.After st (fun _ => R) R W

theorem keeps_pure (a : α) : (pure a : Errand α).Keeps R W := fun _ h => after_pure h

theorem keeps_fail (fault : CommandFault) : (fail fault : Errand α).Keeps R W :=
  fun _ h => after_fail h

/-- One errand after another keeps what both keep. -/
theorem keeps_bind {e : Errand β} {next : β → Errand α} (h : e.Keeps R W)
    (hnext : ∀ b, (next b).Keeps R W) : (e >>= next).Keeps R W :=
  fun st hst => after_bind
    ((h st hst).imp (fun b st' h' => hnext b st' h') (fun _ h' => h') (fun _ h' => h'))

theorem keeps_say {line : String} : (say line).Keeps R W := fun _ h => after_say h

/-- Going through a list keeps what each step keeps. -/
theorem keeps_forM {l : List β} {f : β → Errand Unit} (h : ∀ b, (f b).Keeps R W) :
    (l.forM f).Keeps R W := by
  induction l with
  | nil => exact keeps_pure _
  | cons b rest ih => exact keeps_bind (h b) fun _ => ih

theorem keeps_session : session.Keeps R W := fun _ h => after_session h

theorem keeps_node {name : String} : (Errand.node name).Keeps R W := fun _ h => after_node h

theorem keeps_get : (get : Errand Counter).Keeps R W := fun _ h => after_get fun _ _ => h

theorem keeps_wait {wakes : Binary64 → Bool} {seconds : Binary64} :
    (wait wakes seconds).Keeps R := fun _ h => after_wait h fun _ => h

/-- Expecting a value keeps everything. -/
theorem keeps_expect {ε : Type} {fault : ε → CommandFault} {value : Except ε α} :
    (expect fault value).Keeps R W := fun _ h => after_expect (fun _ => h) h

/-- A step that is taken in some cases only, and what follows it. -/
theorem keeps_when {p : Prop} [Decidable p] {e : Errand Unit} {next : Unit → Errand α}
    (h : e.Keeps R W) (hnext : (next ()).Keeps R W) :
    (if p then e >>= next else next ()).Keeps R W :=
  fun st hst => after_when
    (fun _ => (h st hst).imp (fun _ st' h' => hnext st' h') (fun _ h' => h') (fun _ h' => h'))
    (fun _ => hnext st hst)

variable {kubectl : Kubectl} {s : Settings} {base : List Exchange} {node : String}

/-- Asking for something aside keeps what does not depend on filters, interfaces
    and errors. -/
theorem keeps_aside {φ : Node → Prop} (hφ : ∀ {n n' : Node}, n'.Alike n → φ n → φ n') {i : Intent}
    (aside : i.isAside) :
    (carryOut kubectl i).Keeps (Station.Stands s base (Meanwhile node fun _ => φ)) W := by
  intro st hst
  refine after_carryOut hst.idle (fun _ => hst) ?_
  intro st' takes
  exact hst.takes takes (by rintro _ rfl; cases aside) fun _ _ _ => hφ (takes.alike aside node)

section Aside

/-! What only asks for things aside keeps what each of them keeps. -/

variable (keeps : ∀ {i : Intent}, i.isAside → (carryOut kubectl i).Keeps R W)
include keeps

/-- Finding a pod only asks for things aside. -/
theorem findPod_keeps (name pod : String) : (findPod kubectl name pod).Keeps R W := by
  refine keeps_bind (keeps rfl) fun _ => ?_
  refine keeps_bind (keeps rfl) fun _ => ?_
  refine keeps_bind keeps_session fun se => ?_
  split
  · exact keeps_fail _
  · split
    · exact keeps_pure _
    · exact keeps_fail _

/-- So does finding a pod that need not be asked for. -/
theorem findPod?_keeps (name : String) (pod : Option String) :
    (findPod? kubectl name pod).Keeps R W := by
  cases pod with
  | none => exact keeps_pure _
  | some pod => exact keeps_bind (findPod_keeps keeps name pod) fun _ => keeps_pure _

/-- Choosing the scenario only asks for things aside. -/
theorem setScenario_keeps (o : RunOptions) : (setScenario kubectl o).Keeps R W := by
  unfold setScenario
  split
  · exact keeps_bind (findPod_keeps keeps _ _) fun _ => keeps rfl
  · split
    · exact keeps_pure _
    · refine keeps_bind (findPod?_keeps keeps _ _) fun _ => ?_
      refine keeps_bind (findPod?_keeps keeps _ _) fun _ => ?_
      exact keeps rfl

/-- Choosing all filters only asks for things aside. -/
theorem setFilters_keeps (o : RunOptions) : (setFilters kubectl o).Keeps R W := by
  refine keeps_bind (setScenario_keeps keeps o) fun _ => ?_
  refine keeps_bind keeps_expect fun transports => ?_
  refine keeps_when (keeps rfl) ?_
  refine keeps_bind keeps_expect fun p => ?_
  cases p with
  | some p =>
      refine keeps_bind (keeps rfl) fun _ => ?_
      split
      · exact keeps rfl
      · exact keeps_pure _
  | none =>
      split
      · exact keeps rfl
      · exact keeps_pure _

end Aside

/-- Taking a capture leaves the node at rest, wherever it fails.  Only a wait
    of which there is no end leaves the capture running. -/
theorem capture_rests {now : Moment} {wakes : Binary64 → Bool} {o : RunOptions} {st : Station}
    (hst : st.Stands s base (Meanwhile o.node fun _ => Node.Ready)) :
    (capture kubectl now wakes o).After st
      (fun _ => Station.Stands s base (Meanwhile o.node fun _ => Node.AtRest))
      (Station.Stands s base (Meanwhile o.node fun _ => Node.AtRest))
      (fun st' => wakes o.duration = false
        ∧ st'.Stands s base (Meanwhile o.node fun _ => Node.Captures)) := by
  -- wherever the debug pod is ready, the node is at rest
  have rests : ∀ {st : Station}, st.Stands s base (Meanwhile o.node fun _ => Node.Ready) →
      st.Stands s base (Meanwhile o.node fun _ => Node.AtRest) := fun h => h.weaken fun _ => Or.inl
  refine after_bind (after_node ?_)
  refine after_bind (after_say ?_)
  refine after_bind (after_carryOut hst.idle (fun _ => rests hst) ?_)
  intro st₁ started
  have h₁ : st₁.Stands s base (Meanwhile o.node fun _ n => n.Ready ∨ n.Captures) :=
    hst.takes started (by rintro _ ⟨⟩) fun _ _ _ => started.started
  refine after_bind (after_node ?_)
  refine after_unless ?_ ?_
  · intro hstatus
    exact rests (h₁.weaken fun _ h => h.resolve_right fun captures => hstatus captures.status)
  intro hstatus
  have h₁ : st₁.Stands s base (Meanwhile o.node fun _ => Node.Captures) := by
    refine h₁.weaken fun _ h => h.resolve_left fun ready => ?_
    rw [not_not, show _ = _ from ready] at hstatus
    cases hstatus
  refine after_bind (after_say ?_)
  refine after_bind (after_wait ?_ fun hwaits => ⟨hwaits, h₁⟩)
  refine after_bind (after_carryOut h₁.idle ?_ ?_)
  · -- the name of the capture is fit for the request
    intro raised
    obtain ⟨capture, current, named⟩ := h₁.state.named
    exact absurd named ((Orchestrator.stop_accepted h₁.state.status current).2.mp raised)
  intro st₂ stopped
  have h₂ : st₂.Stands s base (Meanwhile o.node fun _ => Node.AtRest) :=
    h₁.takes stopped (by rintro _ ⟨⟩) fun _ _ _ => stopped.stopped
  refine after_bind (after_node ?_)
  refine after_unless (fun _ => h₂) ?_
  intro hstatus
  have h₂ : st₂.Stands s base (Meanwhile o.node fun _ => Node.Ready) :=
    h₂.weaken fun _ _ => not_not.mp hstatus
  refine after_bind ((keeps_forM (fun _ => keeps_say) st₂ h₂).imp ?_ (fun _ => rests) fun _ h => h)
  intro _ st₃ h₃
  refine after_bind (after_get fun c _ => ?_)
  refine after_bind (after_carryOut h₃.idle (fun _ => rests h₃) ?_)
  intro st₄ downloaded
  have h₄ := rests (h₃.takes downloaded (by rintro _ ⟨⟩) fun _ _ _ => downloaded.downloaded)
  refine after_bind (after_node ?_)
  split
  · exact after_say h₄
  · exact after_fail h₄

end Errand

end NodeCapture
