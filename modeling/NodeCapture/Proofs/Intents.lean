import NodeCapture.Orchestrator
import NodeCapture.Proofs.Nodes
import NodeCapture.Proofs.Validation

/-! # What intents do

    `Session.Begins` has one rule for each intent that asks for a remote
    operation: when it may be carried out, with which request, and what
    becomes of the session.  `Session.Adjusts` does the same for the local
    intents.  `Orchestrator.Performs` adds the outstanding operations, and
    `performs_of_perform` says that carrying an intent out does nothing else. -/

namespace NodeCapture

/-- The node whose filters an intent changes, and how it changes its state. -/
def Intent.edit? : Intent → Option (String × (Node → Node))
  | .setFilters node change => some (node, fun n => n.setSelection (n.selection.change change))
  | .selectScenario node kind => some (node, fun n => n.selectScenario kind node)
  | .setScenario node scenario => some (node, fun n => n.setScenario scenario)
  | .setProtocol node p => some (node, fun n => n.setAppProtocol p)
  | .setFilterText node text => some (node, fun n => n.setFilterText text)
  | _ => none

/-- Changing the filters changes the selection and nothing else. -/
theorem Intent.edit?_selection {i : Intent} {node : String} {f : Node → Node}
    (h : i.edit? = some (node, f)) (n : Node) :
    ∃ selection, f n = { n with selection := selection } := by
  cases i <;> simp only [Intent.edit?, Option.some.injEq, Prod.mk.injEq, reduceCtorEq] at h
  all_goals
    obtain ⟨-, rfl⟩ := h
    exact ⟨_, rfl⟩

/-- What a local intent may do to a session. -/
inductive Session.Adjusts (s : Session) : Intent → Session → Prop where
  | select {node : Option String} (known : ∀ name, node = some name → s.knows name) :
      Adjusts s (.select node) (s.select node)
  | edit {i : Intent} {node : String} {f : Node → Node} {n : Node}
      (edits : i.edit? = some (node, f)) (here : s.node? node = some n)
      (fits : n.status.isEditable) :
      Adjusts s i (s.updateNode node f)

/-- Which request an intent may make in a session, and the session that is
    left. -/
inductive Session.Begins (s : Session) : Intent → Request → Session → Prop where
  | checkNode {node : String} {n : Node} (known : s.knows node)
      (here : (s.ensureNode node).node? node = some n) (fits : n.status = .unknown) :
      Begins s (.checkNode node) (.checkNode node)
        ((s.ensureNode node).updateNode node Node.markChecking)
  | createPod {node : String} {n : Node} (here : s.node? node = some n)
      (fits : n.status = .clean) :
      Begins s (.createPod node) (.createPod node) (s.updateNode node Node.markCreatingPod)
  | deletePod {node : String} {n : Node} (here : s.node? node = some n)
      (fits : n.status = .podRunning) (idle : ∀ c ∈ n.captures, c.status ≠ .downloading) :
      Begins s (.deletePod node) (.deletePod node) (s.updateNode node Node.markDeletingPod)
  | startCapture {node capture : String} {n : Node} (here : s.node? node = some n)
      (fits : n.status = .podRunning) (named : isCaptureName capture) :
      Begins s (.startCapture node capture)
        (.startCapture node capture (Orchestrator.startFilters n))
        (s.updateNode node (fun n => n.markCaptureStarting capture))
  | stopCapture {node capture : String} {n : Node} (here : s.node? node = some n)
      (fits : n.status = .captureRunning) (current : n.captureName = some capture)
      (named : isCaptureName capture) :
      Begins s (.stopCapture node) (.stopCapture node capture)
        (s.updateNode node Node.markCaptureStopping)
  | download {node capture path : String} {n : Node} {c : Capture}
      (here : s.node? node = some n) (fits : n.status.hasPod)
      (found : n.captures.find? (fun c => c.name == capture) = some c)
      (idle : c.status ≠ .downloading) (named : isCaptureName capture) :
      Begins s (.download node capture path) (.download node capture path)
        (s.updateNode node (fun n => n.markDownloading capture))
  | listInterfaces {node : String} {n : Node} (here : s.node? node = some n)
      (fits : n.status.hasPod) (idle : n.interfaces.isNotLoaded) :
      Begins s (.listInterfaces node) (.listInterfaces node)
        (s.updateNode node Node.markInterfacesLoading)
  | listNodes (idle : s.reference.nodes.isNotLoaded) :
      Begins s .listNodes .listNodes s.setNodesLoading
  | listPods {node : String} {item : ListedNode} (listed : s.reference.get? node = some item)
      (idle : item.pods.isNotLoaded) :
      Begins s (.listPods node) (.listPods node) (s.setPodsLoading node)

/-- What carrying an intent out may do: nothing, a local change, or the
    beginning of an operation. -/
inductive Orchestrator.Performs (o : Orchestrator) (i : Intent) :
    Orchestrator → Answer → Prop where
  | refused {o' : Orchestrator} (session : o'.session = o.session)
      (outstanding : o'.outstanding = o.outstanding) (submitted : o'.submitted = o.submitted) :
      Performs o i o' .refused
  | done {o' : Orchestrator} (adjusts : o.session.Adjusts i o'.session)
      (outstanding : o'.outstanding = o.outstanding) (submitted : o'.submitted = o.submitted) :
      Performs o i o' .done
  | begun {o' : Orchestrator} {r : Request} (begins : o.session.Begins i r o'.session)
      (outstanding : o'.outstanding = o.outstanding ++ [(o.submitted, r)])
      (submitted : o'.submitted = o.submitted + 1) :
      Performs o i o' (.begun o.submitted)

/-! ## Requests at their nodes -/

namespace Request

/-- What a request makes of its node at once. -/
def mark : Request → Node → Node
  | checkNode _, n => n.markChecking
  | createPod _, n => n.markCreatingPod
  | deletePod _, n => n.markDeletingPod
  | startCapture _ capture _, n => n.markCaptureStarting capture
  | stopCapture .., n => n.markCaptureStopping
  | download _ capture _, n => n.markDownloading capture
  | listInterfaces _, n => n.markInterfacesLoading
  | listNodes, n => n
  | listPods _, n => n

/-- What the node of a request is like when the request is made. -/
def Fits : Request → Node → Prop
  | checkNode _, n => n.status = .unknown
  | createPod _, n => n.status = .clean
  | deletePod _, n => n.status = .podRunning ∧ ∀ c ∈ n.captures, c.status ≠ .downloading
  | startCapture .., n => n.status = .podRunning
  | stopCapture _ capture, n => n.status = .captureRunning ∧ n.captureName = some capture
  | download _ capture _, n =>
      n.status.hasPod ∧ ∃ c, n.captures.find? (fun c => c.name == capture) = some c
        ∧ c.status ≠ .downloading
  | listInterfaces _, n => n.status.hasPod
  | listNodes, _ => True
  | listPods _, _ => True

end Request

namespace Session

variable {s s' : Session} {i : Intent} {r : Request}

/-- A change of a node with a state, seen at any node. -/
theorem node?_updateNode_cases {name : String} {n : Node} (here : s.node? name = some n)
    (f : Node → Node) (node : String) :
    (node ≠ name ∧ (s.updateNode name f).node? node = s.node? node)
      ∨ (name = node ∧ s.node? node = some n
          ∧ (s.updateNode name f).node? node = some (f n)) := by
  rw [node?_updateNode]
  by_cases h : node = name
  · subst h
    exact Or.inr ⟨rfl, here, by rw [if_pos rfl, here]; rfl⟩
  · exact Or.inl ⟨h, if_neg h⟩

/-- Making a request changes nothing at a node, or marks the node, which fits
    the request; a node that is checked may be without a state before. -/
theorem Begins.node?_cases (h : s.Begins i r s') (node : String) :
    (s'.node? node = s.node? node ∧ (r.node? = some node → r.kind = .listPods))
      ∨ (r.node? = some node ∧ r.Fits (s.stateOf node)
          ∧ s'.node? node = some (r.mark (s.stateOf node))) := by
  have concerns : ∀ {name : String} {f : Node → Node} {n : Node}, r.node? = some name →
      s.node? name = some n → r.Fits n → f n = r.mark n →
      ((s.updateNode name f).node? node = s.node? node
          ∧ (r.node? = some node → r.kind = .listPods))
        ∨ (r.node? = some node ∧ r.Fits (s.stateOf node)
          ∧ (s.updateNode name f).node? node = some (r.mark (s.stateOf node))) := by
    intro name f n hname here fits hmark
    rcases node?_updateNode_cases here f node with ⟨hne, hsame⟩ | ⟨rfl, hn, hset⟩
    · refine Or.inl ⟨hsame, ?_⟩
      intro hnode
      rw [hname] at hnode
      exact absurd (Option.some.inj hnode).symm hne
    · refine Or.inr ⟨hname, ?_, ?_⟩
      · rw [stateOf_of_some s name hn]
        exact fits
      · rw [hset, stateOf_of_some s name hn, hmark]
  cases h with
  | checkNode known here fits =>
      rename_i name n
      -- the node has its old state, or the empty one that it is given
      rw [node?_ensureNode, if_pos rfl] at here
      have hbefore : n = s.stateOf name := by
        cases hn : s.node? name with
        | none =>
            rw [hn] at here
            exact (Option.some.inj here).symm.trans (stateOf_of_none s name hn).symm
        | some m =>
            rw [hn] at here
            exact (Option.some.inj here).symm.trans (stateOf_of_some s name hn).symm
      by_cases hnode : node = name
      · subst hnode
        refine Or.inr ⟨rfl, ?_, ?_⟩
        · rw [← hbefore]
          exact fits
        · rw [node?_updateNode, if_pos rfl, node?_ensureNode, if_pos rfl, here, hbefore]
          rfl
      · refine Or.inl ⟨?_, ?_⟩
        · rw [node?_updateNode, if_neg hnode, node?_ensureNode, if_neg hnode]
          exact Option.or_none
        · intro heq
          exact absurd (Option.some.inj heq).symm hnode
  | createPod here fits => exact concerns rfl here fits rfl
  | deletePod here fits idle => exact concerns rfl here ⟨fits, idle⟩ rfl
  | startCapture here fits named => exact concerns rfl here fits rfl
  | stopCapture here fits current named => exact concerns rfl here ⟨fits, current⟩ rfl
  | download here fits found idle named => exact concerns rfl here ⟨fits, _, found, idle⟩ rfl
  | listInterfaces here fits idle => exact concerns rfl here fits rfl
  | listNodes idle => exact Or.inl ⟨rfl, fun h => nomatch h⟩
  | listPods listed idle => exact Or.inl ⟨rfl, fun _ => rfl⟩

/-- A local intent changes nothing at a node, or gives it a first state, or
    changes its selection. -/
theorem Adjusts.node?_cases (h : s.Adjusts i s') (node : String) :
    s'.node? node = s.node? node ∨ (s.node? node = none ∧ s'.node? node = some {})
      ∨ ∃ n selection, s.node? node = some n
          ∧ s'.node? node = some { n with selection := selection } := by
  cases h with
  | select known =>
      rename_i chosen
      cases chosen with
      | none => exact Or.inl rfl
      | some name =>
          rw [node?_select_some]
          cases s.node? node with
          | some n => exact Or.inl rfl
          | none =>
              by_cases hcond : s.knows name ∧ node = name
              · exact Or.inr (Or.inl ⟨rfl, by rw [if_pos hcond]; rfl⟩)
              · exact Or.inl (by rw [if_neg hcond]; rfl)
  | edit edits here fits =>
      rename_i name f n
      rcases node?_updateNode_cases here f node with ⟨-, hsame⟩ | ⟨-, hn, hset⟩
      · exact Or.inl hsame
      · obtain ⟨selection, hf⟩ := Intent.edit?_selection edits n
        exact Or.inr (Or.inr ⟨n, selection, hn, by rw [hset, hf]⟩)

/-- Where a node without a state counts as one with an empty state, a local
    intent changes its selection at most. -/
theorem Adjusts.stateOf (h : s.Adjusts i s') (node : String) :
    ∃ selection, s'.stateOf node = { s.stateOf node with selection := selection } := by
  rcases h.node?_cases node with hsame | ⟨hnone, hnew⟩ | ⟨n, selection, hn, hset⟩
  · exact ⟨(s.stateOf node).selection, by rw [Session.stateOf, Session.stateOf, hsame]⟩
  · refine ⟨(s.stateOf node).selection, ?_⟩
    rw [stateOf_of_none _ _ hnone, stateOf_of_some _ _ hnew]
  · refine ⟨selection, ?_⟩
    rw [stateOf_of_some _ _ hn, stateOf_of_some _ _ hset]

end Session

/-! ## Carrying out -/

namespace Orchestrator

variable {o : Orchestrator}

/-- A node is in one of some statuses. -/
theorem nodeIn?_eq_some {node : String} {statuses : NodeStatus → Bool} {n : Node} :
    o.nodeIn? node statuses = some n ↔ o.session.node? node = some n ∧ statuses n.status :=
  Option.filter_eq_some_iff

/-- A name that passes the check is a capture name. -/
theorem checkedName_eq_ok {kind : OperationKind} {name : Option String} {capture : String} :
    checkedName kind name = .ok capture ↔ name = some capture ∧ isCaptureName capture := by
  rw [checkedName, Checked.titled_eq_ok, Checked.under_eq_ok]
  cases name with
  | none => simp [Json.ofText?, checkCaptureName]
  | some name =>
      simp only [Json.ofText?, checkCaptureName, Option.some.injEq]
      constructor
      · intro h
        split at h
        · next hname =>
            obtain rfl : name = capture := Except.ok.inj h
            exact ⟨rfl, hname⟩
        · exact absurd h Checked.issue_ne_ok
      · rintro ⟨rfl, hname⟩
        rw [if_pos hname]

theorem Performs.of_refused {i : Intent} : o.Performs i o .refused := .refused rfl rfl rfl

/-- An intent that begins a request marks its node and hands the request out. -/
theorem Performs.of_begin {i : Intent} {r : Request} {node : String} {f : Node → Node}
    (h : o.session.Begins i r (o.session.updateNode node f)) :
    o.Performs i (o.begin node f r).1 (o.begin node f r).2 :=
  .begun h rfl rfl

/-- An intent that cannot fail does what its result says. -/
theorem Performs.of_ok {i : Intent} {result : Orchestrator × Answer} {o' : Orchestrator}
    {a : Answer} (hperforms : o.Performs i result.1 result.2)
    (h : (Except.ok result : Except ValidationError _) = .ok (o', a)) : o.Performs i o' a := by
  obtain rfl := Except.ok.inj h
  exact hperforms

/-- Showing a node chooses it. -/
theorem performs_select (node : Option String) :
    o.Performs (.select node) (o.select node).1 (o.select node).2 := by
  cases node with
  | none => exact .done (.select (fun _ h => nomatch h)) rfl rfl
  | some name =>
      rw [select]
      by_cases hk : o.knows name
      · simp only [hk, if_true]
        refine .done (.select ?_) rfl rfl
        intro other hother
        obtain rfl : name = other := Option.some.inj hother
        exact hk
      · simp only [hk]
        exact .of_refused

/-- An edit changes the choices of its node, or is refused. -/
theorem performs_edit {i : Intent} {node : String} {f : Node → Node}
    (hi : i.edit? = some (node, f)) : o.Performs i (o.edit node f).1 (o.edit node f).2 := by
  rw [edit]
  split
  · next n hn =>
      obtain ⟨here, fits⟩ := nodeIn?_eq_some.mp hn
      exact .done (.edit hi here fits) rfl rfl
  · exact .of_refused

/-- The intents that change filters are edits. -/
theorem perform_eq_edit {i : Intent} {node : String} {f : Node → Node}
    (hi : i.edit? = some (node, f)) : o.perform i = .ok (o.edit node f) := by
  cases i <;> simp only [Intent.edit?, Option.some.injEq, Prod.mk.injEq, reduceCtorEq] at hi
  all_goals
    obtain ⟨rfl, rfl⟩ := hi
    rfl

/-- Where filters can be edited, an edit is done. -/
theorem edit_of_editable {node : String} {n : Node} (here : o.session.node? node = some n)
    (fits : n.status.isEditable) (f : Node → Node) :
    o.edit node f = (o.updateNode node f, .done) := by
  rw [edit, nodeIn?_eq_some.mpr ⟨here, fits⟩]

/-- A check is begun where nothing is known of a node, or refused. -/
theorem performs_beginCheck (node : String) :
    o.Performs (.checkNode node) (o.beginCheck node).1 (o.beginCheck node).2 := by
  rw [beginCheck]
  by_cases hk : o.knows node
  · simp only [hk, if_true]
    split
    · next n hn =>
        obtain ⟨here, fits⟩ := nodeIn?_eq_some.mp hn
        exact .begun (.checkNode hk here (by simpa using fits)) rfl rfl
    · next hn =>
        -- a node that had to be given a state would be unknown, and so not be refused
        have hhas : o.session.hasNode node := by
          cases hnode : o.session.node? node with
          | some n => exact (Session.hasNode_iff _ _).mpr ⟨n, hnode⟩
          | none =>
              have hnew : (o.session.ensureNode node).node? node = some {} := by
                rw [Session.node?_ensureNode, hnode]
                simp
              have hsome : (o.publish (o.session.ensureNode node)).nodeIn? node (· == .unknown)
                  = some {} := nodeIn?_eq_some.mpr ⟨hnew, rfl⟩
              exact absurd hsome (by rw [hn]; simp)
        refine .refused ?_ rfl rfl
        show o.session.ensureNode node = o.session
        simp [Session.ensureNode, hhas]
  · simp only [hk]
    exact .of_refused

/-- The creation of a debug pod is begun on a clean node, or refused. -/
theorem performs_beginCreation (node : String) :
    o.Performs (.createPod node) (o.beginCreation node).1 (o.beginCreation node).2 := by
  rw [beginCreation]
  split
  · next n hn =>
      obtain ⟨here, fits⟩ := nodeIn?_eq_some.mp hn
      exact .of_begin (.createPod here (by simpa using fits))
  · exact .of_refused

/-- The deletion of a debug pod is begun where it is idle, or refused. -/
theorem performs_beginDeletion (node : String) :
    o.Performs (.deletePod node) (o.beginDeletion node).1 (o.beginDeletion node).2 := by
  rw [beginDeletion]
  split
  · next n hn =>
      obtain ⟨here, fits⟩ := nodeIn?_eq_some.mp hn
      split
      · exact .of_refused
      · next idle => exact .of_begin (.deletePod here (by simpa using fits) (by simpa using idle))
  · exact .of_refused

/-- The start of a capture that is not refused as invalid is begun, or refused.
    -/
theorem performs_beginStart {node capture : String} {o' : Orchestrator} {a : Answer}
    (h : o.beginStart node capture = .ok (o', a)) :
    o.Performs (.startCapture node capture) o' a := by
  unfold beginStart at h
  split at h
  · next n hn =>
      obtain ⟨here, fits⟩ := nodeIn?_eq_some.mp hn
      cases hname : checkedName .startCapture (some capture) with
      | error e => rw [hname] at h; exact nomatch h
      | ok name =>
          obtain ⟨hsome, named⟩ := checkedName_eq_ok.mp hname
          obtain rfl : capture = name := Option.some.inj hsome
          rw [hname] at h
          exact .of_ok (.of_begin (.startCapture here (by simpa using fits) named)) h
  · exact .of_ok .of_refused h

/-- So is its stop. -/
theorem performs_beginStop {node : String} {o' : Orchestrator} {a : Answer}
    (h : o.beginStop node = .ok (o', a)) : o.Performs (.stopCapture node) o' a := by
  unfold beginStop at h
  split at h
  · next n hn =>
      obtain ⟨here, fits⟩ := nodeIn?_eq_some.mp hn
      cases hname : checkedName .stopCapture n.captureName with
      | error e => rw [hname] at h; exact nomatch h
      | ok name =>
          obtain ⟨current, named⟩ := checkedName_eq_ok.mp hname
          rw [hname] at h
          exact .of_ok (.of_begin (.stopCapture here (by simpa using fits) current named)) h
  · exact .of_ok .of_refused h

/-- So is a download. -/
theorem performs_beginDownload {node capture path : String} {o' : Orchestrator} {a : Answer}
    (h : o.beginDownload node capture path = .ok (o', a)) :
    o.Performs (.download node capture path) o' a := by
  unfold beginDownload at h
  split at h
  · next n hn =>
      obtain ⟨here, fits⟩ := nodeIn?_eq_some.mp hn
      split at h
      · next c found =>
          split at h
          · exact .of_ok .of_refused h
          · next idle =>
              cases hname : checkedName .download (some capture) with
              | error e => rw [hname] at h; exact nomatch h
              | ok name =>
                  obtain ⟨hsome, named⟩ := checkedName_eq_ok.mp hname
                  obtain rfl : capture = name := Option.some.inj hsome
                  rw [hname] at h
                  exact .of_ok (.of_begin (.download here fits found idle named)) h
      · exact .of_ok .of_refused h
  · exact .of_ok .of_refused h

/-- The listing of nodes is begun unless it is under way. -/
theorem performs_beginNodes : o.Performs .listNodes o.beginNodes.1 o.beginNodes.2 := by
  rw [beginNodes]
  split
  · next idle => exact .begun (.listNodes idle) rfl rfl
  · exact .of_refused

/-- The listing of pods is begun unless it is under way. -/
theorem performs_beginPods (node : String) :
    o.Performs (.listPods node) (o.beginPods node).1 (o.beginPods node).2 := by
  rw [beginPods]
  split
  · next item listed =>
      split
      · next idle => exact .begun (.listPods listed idle) rfl rfl
      · exact .of_refused
  · exact .of_refused

/-- The listing of interfaces is begun where the debug pod runs, or refused. -/
theorem performs_beginInterfaces (node : String) :
    o.Performs (.listInterfaces node) (o.beginInterfaces node).1 (o.beginInterfaces node).2 := by
  rw [beginInterfaces]
  split
  · next n hn =>
      obtain ⟨here, fits⟩ := nodeIn?_eq_some.mp hn
      split
      · next idle => exact .of_begin (.listInterfaces here fits idle)
      · exact .of_refused
  · exact .of_refused

/-- Carrying an intent out does what its rules provide for and nothing else. -/
theorem performs_of_perform {i : Intent} {o' : Orchestrator} {a : Answer}
    (h : o.perform i = .ok (o', a)) : o.Performs i o' a := by
  cases i with
  | startCapture node capture => exact performs_beginStart h
  | stopCapture node => exact performs_beginStop h
  | download node capture path => exact performs_beginDownload h
  | select node => exact .of_ok (performs_select node) h
  | setFilters node change => exact .of_ok (performs_edit rfl) h
  | selectScenario node kind => exact .of_ok (performs_edit rfl) h
  | setScenario node scenario => exact .of_ok (performs_edit rfl) h
  | setProtocol node p => exact .of_ok (performs_edit rfl) h
  | setFilterText node text => exact .of_ok (performs_edit rfl) h
  | checkNode node => exact .of_ok (performs_beginCheck node) h
  | createPod node => exact .of_ok (performs_beginCreation node) h
  | deletePod node => exact .of_ok (performs_beginDeletion node) h
  | listNodes => exact .of_ok performs_beginNodes h
  | listPods node => exact .of_ok (performs_beginPods node) h
  | listInterfaces node => exact .of_ok (performs_beginInterfaces node) h

end Orchestrator

end NodeCapture
