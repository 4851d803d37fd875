import NodeCapture.Proofs.ChosenFilters
import NodeCapture.Proofs.CleanUp
import NodeCapture.Proofs.ListedPods
import NodeCapture.Proofs.RefusedRequests

/-! # Filters that are set through the server

    A protocol and its port are written by different intents, and a pod is
    selected in one part of a session and loaded in another.  Through the
    server they still stay together (`Selection.Coherent`): new filters give up
    the protocol before they set one, and a pod is selected only where it is
    found among the loaded ones.

    What was loaded stays, since a list is asked for only before it is there
    and answered once (`Session.KeepsPods`).  So each intent of the server
    keeps the filters coherent (`Orchestrator.Coherent.perform`), as does the
    end of each operation (`Orchestrator.Coherent.complete`), and from there on
    every route and every run of requests and ends (`Api.Reaches`). -/

namespace NodeCapture

/-! ## Coherent selections -/

/-- A pod is among the loaded pods on a node. -/
def ReferenceData.HasPod (d : ReferenceData) (node : String) (p : Pod) : Prop :=
  ∃ pods, d.podsOf node = .loaded pods ∧ p ∈ pods

/-- The pods of a scenario on a node are among the loaded ones, each on the node
    of its endpoint. -/
def Scenario.Loaded (d : ReferenceData) (node : String) : Scenario → Prop
  | specificPod pod _ => ∀ p, pod = some p → d.HasPod node p
  | twoPods sourceNode source destNode dest _ =>
      (∀ p, source = some p → ∃ name, sourceNode = some name ∧ d.HasPod name p)
        ∧ ∀ p, dest = some p → ∃ name, destNode = some name ∧ d.HasPod name p

/-- A selected protocol stands with its port and transports, and each selected
    pod is among the loaded ones. -/
structure Selection.Coherent (d : ReferenceData) (node : String) (sel : Selection) : Prop where
  protocol : ∀ p, sel.appProtocol = some p → sel.port = some p.port ∧ sel.transports = p.transports
  pods : ∀ sc, sel.scenario = some sc → sc.Loaded d node

/-- What was loaded stays loaded. -/
def ReferenceData.KeepsPods (d d' : ReferenceData) : Prop :=
  ∀ node pods, d.podsOf node = .loaded pods → d'.podsOf node = .loaded pods

section Coherent

variable {d d' : ReferenceData} {node : String}

theorem ReferenceData.KeepsPods.refl (d : ReferenceData) : d.KeepsPods d := fun _ _ h => h

/-- A loaded pod stays loaded. -/
theorem ReferenceData.HasPod.keep {p : Pod} (h : d.HasPod node p) (keeps : d.KeepsPods d') :
    d'.HasPod node p := by
  obtain ⟨pods, loaded, mem⟩ := h
  exact ⟨pods, keeps node pods loaded, mem⟩

/-- The pods of a scenario stay loaded. -/
theorem Scenario.Loaded.keep {sc : Scenario} (h : sc.Loaded d node) (keeps : d.KeepsPods d') :
    sc.Loaded d' node := by
  cases sc with
  | specificPod pod direction => exact fun p hp => (h p hp).keep keeps
  | twoPods sourceNode source destNode dest direction =>
      obtain ⟨hsource, hdest⟩ := h
      refine ⟨fun p hp => ?_, fun p hp => ?_⟩
      · obtain ⟨name, hname, has⟩ := hsource p hp
        exact ⟨name, hname, has.keep keeps⟩
      · obtain ⟨name, hname, has⟩ := hdest p hp
        exact ⟨name, hname, has.keep keeps⟩

/-- A fresh scenario has no pods yet. -/
theorem Scenario.loaded_fresh (node : String) (kind : ScenarioKind) :
    (fresh node kind).Loaded d node := by
  cases kind with
  | specificPod => exact nofun
  | twoPods => exact ⟨nofun, nofun⟩

/-- A coherent selection stays so while the loaded pods stay. -/
theorem Selection.Coherent.keep {sel : Selection} (h : sel.Coherent d node)
    (keeps : d.KeepsPods d') : sel.Coherent d' node :=
  ⟨h.protocol, fun sc hsc => (h.pods sc hsc).keep keeps⟩

theorem Selection.coherent_empty : ({} : Selection).Coherent d node := ⟨nofun, nofun⟩

end Coherent

/-- How the server changes filters: new filters give up the protocol and leave
    the scenario alone, and the pods of a new scenario are among the loaded
    ones. -/
def Intent.Coheres (d : ReferenceData) : Intent → Prop
  | setFilters _ change => change.appProtocol = some none ∧ change.scenario = none
  | setScenario node scenario => ∀ sc, scenario = some sc → sc.Loaded d node
  | _ => True

/-- Choosing a kind of scenario keeps the one that was there or makes a fresh
    one. -/
theorem Node.scenario_selectScenario (n : Node) {kind : Option ScenarioKind} {name : String}
    {sc : Scenario} (h : (n.selectScenario kind name).selection.scenario = some sc) :
    n.selection.scenario = some sc ∨ ∃ k, sc = Scenario.fresh name k := by
  cases kind with
  | none => cases h
  | some k =>
      simp only [selectScenario, setScenario, setSelection, refreshFilter] at h
      split at h
      · cases h
      · next old _ hold =>
          split at h
          · exact Or.inl (hold.trans h)
          · exact Or.inr ⟨_, (Option.some.inj h).symm⟩
      · exact Or.inr ⟨_, (Option.some.inj h).symm⟩

/-- Such a change keeps the selection of its node coherent. -/
theorem Intent.Coheres.edit {d : ReferenceData} {i : Intent} {node : String} {f : Node → Node}
    {n : Node} (coheres : i.Coheres d) (edits : i.edit? = some (node, f))
    (h : n.selection.Coherent d node) : (f n).selection.Coherent d node := by
  cases i <;> simp only [Intent.edit?, Option.some.injEq, Prod.mk.injEq, reduceCtorEq] at edits
  case setFilters name change =>
    obtain ⟨-, rfl⟩ := edits
    obtain ⟨hprotocol, hscenario⟩ := coheres
    -- without a protocol the port is free
    refine ⟨fun p hp => ?_, fun sc hsc => h.pods sc ?_⟩
    · change change.appProtocol.getD n.selection.appProtocol = some p at hp
      rw [hprotocol] at hp
      cases hp
    · change change.scenario.getD n.selection.scenario = some sc at hsc
      rwa [hscenario] at hsc
  case selectScenario name kind =>
    obtain ⟨rfl, rfl⟩ := edits
    refine ⟨h.protocol, fun sc hsc => ?_⟩
    rcases n.scenario_selectScenario hsc with hold | ⟨k, rfl⟩
    · exact h.pods sc hold
    · exact Scenario.loaded_fresh name k
  case setScenario name scenario =>
    obtain ⟨rfl, rfl⟩ := edits
    exact ⟨h.protocol, coheres⟩
  case setProtocol name p =>
    obtain ⟨-, rfl⟩ := edits
    cases p with
    | none =>
        refine ⟨?_, h.pods⟩
        rintro _ ⟨⟩
    | some p =>
        refine ⟨fun p' hp => ?_, h.pods⟩
        cases hp
        exact ⟨rfl, rfl⟩
  case setFilterText name text =>
    obtain ⟨-, rfl⟩ := edits
    exact ⟨h.protocol, h.pods⟩

/-! ## What was loaded stays -/

namespace Session

variable {s s' : Session}

/-- Nothing is loaded where a list is asked for. -/
theorem Begins.keepsPods {i : Intent} {q : Request} (h : s.Begins i q s') :
    s.reference.KeepsPods s'.reference := by
  by_cases hother : q.kind = .listNodes ∨ q.kind = .listPods
  · intro node pods loaded
    cases h with
    | listNodes idle =>
        rw [ReferenceData.podsOf_of_notLoaded _ _ idle] at loaded
        cases loaded
    | listPods listed idle =>
        -- the list that is asked for is not there; those of other nodes stay
        rename_i name item
        show (s.reference.setPods name .loading).podsOf node = _
        rw [ReferenceData.podsOf_setPods]
        by_cases hname : node = name
        · subst hname
          have hpods : item.pods = .loaded pods :=
            by simpa [ReferenceData.podsOf, listed] using loaded
          rw [hpods] at idle
          cases idle
        · rwa [if_neg fun h => hname h.1]
    | _ => rcases hother with h | h <;> cases h
  · rw [not_or] at hother
    rw [h.reference_of_other hother.1 hother.2]
    exact .refl _

/-- A list that is awaited takes the place of none. -/
theorem keepsPods_fold {r : Response} {q : Request} (answers : r.Answers q)
    (loading : q.loads = true → s.isLoading q = true) :
    s.reference.KeepsPods (s.fold r).reference := by
  by_cases hother : q.kind = .listNodes ∨ q.kind = .listPods
  · intro node pods loaded
    cases q with
    | listNodes =>
        -- no node is listed while the nodes are loading, so no pods are loaded
        have unlisted : s.reference.get? node = none := by
          refine ReferenceData.get?_of_not_loaded _ _ ?_
          have nodes : s.reference.nodes.isLoading = true := loading rfl
          cases hnodes : s.reference.nodes with
          | loading => rfl
          | _ =>
              rw [hnodes] at nodes
              cases nodes
        rw [ReferenceData.podsOf_of_unlisted _ _ unlisted] at loaded
        cases loaded
    | listPods name =>
        cases r with
        | podsListed outcome name' listed =>
            obtain rfl : name' = name := answers
            have awaited : (s.reference.podsOf name').isLoading = true := loading rfl
            have hne : node ≠ name' := by
              rintro rfl
              rw [loaded] at awaited
              cases awaited
            have others : ∀ cell, (s.reference.setPods name' cell).podsOf node = .loaded pods := by
              intro cell
              rwa [ReferenceData.podsOf_setPods, if_neg fun h => hne h.1]
            show (s.foldPods outcome name' listed).reference.podsOf node = _
            rw [foldPods]
            split
            · split
              · exact others _
              · exact others _
            · exact loaded
        | _ => exact answers.elim
    | _ => rcases hother with h | h <;> cases h
  · rw [not_or] at hother
    rw [reference_fold_of_other (answers.kind ▸ hother.1) (answers.kind ▸ hother.2)]
    exact .refl _

end Session

/-! ## Orchestrators -/

namespace Orchestrator

variable {o o' : Orchestrator}

/-- The selections are coherent, and the loads are tracked, so that they stay
    coherent. -/
structure Coherent (o : Orchestrator) : Prop where
  numbered : o.Numbered
  tracks : o.TracksLoads
  filters : ∀ node, (o.session.stateOf node).selection.Coherent o.session.reference node

/-- A new orchestrator has nothing chosen. -/
theorem coherent_create (cluster : String) (initialNodes : List String) :
    (create cluster initialNodes).Coherent where
  numbered := numbered_create cluster initialNodes
  tracks := tracksLoads_create cluster initialNodes
  filters := fun _ => Selection.coherent_empty

/-- An intent of the server keeps the selections coherent. -/
theorem Coherent.perform {i : Intent} {a : Answer} (h : o.Coherent)
    (coheres : i.Coheres o.session.reference) (performed : o.perform i = .ok (o', a)) :
    o'.Coherent := by
  have hnext : o.advance (.asked i) = o' := by simp [advance, handle, performed]
  refine ⟨hnext ▸ h.numbered.advance _, ?_, fun node => ?_⟩
  · exact hnext ▸ h.tracks.advance (s := {}) h.numbered (.asked i)
  -- all but an edit leave the selections, and what they refer to
  have stays : ∀ {s' : Session}, (s'.stateOf node).selection = (o.session.stateOf node).selection →
      o.session.reference.KeepsPods s'.reference →
      (s'.stateOf node).selection.Coherent s'.reference node := by
    intro s' selection keeps
    rw [selection]
    exact (h.filters node).keep keeps
  cases performs_of_perform performed with
  | refused session =>
      rw [session]
      exact h.filters node
  | begun begins => exact stays (begins.selection node) begins.keepsPods
  | done adjusts =>
      have hreference := adjusts.reference
      generalize o'.session = after at adjusts hreference ⊢
      cases adjusts with
      | select =>
          exact stays (by rw [Session.stateOf_select]) (hreference ▸ .refl _)
      | edit edits here fits =>
          rename_i name f n
          rcases Session.node?_updateNode_cases here f node with ⟨-, hsame⟩ | ⟨rfl, hn, hset⟩
          · exact stays (by rw [Session.stateOf, hsame, Session.stateOf]) (.refl _)
          · have filters := h.filters name
            rw [Session.stateOf_of_some _ _ hn] at filters
            rw [Session.stateOf_of_some _ _ hset]
            exact coheres.edit edits filters

/-- The end of an operation keeps the selections coherent. -/
theorem Coherent.complete {operation : Nat} {q : Request} {r : Response} (h : o.Coherent)
    (outstanding : (operation, q) ∈ o.outstanding) (answers : r.Answers q) :
    (o.complete operation r).Coherent := by
  refine ⟨h.numbered.complete operation r, h.tracks.complete h.numbered outstanding answers, ?_⟩
  intro node
  show ((o.session.fold r).stateOf node).selection.Coherent (o.session.fold r).reference node
  rw [Session.selection_fold]
  exact (h.filters node).keep (Session.keepsPods_fold answers (h.tracks.isLoading outstanding))

end Orchestrator

/-! ## Handlers -/

namespace Station

variable {st : Station}

/-- Carrying an operation out ends it with a response that may come of it, if it
    is outstanding. -/
theorem carryOut_cases (kubectl : Kubectl) (st : Station) (operation : Nat) :
    (st.carryOut kubectl operation).1 = st
      ∨ ∃ q r bench, (operation, q) ∈ st.orchestrator.outstanding ∧ q.Yields st.settings r
          ∧ (st.carryOut kubectl operation).1
            = { st.complete operation r with bench := bench } := by
  rw [carryOut, operation?]
  cases hrequest : st.orchestrator.request? operation with
  | none => exact Or.inl rfl
  | some q =>
      simp only [Option.map_some, finish, hrequest]
      exact Or.inr ⟨q, _, _, Orchestrator.mem_of_request?_eq_some hrequest,
        .ended (Task.run_mayEnd _ _ _), rfl⟩

/-- Carrying an outstanding operation out keeps the selections coherent. -/
theorem coherent_carryOut (kubectl : Kubectl) (operation : Nat) (h : st.orchestrator.Coherent) :
    (st.carryOut kubectl operation).1.orchestrator.Coherent := by
  rcases st.carryOut_cases kubectl operation with same | ⟨q, r, bench, outstanding, yields, ended⟩
  · rwa [same]
  · rw [ended]
    exact h.complete outstanding yields.answers

end Station

namespace Handler

variable {α β : Type}

/-- A handler keeps the selections coherent, whether the request is answered or
    stopped. -/
def Keeps (h : Handler α) : Prop :=
  ∀ st, st.orchestrator.Coherent →
    h.After st (fun _ st' => st'.orchestrator.Coherent) (fun _ st' => st'.orchestrator.Coherent)

theorem keeps_pure (a : α) : (pure a : Handler α).Keeps := fun _ h => h

/-- One part of a handler after another keeps what both keep. -/
theorem keeps_bind {h : Handler β} {next : β → Handler α} (first : h.Keeps)
    (hnext : ∀ b, (next b).Keeps) : (h >>= next).Keeps :=
  fun st hst => after_bind ((first st hst).mono (fun b st' h' => hnext b st' h') fun _ _ h' => h')

/-- A handler that only reads changes no filters. -/
theorem Reads.keeps {h : Handler α} (reads : h.Reads) : h.Keeps := by
  intro st hst
  refine (reads st).mono ?_ ?_
  · rintro _ _ rfl
    exact hst
  · rintro _ _ ⟨-, rfl⟩
    exact hst

/-- An intent that coheres keeps the selections coherent, also where it is
    refused. -/
theorem after_coherent_perform {st : Station} {stop : ValidationError → Stop} {i : Intent}
    (hst : st.orchestrator.Coherent) (coheres : i.Coheres st.session.reference) :
    (perform stop i).After st (fun _ st' => st'.orchestrator.Coherent)
      (fun _ st' => st'.orchestrator.Coherent) := by
  refine after_perform (fun st' a h => ?_) fun _ => hst
  rw [Station.perform] at h
  cases hp : st.orchestrator.perform i with
  | error e =>
      rw [hp] at h
      cases h
  | ok result =>
      rw [hp] at h
      cases h
      exact hst.perform coheres hp

/-- An intent that always keeps the selections coherent. -/
theorem keeps_perform {stop : ValidationError → Stop} {i : Intent} (coheres : ∀ d, i.Coheres d) :
    (perform stop i).Keeps := fun _ hst => after_coherent_perform hst (coheres _)

theorem reads_stateOf (node : String) : (stateOf node).Reads := reads_get.bind fun _ => reads_pure _

/-- Answering that an operation was begun changes no filters, whether it is
    waited for or not. -/
theorem keeps_accepted {kubectl : Kubectl} {wait : Bool} {title : String} {node : Option String}
    (a : Answer) : (accepted kubectl wait title node a).Keeps := by
  cases a with
  | begun operation =>
      have carried : (carryOut kubectl operation).Keeps :=
        fun st hst => after_carryOut (Station.coherent_carryOut kubectl operation hst)
      cases wait with
      | false =>
          cases node with
          | none => exact keeps_pure _
          | some name => exact ((reads_stateOf name).bind fun _ => reads_pure _).keeps
      | true =>
          refine keeps_bind carried fun _ => ?_
          cases node with
          | none => exact keeps_pure _
          | some name => exact ((reads_stateOf name).bind fun _ => reads_pure _).keeps
  | done => exact (reads_get.bind fun _ => reads_refuse _).keeps
  | refused => exact (reads_get.bind fun _ => reads_refuse _).keeps

/-- Answering with the filters changes none. -/
theorem keeps_edited {node : String} (a : Answer) : (edited node a).Keeps := by
  cases a with
  | done => exact ((reads_stateOf node).bind fun _ => reads_pure _).keeps
  | begun operation => exact (reads_refuse _).keeps
  | refused => exact (reads_refuse _).keeps

/-- A further change keeps the selections coherent if it coheres. -/
theorem keeps_further {change : Option Intent} (coheres : ∀ i, change = some i → ∀ d, i.Coheres d)
    (before : Answer) : (further change before).Keeps := by
  cases change with
  | none => cases before <;> exact keeps_pure _
  | some i =>
      cases before with
      | done => exact keeps_perform (coheres i rfl)
      | begun operation => exact keeps_pure _
      | refused => exact keeps_pure _

/-- Setting filters keeps the selections coherent. -/
theorem keeps_setFilters (node : String) (body : FiltersBody) : (setFilters node body).Keeps := by
  refine keeps_bind (reads_requireNode node).discard.keeps fun _ => ?_
  refine keeps_bind (keeps_perform fun _ => ⟨rfl, rfl⟩) fun a => ?_
  -- a protocol brings its port, and a filter text is not of the rest
  refine keeps_bind (keeps_further ?_ a) fun a => ?_
  · intro i hi
    obtain ⟨p, -, rfl⟩ := Option.map_eq_some_iff.mp hi
    exact fun _ => trivial
  refine keeps_bind (keeps_further ?_ a) fun a => keeps_edited a
  intro i hi
  obtain ⟨text, -, rfl⟩ := Option.map_eq_some_iff.mp hi
  exact fun _ => trivial

/-- A pod is found among the loaded ones. -/
theorem after_findPod (st : Station) (node : String) (pod : Option String) :
    (findPod node pod).After st
      (fun found st' => st' = st ∧ ∀ p, found = some p → st.session.reference.HasPod node p)
      (fun _ st' => st' = st) := by
  rw [findPod]
  split
  · refine after_pure ⟨rfl, ?_⟩
    rintro _ ⟨⟩
  refine after_bind (after_get ?_)
  split
  · next pods hpods =>
      split
      · next p hp =>
          refine after_pure ⟨rfl, ?_⟩
          rintro _ ⟨⟩
          refine ⟨pods, ?_, List.mem_of_find?_eq_some hp⟩
          rw [ReferenceData.podsOf, hpods]
          rfl
      · exact after_refuse rfl
  · exact after_refuse rfl

/-- The pods of a scenario are found on the nodes of its endpoints. -/
theorem after_scenarioOf (st : Station) (node : String) (body : ScenarioBody)
    (kind : ScenarioKind) :
    (scenarioOf node body kind).After st
      (fun sc st' => st' = st ∧ sc.Loaded st.session.reference node) (fun _ st' => st' = st) := by
  cases kind with
  | specificPod =>
      refine after_bind ((after_findPod st node body.pod).mono ?_ fun _ _ h => h)
      rintro pod _ ⟨rfl, has⟩
      exact after_pure ⟨rfl, has⟩
  | twoPods =>
      refine after_bind ((after_findPod st _ body.source).mono ?_ fun _ _ h => h)
      rintro source _ ⟨rfl, hsource⟩
      refine after_bind ((after_findPod _ _ body.dest).mono ?_ fun _ _ h => h)
      rintro dest _ ⟨rfl, hdest⟩
      exact after_pure ⟨rfl, fun p hp => ⟨_, rfl, hsource p hp⟩, fun p hp => ⟨_, rfl, hdest p hp⟩⟩

/-- Setting the scenario keeps the selections coherent. -/
theorem keeps_setScenario (node : String) (body : ScenarioBody) :
    (setScenario node body).Keeps := by
  refine keeps_bind (reads_requireNode node).discard.keeps fun _ => ?_
  cases body.kind with
  | none => exact keeps_bind (keeps_perform fun _ => trivial) keeps_edited
  | some kind =>
      intro st hst
      refine after_bind ((after_scenarioOf st node body kind).mono ?_ ?_)
      · rintro sc _ ⟨rfl, loaded⟩
        refine after_bind ((after_coherent_perform hst ?_).mono ?_ fun _ _ h => h)
        · rintro _ ⟨⟩
          exact loaded
        · exact fun a st' h => keeps_edited a st' h
      · rintro _ _ rfl
        exact hst

/-- Whatever a route is asked for, it keeps the selections coherent. -/
theorem keeps_route (kubectl : Kubectl) (now : Moment) (r : HttpRequest) (body : Option Json)
    (route : Route) : (Handler.route kubectl now r body route).Keeps := by
  have operates : ∀ {i : Intent} {stop wait title node}, (∀ d, i.Coheres d) →
      (perform stop i >>= accepted kubectl wait title node).Keeps :=
    fun coheres => keeps_bind (keeps_perform coheres) keeps_accepted
  cases route with
  | state => exact (reads_get.bind fun _ => reads_pure _).keeps
  | select node =>
      refine keeps_bind (reads_requireKnown node).keeps fun _ => ?_
      rw [discard_eq_bind]
      refine keeps_bind (keeps_bind (keeps_perform fun _ => trivial) fun _ => keeps_pure _)
        fun _ => ?_
      exact ((reads_stateOf node).bind fun _ => reads_pure _).keeps
  | filters node => exact keeps_bind (reads_checked _).keeps fun _ => keeps_setFilters node _
  | scenario node => exact keeps_bind (reads_checked _).keeps fun _ => keeps_setScenario node _
  | loadNodes => exact keeps_bind (reads_checked _).keeps fun _ => operates fun _ => trivial
  | loadPods node => exact keeps_bind (reads_checked _).keeps fun _ => operates fun _ => trivial
  | check node =>
      refine keeps_bind (reads_checked _).keeps fun _ => ?_
      exact keeps_bind (reads_requireKnown node).keeps fun _ => operates fun _ => trivial
  | createPod node | deletePod node | loadInterfaces node | stopCapture node =>
      refine keeps_bind (reads_checked _).keeps fun _ => ?_
      exact keeps_bind (reads_requireNode node).discard.keeps fun _ => operates fun _ => trivial
  | startCapture node =>
      refine keeps_bind (reads_checked _).keeps fun _ => ?_
      exact keeps_bind (reads_requireNode node).discard.keeps fun _ => operates fun _ => trivial
  | download node capture =>
      refine keeps_bind (reads_checked _).keeps fun _ => ?_
      refine keeps_bind (reads_requireNode node).keeps fun n => ?_
      split
      · exact operates fun _ => trivial
      · exact (reads_refuse _).keeps

end Handler

/-! ## The server -/

/-- A station at which nothing was asked for. -/
def Station.IsNew (st : Station) : Prop :=
  ∃ cluster initialNodes, st.orchestrator = .create cluster initialNodes

/-- What is set up is new. -/
theorem Setup.build_isNew {m : Machine} {path : Option String} {configured : String}
    {discover : Bool} {setup : Setup} (h : build m path configured discover = .ok setup) :
    setup.station.IsNew := by
  obtain ⟨s, cluster, nodes, files, nesting, -, -, hstation⟩ := build_opens h
  exact ⟨cluster, nodes, by rw [hstation]⟩

namespace Api

/-- What a server may become: requests come in, and the operations that they
    began end, in any order and each with a response that may come of it.  What
    a request does that waits for its operation is what it does before, and
    then the end of the operation. -/
inductive Reaches : Api → Prop where
  | start {api : Api} (isNew : ∀ st, api.station = some st → st.IsNew) : Reaches api
  | request {api : Api} (before : Reaches api) (kubectl : Kubectl) (now : Moment)
      {setUp : Except SetupFault Station} (isNew : ∀ st, setUp = .ok st → st.IsNew)
      (r : HttpRequest) : Reaches (api.handle kubectl now setUp r).2
  | ended {api : Api} (before : Reaches api) {st : Station} (holds : api.station = some st)
      {operation : Nat} {q : Request} {response : Response}
      (outstanding : (operation, q) ∈ st.orchestrator.outstanding)
      (yields : q.Yields st.settings response) (bench : Bench) :
      Reaches { api with station := some { st.complete operation response with bench := bench } }

/-- A server that requests come in to, one after another. -/
def requests (kubectl : Kubectl) (now : Moment) (setUp : Except SetupFault Station) (api : Api) :
    List HttpRequest → Api
  | [] => api
  | r :: rs => requests kubectl now setUp (api.handle kubectl now setUp r).2 rs

/-- What requests lead to from a reachable server is reachable. -/
theorem Reaches.requests {api : Api} (reached : api.Reaches) (kubectl : Kubectl) (now : Moment)
    {setUp : Except SetupFault Station} (isNew : ∀ st, setUp = .ok st → st.IsNew)
    (rs : List HttpRequest) : (api.requests kubectl now setUp rs).Reaches := by
  induction rs generalizing api with
  | nil => exact reached
  | cons r rs ih =>
      rw [Api.requests]
      exact ih (reached.request kubectl now isNew r)

/-- Carrying out what an answer left to be done is the end of an operation. -/
theorem Reaches.proceed {api : Api} (reached : api.Reaches) (kubectl : Kubectl) (operation : Nat) :
    (api.proceed kubectl operation).Reaches := by
  cases hstation : api.station with
  | none =>
      rw [Api.proceed, hstation, Option.map_none, ← hstation]
      exact reached
  | some st =>
      rw [Api.proceed, hstation, Option.map_some]
      rcases st.carryOut_cases kubectl operation with same |
          ⟨q, r, bench, outstanding, yields, ended⟩
      · rw [same, ← hstation]
        exact reached
      · rw [ended]
        exact reached.ended hstation outstanding yields bench

/-- The selections are coherent, once there is an orchestrator. -/
def Coherent (api : Api) : Prop := ∀ st, api.station = some st → st.orchestrator.Coherent

/-- A request for a known route keeps the selections coherent. -/
theorem Coherent.handleAt {api : Api} {st : Station} (kubectl : Kubectl) (now : Moment)
    (r : HttpRequest) (route : Route) (body : Option Json) (hst : st.orchestrator.Coherent) :
    (api.handleAt kubectl now r route body st).2.Coherent := by
  have h := Handler.keeps_route kubectl now r body route st hst
  unfold Handler.After at h
  rw [Api.handleAt]
  revert h
  rcases StateT.run (ExceptT.run (Handler.route kubectl now r body route)) st with
    ⟨(refusal | fault) | answer, st'⟩ <;>
  · rintro h _ ⟨⟩
    exact h

/-- A request is answered without an orchestrator, or handled by one that was
    there or is new. -/
theorem Coherent.handle {api : Api} (h : api.Coherent) (kubectl : Kubectl) (now : Moment)
    {setUp : Except SetupFault Station} (isNew : ∀ st, setUp = .ok st → st.IsNew)
    (r : HttpRequest) : (api.handle kubectl now setUp r).2.Coherent := by
  obtain ⟨_, -, answered⟩ := Api.handle_eq kubectl now setUp api r
  rw [answered, handleAny]
  dsimp only
  split
  · exact h
  split
  · cases routing r.method r.path.toList with
    | notFound | otherMethod | moved | documentation => exact h
    | found route =>
        dsimp only
        rw [handleRoute]
        split
        · exact h
        · split
          · next st hst => exact .handleAt kubectl now r route _ (h st hst)
          · split
            · next st =>
                obtain ⟨cluster, initialNodes, hnew⟩ := isNew st rfl
                exact .handleAt kubectl now r route _ (hnew ▸ Orchestrator.coherent_create _ _)
            · exact h
  · exact h

/-- The selections are coherent at every server that is reached, by induction on
    the requests and ends. -/
theorem Reaches.coherent {api : Api} (reached : api.Reaches) : api.Coherent := by
  induction reached with
  | start isNew =>
      intro st hst
      obtain ⟨cluster, initialNodes, hnew⟩ := isNew st hst
      rw [hnew]
      exact Orchestrator.coherent_create _ _
  | request before kubectl now isNew r ih => exact ih.handle kubectl now isNew r
  | ended before holds outstanding yields bench ih =>
      rintro _ ⟨⟩
      exact (ih _ holds).complete outstanding yields.answers

end Api

/-- The filters that are set through the server stay together, whatever is asked
    for and whatever comes of it: a selected protocol stands with its own port
    and transports, the pod of a scenario is among the loaded pods of its node,
    and so is each endpoint of a pair on the node of that endpoint. -/
theorem filters_stay_coherent {api : Api} (reached : api.Reaches) {st : Station}
    (holds : api.station = some st) (node : String) :
    (st.session.stateOf node).selection.Coherent st.session.reference node :=
  (reached.coherent st holds).filters node

/-- The replies of kubectl where a pod runs on each of two nodes. -/
def pairedReplies : List Reply :=
  [.exited { stdout := "n\nm\n" }, .exited { stdout := "web\t10.0.0.7\tfalse\n" },
    .exited { stdout := "db\t10.0.1.9\tfalse\n" }]

/-- The orchestrator that a request sets up where there is none. -/
def labSetUp : Except SetupFault Station :=
  (Setup.build (labWorkplace []).machine none "" true).map Setup.station

/-- The requests for the pods of both nodes, and for a protocol and a pair of
    pods on one of them. -/
def pairingRequests : List HttpRequest :=
  [{ method := "POST", path := "/nodes/n/filter-pods/load", query := [("wait", "true")] },
    { method := "POST", path := "/nodes/m/filter-pods/load", query := [("wait", "true")] },
    { method := "PUT", path := "/nodes/n/filters",
      content := some "\x7b\"app_layer_protocol\": \"DNS\"\x7d" },
    { method := "PUT", path := "/nodes/n/scenario",
      content := some ("\x7b\"kind\": \"TwoPods\", \"source_pod\": \"web\", "
        ++ "\"dest_node\": \"m\", \"dest_pod\": \"db\"\x7d") }]

/-- A server without a key and an orchestrator. -/
def newApi : Api where
  token := ""
  station := none

/-- A server at which these requests come in, once it has listed the nodes. -/
def pairedApi : Api :=
  ((newApi.requests (.inTurn pairedReplies) ⟨2024, 5, 6, 0, 0, 0, 0⟩ labSetUp
    [{ method := "POST", path := "/nodes/load" }]).proceed (.inTurn pairedReplies) 0).requests
      (.inTurn pairedReplies) ⟨2024, 5, 6, 0, 0, 0, 0⟩ labSetUp pairingRequests

/-- What is selected then. -/
def pairedSelection : Selection where
  scenario := some (.twoPods (some "n") (some ⟨"web", "10.0.0.7"⟩) (some "m")
    (some ⟨"db", "10.0.1.9"⟩) .bidirectional)
  appProtocol := some .dns
  port := some 53
  transports := ⟨true, true⟩
  filterText := some "(tcp port 53 or udp port 53) and host 10.0.0.7 and host 10.0.1.9"

/-- Each pod of the pair was loaded on its own node, and the protocol stands with
    its port. -/
theorem filters_stay_coherent_paired :
    ∃ st, pairedApi.station = some st ∧ (st.session.stateOf "n").selection = pairedSelection
      ∧ pairedSelection.Coherent st.session.reference "n" := by
  have isNew : ∀ st, labSetUp = .ok st → st.IsNew := by
    intro st hst
    rw [labSetUp] at hst
    cases hbuild : Setup.build (labWorkplace []).machine none "" true with
    | error fault =>
        rw [hbuild] at hst
        cases hst
    | ok setup =>
        rw [hbuild] at hst
        cases hst
        exact Setup.build_isNew hbuild
  have started : newApi.Reaches := by
    refine .start ?_
    rintro _ ⟨⟩
  have reached : pairedApi.Reaches := by
    rw [pairedApi]
    exact ((started.requests _ _ isNew _).proceed _ 0).requests _ _ isNew _
  have chosen : pairedApi.station.map (fun st => (st.session.stateOf "n").selection)
      = some pairedSelection := by
    decide +kernel
  obtain ⟨st, holds, selection⟩ := Option.map_eq_some_iff.mp chosen
  exact ⟨st, holds, selection, selection ▸ filters_stay_coherent reached holds "n"⟩

end NodeCapture
