import NodeCapture.Api.Basic
import NodeCapture.Proofs.Edits
import NodeCapture.Proofs.Events

/-! # Refused requests

    A request that is refused has done nothing: what a handler looks up comes
    before what it changes, a remote intent that begins no operation changes
    no session, and once the first change of filters was made the others are
    made too.  `Handler.After` is what holds after a request was handled, of
    its answer and the station if it is answered, and of the stop and the
    station if it is stopped; it has one rule for each step of the handlers. -/

namespace NodeCapture

/-- Nothing was done at a station: the session is what it was, no operation
    was begun or ended, and no call of kubectl was made. -/
structure Station.Untouched (st st' : Station) : Prop where
  session : st'.session = st.session
  outstanding : st'.orchestrator.outstanding = st.orchestrator.outstanding
  submitted : st'.orchestrator.submitted = st.orchestrator.submitted
  settings : st'.settings = st.settings
  bench : st'.bench = st.bench

theorem Station.Untouched.refl (st : Station) : st.Untouched st := ⟨rfl, rfl, rfl, rfl, rfl⟩

/-- What new filters make of the state of a node: the selection without a
    protocol, then the protocol and then the filter text, if they are given. -/
def FiltersBody.applied (body : FiltersBody) (n : Node) : Node :=
  let chosen := n.setSelection (n.selection.change
    { interface := some body.interface
      port := some body.port
      transports := some (TransportSet.ofList body.transports)
      appProtocol := some none })
  let withProtocol := match body.appProtocol with
    | some p => chosen.setAppProtocol (some p)
    | none => chosen
  match nonEmpty body.filterText with
  | some text => withProtocol.setFilterText (some text)
  | none => withProtocol

/-- An edit needs no operation. -/
theorem Intent.isRemote_of_edit? {i : Intent} {node : String} {f : Node → Node}
    (edits : i.edit? = some (node, f)) : i.isRemote = false := by
  cases i <;> first | rfl | cases edits

namespace Station

variable {st st' : Station} {i : Intent}

/-- A remote intent begins an operation or does nothing. -/
theorem perform_remote {a : Answer} (remote : i.isRemote) (h : st.perform i = .ok (st', a)) :
    (∃ operation, a = .begun operation) ∨ st.Untouched st' := by
  rw [perform] at h
  cases hp : st.orchestrator.perform i with
  | error e =>
      rw [hp] at h
      cases h
  | ok result =>
      obtain ⟨o, answer⟩ := result
      rw [hp] at h
      obtain ⟨rfl, rfl⟩ := Prod.mk.inj (Except.ok.inj h)
      cases Orchestrator.performs_of_perform hp with
      | refused session outstanding submitted =>
          exact Or.inr ⟨session, outstanding, submitted, rfl, rfl⟩
      | begun => exact Or.inl ⟨_, rfl⟩
      | done adjusts =>
          -- no remote intent is done at once
          generalize o.session = after at adjusts
          cases adjusts with
          | select => cases remote
          | edit edits => exact absurd remote (by rw [Intent.isRemote_of_edit? edits]; decide)

end Station

namespace Handler

variable {α β : Type}

/-- What holds after a request was handled at a station. -/
def After (h : Handler α) (st : Station) (ok : α → Station → Prop)
    (stopped : Stop → Station → Prop) : Prop :=
  match StateT.run (ExceptT.run h) st with
  | (.ok a, st') => ok a st'
  | (.error stop, st') => stopped stop st'

variable {st : Station} {ok : α → Station → Prop} {stopped : Stop → Station → Prop}

theorem after_pure {a : α} (h : ok a st) : (pure a : Handler α).After st ok stopped := h

theorem after_refuse {refusal : Refusal} (h : stopped (.refused refusal) st) :
    (refuse refusal : Handler α).After st ok stopped := h

/-- One part of a handler after another: the second starts where the first one
    left the station. -/
theorem after_bind {h : Handler β} {next : β → Handler α}
    (hnext : h.After st (fun b st' => (next b).After st' ok stopped) stopped) :
    (h >>= next).After st ok stopped := by
  unfold After at hnext ⊢
  rw [ExceptT.run_bind, StateT.run_bind]
  rcases hrun : StateT.run (ExceptT.run h) st with ⟨result, st'⟩
  rw [hrun] at hnext
  cases result with
  | ok b => exact hnext
  | error stop => exact hnext

/-- What holds after a handler may be replaced by what it implies. -/
theorem After.mono {ok' : α → Station → Prop} {stopped' : Stop → Station → Prop} {h : Handler α}
    (hafter : h.After st ok stopped) (hok : ∀ a st', ok a st' → ok' a st')
    (hstopped : ∀ stop st', stopped stop st' → stopped' stop st') : h.After st ok' stopped' := by
  unfold After at hafter ⊢
  revert hafter
  rcases StateT.run (ExceptT.run h) st with ⟨_ | _, st'⟩
  · exact hstopped _ _
  · exact hok _ _

/-- Leaving a result out is going on without it. -/
theorem discard_eq_bind (h : Handler α) : discard h = h >>= fun _ => pure () := by
  rw [Functor.discard, LawfulFunctor.map_const]
  exact (bind_pure_comp _ _).symm

theorem after_get {ok : Station → Station → Prop} (h : ok st st) :
    (get : Handler Station).After st ok stopped := h

/-- An operation that is carried out sets the station. -/
theorem after_carryOut {ok : Unit → Station → Prop} {kubectl : Kubectl} {operation : Nat}
    (h : ok () (st.carryOut kubectl operation).1) :
    (carryOut kubectl operation).After st ok stopped := h

/-- An intent is performed, or stops the handler and leaves the station as it
    is. -/
theorem after_perform {ok : Answer → Station → Prop} {stop : ValidationError → Stop} {i : Intent}
    (performed : ∀ st' a, st.perform i = .ok (st', a) → ok a st')
    (raised : ∀ e, stopped (stop e) st) : (perform stop i).After st ok stopped := by
  refine after_bind (after_get ?_)
  cases hp : st.perform i with
  | ok result => exact performed result.1 result.2 hp
  | error e => exact raised e

/-! ## Looking up -/

/-- A handler only looks something up, or refuses the request. -/
def Reads (h : Handler α) : Prop :=
  ∀ st, h.After st (fun _ st' => st' = st) (fun stop st' => (∃ r, stop = .refused r) ∧ st' = st)

/-- What only reads refuses, or goes on where it started. -/
theorem after_reading {h : Handler β} {next : β → Handler α} (reads : h.Reads)
    (refused : ∀ r, stopped (.refused r) st) (hnext : ∀ b, (next b).After st ok stopped) :
    (h >>= next).After st ok stopped := by
  refine after_bind ?_
  have hreads := reads st
  unfold After at hreads ⊢
  revert hreads
  rcases StateT.run (ExceptT.run h) st with ⟨_ | _, st'⟩
  · rintro ⟨⟨r, rfl⟩, rfl⟩
    exact refused r
  · rintro rfl
    exact hnext _

theorem reads_pure (a : α) : (pure a : Handler α).Reads := fun _ => rfl

theorem reads_refuse (r : Refusal) : (refuse r : Handler α).Reads := fun _ => ⟨⟨r, rfl⟩, rfl⟩

/-- One part of a handler after another only reads if both do. -/
theorem Reads.bind {h : Handler β} {next : β → Handler α} (reads : h.Reads)
    (hnext : ∀ b, (next b).Reads) : (h >>= next).Reads :=
  fun st => after_reading reads (fun r => ⟨⟨r, rfl⟩, rfl⟩) (fun b => hnext b st)

/-- Leaving a result out only reads. -/
theorem Reads.discard {h : Handler α} (reads : h.Reads) : (discard h).Reads := by
  rw [discard_eq_bind]
  exact reads.bind fun _ => reads_pure ()

theorem reads_get : (get : Handler Station).Reads := fun _ => rfl

/-- Checking a value only reads. -/
theorem reads_checked (value : Checked α) : (checked value).Reads := by
  cases value with
  | ok a => exact reads_pure a
  | error issues => exact reads_refuse _

/-- Asking for a node with a state only reads. -/
theorem reads_requireNode (node : String) : (requireNode node).Reads := by
  refine reads_get.bind fun st => ?_
  cases st.node? node with
  | some n => exact reads_pure n
  | none => exact reads_refuse _

/-- Asking for a known node only reads. -/
theorem reads_requireKnown (node : String) : (requireKnown node).Reads := by
  refine reads_get.bind fun st => ?_
  split
  · exact reads_pure ()
  · exact reads_refuse _

/-- Finding a pod only reads. -/
theorem reads_findPod (node : String) (pod : Option String) : (findPod node pod).Reads := by
  rw [findPod]
  split
  · exact reads_pure none
  · refine reads_get.bind fun st => ?_
    split
    · split
      · exact reads_pure _
      · exact reads_refuse _
    · exact reads_refuse _

/-- Reading a scenario only reads. -/
theorem reads_scenarioOf (node : String) (body : ScenarioBody) (kind : ScenarioKind) :
    (scenarioOf node body kind).Reads := by
  cases kind with
  | specificPod => exact (reads_findPod _ _).bind fun _ => reads_pure _
  | twoPods =>
      exact (reads_findPod _ _).bind fun _ => (reads_findPod _ _).bind fun _ => reads_pure _

/-! ## Answering -/

/-- A request is answered well, or leaves the station as it was. -/
def Harmless (h : Handler HttpAnswer) (st : Station) : Prop :=
  h.After st (fun answer _ => answer.status = 200) (fun _ st' => st.Untouched st')

/-- What only reads may come first. -/
theorem harmless_reading {h : Handler β} {next : β → Handler HttpAnswer} (reads : h.Reads)
    (hnext : ∀ b, (next b).Harmless st) : (h >>= next).Harmless st :=
  after_reading reads (fun _ => .refl st) hnext

variable {kubectl : Kubectl} {wait : Bool} {title node : String}

/-- Once an operation has begun the request is answered. -/
theorem after_accepted_begun {ok : HttpAnswer → Station → Prop} {operation : Nat}
    (name : Option String) (hok : ∀ fields background st', ok ⟨200, fields, background⟩ st') :
    (accepted kubectl wait title name (.begun operation)).After st ok stopped := by
  cases wait with
  | false =>
      cases name with
      | none => exact after_pure (hok _ _ st)
      | some name => exact hok _ _ st
  | true =>
      refine after_bind (after_carryOut ?_)
      cases name with
      | none => exact after_pure (hok _ _ _)
      | some name => exact hok _ _ _

/-- A remote intent is answered where it begins an operation, and otherwise
    leaves the station as it was. -/
theorem harmless_operation {stop : ValidationError → Stop} {i : Intent} (name : Option String)
    (remote : i.isRemote) :
    (perform stop i >>= accepted kubectl wait title name).Harmless st := by
  refine after_bind (after_perform ?_ (fun e => .refl st))
  intro st' a h
  rcases Station.perform_remote remote h with ⟨operation, rfl⟩ | untouched
  · exact after_accepted_begun name (fun _ _ _ => rfl)
  · cases a with
    | begun operation => exact after_accepted_begun name (fun _ _ _ => rfl)
    | done => exact untouched
    | refused => exact untouched

/-- A change of filters is made, or leaves the station as it was. -/
theorem after_edit {ok : Answer → Station → Prop} {stop : ValidationError → Stop} {i : Intent}
    {f : Node → Node} (edits : i.edit? = some (node, f))
    (made : ∀ st', st.Edited node f st' → st'.Editable node → ok .done st')
    (refused : ¬ st.Editable node → ok .refused st) : (perform stop i).After st ok stopped := by
  rcases @Station.perform_edit st i node f edits with
    ⟨-, st', hdone, hedited, heditable⟩ | ⟨hlocked, hrefused⟩
  · refine after_bind (after_get ?_)
    rw [hdone]
    exact made st' hedited heditable
  · refine after_bind (after_get ?_)
    rw [hrefused]
    exact refused hlocked

/-- A single change of filters is answered where it is made. -/
theorem harmless_edit {stop : ValidationError → Stop} {i : Intent} {f : Node → Node}
    (edits : i.edit? = some (node, f)) : (perform stop i >>= edited node).Harmless st :=
  after_bind (after_edit edits (fun _ _ _ => rfl) (fun _ => .refl st))

/-- What a further change of filters does to a node, if there is one. -/
def changeOf (change : Option Intent) (n : Node) : Node :=
  match change.bind Intent.edit? with
  | some (_, f) => f n
  | none => n

/-- A further change of filters is made where the one before it was made. -/
theorem after_further {ok : Answer → Station → Prop} {change : Option Intent} {f : Node → Node}
    {st' : Station} (hedited : st.Edited node f st') (heditable : st'.Editable node)
    (edits : ∀ i, change = some i → ∃ g, i.edit? = some (node, g))
    (made : ∀ st'', st.Edited node (fun n => changeOf change (f n)) st'' → st''.Editable node →
      ok .done st'') : (further change .done).After st' ok stopped := by
  cases change with
  | none => exact made st' hedited heditable
  | some i =>
      obtain ⟨g, hg⟩ := edits i rfl
      refine after_edit hg ?_ (fun locked => absurd heditable locked)
      intro st'' hedited' heditable'
      refine made st'' ?_ heditable'
      have hchange : changeOf (some i) = g := by
        funext n
        rw [changeOf, Option.bind_some, hg]
      rw [hchange]
      exact hedited.trans hedited'

/-- The changes that new filters consist of are made one after another. -/
theorem applied_eq (body : FiltersBody) (node : String) (n : Node) :
    body.applied n
      = changeOf ((nonEmpty body.filterText).map (fun text => .setFilterText node (some text)))
          (changeOf (body.appProtocol.map (fun p => .setProtocol node (some p)))
            (n.setSelection (n.selection.change
              { interface := some body.interface
                port := some body.port
                transports := some (TransportSet.ofList body.transports)
                appProtocol := some none }))) := by
  rw [FiltersBody.applied]
  cases body.appProtocol <;> cases nonEmpty body.filterText <;> rfl

/-- New filters are set as a whole and answered, with nothing left to be done,
    or the request is refused. -/
theorem after_setFilters (st : Station) (node : String) (body : FiltersBody) :
    (setFilters node body).After st
      (fun answer st' => answer.status = 200 ∧ answer.background = none
        ∧ st.Edited node body.applied st')
      (fun stop st' => (∃ r, stop = .refused r) ∧ st.Untouched st') := by
  refine after_reading (reads_requireNode node).discard (fun r => ⟨⟨r, rfl⟩, .refl st⟩) fun _ => ?_
  refine after_bind (after_edit rfl ?_ ?_)
  · intro st₁ hedited₁ heditable₁
    refine after_bind (after_further hedited₁ heditable₁ ?_ ?_)
    · intro i hi
      obtain ⟨p, -, rfl⟩ := Option.map_eq_some_iff.mp hi
      exact ⟨_, rfl⟩
    intro st₂ hedited₂ heditable₂
    refine after_bind (after_further hedited₂ heditable₂ ?_ ?_)
    · intro i hi
      obtain ⟨text, -, rfl⟩ := Option.map_eq_some_iff.mp hi
      exact ⟨_, rfl⟩
    intro st₃ hedited₃ _
    refine ⟨rfl, rfl, ?_⟩
    rw [show body.applied = _ from funext (applied_eq body node)]
    exact hedited₃
  · intro _
    exact ⟨⟨_, rfl⟩, .refl st⟩

/-- Whatever a route is asked for, it is answered well or leaves the station as
    it was. -/
theorem harmless_route (kubectl : Kubectl) (now : Moment) (r : HttpRequest) (body : Option Json)
    (route : Route) (st : Station) : (Handler.route kubectl now r body route).Harmless st := by
  -- most routes begin one operation, about a node or about no node
  have operate : ∀ title node (i : Intent), i.isRemote →
      (checked (waits r) >>= fun wait =>
        operateOn kubectl wait title node i).Harmless st := by
    intro title node i remote
    refine harmless_reading (reads_checked _) fun wait => ?_
    exact harmless_reading (reads_requireNode node).discard fun _ =>
      harmless_operation (some node) remote
  have operateApart : ∀ title (i : Intent), i.isRemote →
      (checked (waits r) >>= fun wait => operateApart kubectl wait title i).Harmless st := by
    intro title i remote
    exact harmless_reading (reads_checked _) fun wait => harmless_operation none remote
  cases route with
  | state => exact rfl
  | select node =>
      refine harmless_reading (reads_requireKnown node) fun _ => after_bind ?_
      rw [discard_eq_bind]
      exact after_bind (after_perform (fun _ _ _ => rfl) (fun _ => .refl st))
  | filters node =>
      refine harmless_reading (reads_checked _) fun body => ?_
      exact (after_setFilters st node body).mono (fun _ _ h => h.1) (fun _ _ h => h.2)
  | scenario node =>
      refine harmless_reading (reads_checked _) fun body => ?_
      refine harmless_reading (reads_requireNode node).discard fun _ => ?_
      cases body.kind with
      | none => exact harmless_edit rfl
      | some kind =>
          exact harmless_reading (reads_scenarioOf node body kind) fun scenario => harmless_edit rfl
  | loadNodes => exact operateApart _ _ rfl
  | loadPods node => exact operateApart _ _ rfl
  | check node =>
      refine harmless_reading (reads_checked _) fun wait => ?_
      exact harmless_reading (reads_requireKnown node) fun _ => harmless_operation (some node) rfl
  | createPod node => exact operate _ _ _ rfl
  | deletePod node => exact operate _ _ _ rfl
  | loadInterfaces node => exact operate _ _ _ rfl
  | stopCapture node => exact operate _ _ _ rfl
  | startCapture node =>
      refine harmless_reading (reads_checked _) fun asked => ?_
      exact harmless_reading (reads_requireNode node).discard fun _ =>
        harmless_operation (some node) rfl
  | download node capture =>
      refine harmless_reading (reads_checked _) fun asked => ?_
      refine harmless_reading (reads_requireNode node) fun n => ?_
      split
      · exact harmless_operation (some node) rfl
      · exact .refl st

/-- New filters of a request are those of its body, which is checked first. -/
theorem after_filters (kubectl : Kubectl) (now : Moment) (r : HttpRequest) (body : Option Json)
    (node : String) (st : Station) :
    (Handler.route kubectl now r body (.filters node)).After st
      (fun answer st' => answer.status = 200 ∧ answer.background = none
        ∧ ∃ filters, requiredBody FiltersBody.check body = .ok filters
          ∧ st.Edited node filters.applied st')
      (fun stop st' => (∃ r, stop = .refused r) ∧ st.Untouched st') := by
  show (checked _ >>= _).After _ _ _
  cases hbody : requiredBody FiltersBody.check body with
  | error issues => exact after_bind (after_refuse ⟨⟨_, rfl⟩, .refl st⟩)
  | ok filters =>
      refine after_bind (after_pure ?_)
      exact (after_setFilters st node filters).mono
        (fun _ _ h => ⟨h.1, h.2.1, filters, rfl, h.2.2⟩) (fun _ _ h => h)

end Handler

/-- The status of a refusal tells that it is one. -/
theorem Refusal.status_ge (refusal : Refusal) : 400 ≤ refusal.answer.status := by
  show 400 ≤ refusal.status
  cases refusal <;> exact Nat.le_of_ble_eq_true rfl

namespace Api

variable {api : Api} {st : Station} {r : HttpRequest}

/-- Where there is an orchestrator, a request is answered without it or goes to
    the handler of its route. -/
theorem handleAny_cases (kubectl : Kubectl) (now : Moment) (setUp : Except SetupFault Station)
    (holds : api.station = some st) (r : HttpRequest) :
    (∃ answer : HttpAnswer, 400 ≤ answer.status ∧ answer.background = none
          ∧ api.handleAny kubectl now setUp r = (.ok answer, api))
      ∨ (∃ status, status < 400
          ∧ api.handleAny kubectl now setUp r = (.ok ⟨status, none, none⟩, api)
          ∧ ∀ route, routing r.method r.path.toList ≠ .found route)
      ∨ ∃ route body, routing r.method r.path.toList = .found route
          ∧ (route.takesBody → r.body api.nesting = .ok body)
          ∧ api.handleAny kubectl now setUp r = api.handleAt kubectl now r route body st := by
  -- every refusal has a status from 400 on and leaves nothing to be carried out
  have refused (refusal : Refusal) :
      400 ≤ refusal.answer.status ∧ refusal.answer.background = none := ⟨refusal.status_ge, rfl⟩
  rw [handleAny]
  split
  · exact Or.inl ⟨_, Nat.le_of_ble_eq_true rfl, rfl, rfl⟩
  split
  · cases hrouting : routing r.method r.path.toList with
    | notFound => exact Or.inl ⟨_, (refused _).1, (refused _).2, rfl⟩
    | otherMethod => exact Or.inl ⟨_, (refused _).1, (refused _).2, rfl⟩
    | moved => exact Or.inr (Or.inl ⟨307, by decide, rfl, fun _ h => nomatch h⟩)
    | documentation => exact Or.inr (Or.inl ⟨200, by decide, rfl, fun _ h => nomatch h⟩)
    | found route =>
        dsimp only
        rw [handleRoute]
        by_cases takes : route.takesBody
        · rw [if_pos takes]
          cases hbody : r.body api.nesting with
          | error refusal => exact Or.inl ⟨_, (refused refusal).1, (refused refusal).2, rfl⟩
          | ok body =>
              dsimp only
              rw [holds]
              exact Or.inr (Or.inr ⟨route, body, rfl, fun _ => rfl, rfl⟩)
        · rw [if_neg takes]
          dsimp only
          rw [holds]
          exact Or.inr (Or.inr ⟨route, none, rfl, fun h => absurd h takes, rfl⟩)
  · exact Or.inl ⟨_, (refused _).1, (refused _).2, rfl⟩

/-- An answer of a route is well, or nothing was done. -/
theorem handleAt_harmless (kubectl : Kubectl) (now : Moment) (api : Api) (r : HttpRequest)
    (route : Route) (body : Option Json) (st : Station) :
    ∃ st', (api.handleAt kubectl now r route body st).2 = { api with station := some st' }
      ∧ ∀ a, (api.handleAt kubectl now r route body st).1 = .ok a →
          a.status = 200 ∨ (a.background = none ∧ st.Untouched st') := by
  have h := Handler.harmless_route kubectl now r body route st
  unfold Handler.Harmless Handler.After at h
  rw [handleAt]
  revert h
  rcases StateT.run (ExceptT.run (Handler.route kubectl now r body route)) st with
    ⟨(refusal | fault) | answer, st'⟩
  · intro untouched
    refine ⟨st', rfl, ?_⟩
    rintro _ ⟨⟩
    exact Or.inr ⟨rfl, untouched⟩
  · exact fun _ => ⟨st', rfl, fun _ h => nomatch h⟩
  · intro well
    refine ⟨st', rfl, ?_⟩
    rintro _ ⟨⟩
    exact Or.inl well

/-- New filters are answered: nothing was done, or all of them were set. -/
theorem handleAt_filters (kubectl : Kubectl) (now : Moment) (api : Api) (r : HttpRequest)
    (node : String) (body : Option Json) (st : Station) :
    ∃ st' a, api.handleAt kubectl now r (.filters node) body st
        = (.ok a, { api with station := some st' })
      ∧ a.background = none
      ∧ ((400 ≤ a.status ∧ st.Untouched st')
        ∨ (a.status = 200 ∧ ∃ filters, requiredBody FiltersBody.check body = .ok filters
            ∧ st.Edited node filters.applied st')) := by
  have h := Handler.after_filters kubectl now r body node st
  unfold Handler.After at h
  rw [handleAt]
  revert h
  rcases StateT.run (ExceptT.run (Handler.route kubectl now r body (.filters node))) st with
    ⟨stop | answer, st'⟩
  · rintro ⟨⟨refusal, rfl⟩, untouched⟩
    exact ⟨st', _, rfl, rfl, Or.inl ⟨refusal.status_ge, untouched⟩⟩
  · rintro ⟨well, background, edited⟩
    exact ⟨st', _, rfl, background, Or.inr ⟨well, edited⟩⟩

/-- The answer to a request is what handling it comes to, perhaps without its
    body. -/
theorem handle_eq (kubectl : Kubectl) (now : Moment) (setUp : Except SetupFault Station)
    (api : Api) (r : HttpRequest) :
    ∃ f : HttpAnswer → HttpAnswer,
      (∀ a, (f a).status = a.status ∧ (f a).background = a.background)
        ∧ api.handle kubectl now setUp r
          = ((api.handleAny kubectl now setUp r).1.map f,
              (api.handleAny kubectl now setUp r).2) := by
  refine ⟨fun a => if r.method == "HEAD" then { a with body := none } else a, ?_, ?_⟩
  · intro a
    dsimp only
    split <;> exact ⟨rfl, rfl⟩
  · rw [handle]

end Api

/-- A request that is refused, with any status from 400 on, has no effect: the
    session is what it was, no operation was begun or is left to be carried
    out, and no call of kubectl was made.  New filters of a node are always
    answered: they are refused without an effect, or set as a whole. -/
theorem refused_request_changes_nothing (kubectl : Kubectl) (now : Moment)
    (setUp : Except SetupFault Station) (api : Api) (st : Station) (holds : api.station = some st)
    (r : HttpRequest) :
    ∃ st', (api.handle kubectl now setUp r).2 = { api with station := some st' }
      ∧ (∀ answer, (api.handle kubectl now setUp r).1 = .ok answer → 400 ≤ answer.status →
          answer.background = none ∧ st.Untouched st')
      ∧ ∀ node, routing r.method r.path.toList = .found (.filters node) →
          ∃ answer, (api.handle kubectl now setUp r).1 = .ok answer ∧ answer.background = none
            ∧ ((400 ≤ answer.status ∧ st.Untouched st')
              ∨ (answer.status = 200 ∧ ∃ body filters, r.body api.nesting = .ok body
                  ∧ requiredBody FiltersBody.check body = .ok filters
                  ∧ st.Edited node filters.applied st')) := by
  obtain ⟨f, hf, hhandle⟩ := Api.handle_eq kubectl now setUp api r
  have hapi : api = { api with station := some st } := by
    rw [← holds]
  rw [hhandle]
  -- a request is refused in front of the routes, answered without one, or handled at its route
  rcases api.handleAny_cases kubectl now setUp holds r with
    ⟨answer, hstatus, background, hany⟩ | ⟨status, hstatus, hany, elsewhere⟩
    | ⟨route, body, hroute, hbody, hany⟩
  · rw [hany]
    refine ⟨st, hapi, ?_, ?_⟩
    · rintro _ ⟨⟩ -
      exact ⟨(hf _).2.trans background, .refl st⟩
    · intro node _
      refine ⟨_, rfl, (hf _).2.trans background, Or.inl ⟨?_, .refl st⟩⟩
      rw [(hf _).1]
      exact hstatus
  · rw [hany]
    refine ⟨st, hapi, ?_, fun node h => absurd h (elsewhere _)⟩
    rintro _ ⟨⟩ -
    exact ⟨(hf _).2, .refl st⟩
  · -- new filters are three changes at once: either all of them are made or none
    by_cases hfilters : ∃ node, route = .filters node
    · obtain ⟨node, rfl⟩ := hfilters
      obtain ⟨st', a, hhandled, background, ends⟩ :=
        Api.handleAt_filters kubectl now api r node body st
      rw [hany, hhandled]
      refine ⟨st', rfl, ?_, ?_⟩
      · rintro _ ⟨⟩ refused
        rw [(hf a).1] at refused
        rcases ends with ⟨-, untouched⟩ | ⟨well, -⟩
        · exact ⟨(hf a).2.trans background, untouched⟩
        · exact absurd (well ▸ refused) (by decide)
      · intro node' hnode
        obtain rfl : node = node' := by
          rw [hroute] at hnode
          cases hnode
          rfl
        refine ⟨_, rfl, (hf a).2.trans background, ?_⟩
        rw [(hf a).1]
        exact ends.imp_right fun ⟨well, filters, checked, edited⟩ =>
          ⟨well, body, filters, hbody rfl, checked, edited⟩
    · obtain ⟨st', hst', ends⟩ := Api.handleAt_harmless kubectl now api r route body st
      rw [hany]
      refine ⟨st', hst', ?_, ?_⟩
      · intro answer hanswer refused
        cases hresult : (api.handleAt kubectl now r route body st).1 with
        | error fault =>
            rw [hresult] at hanswer
            cases hanswer
        | ok a =>
            rw [hresult] at hanswer
            obtain rfl := Except.ok.inj hanswer
            rw [(hf a).1] at refused
            rcases ends a hresult with well | ⟨background, untouched⟩
            · exact absurd (well ▸ refused) (by decide)
            · exact ⟨(hf a).2.trans background, untouched⟩
      · intro node hnode
        rw [hroute] at hnode
        cases hnode
        exact absurd ⟨node, rfl⟩ hfilters

/-- A server with a station at which a capture was found running on a node. -/
def capturingApi : Api where
  token := ""
  station := some
    { settings := {}
      orchestrator := (Orchestrator.create "lab" ["n"]).run
        [.intent (.checkNode "n"), .response (.nodeChecked .success "n" true (some "web") [])]
      bench := { files := .basic ["home"] } }

/-- A request for new filters of that node. -/
def newFilters : HttpRequest where
  method := "PUT"
  path := "/nodes/n/filters"
  content := some "\x7b\"port\": 80, \"app_layer_protocol\": \"DNS\"\x7d"

/-- The filters stay as they are while the capture runs. -/
theorem refused_request_changes_nothing_capturing :
    ∃ answer st st', capturingApi.station = some st
      ∧ capturingApi.handle (fun _ _ => .exited {}) ⟨2024, 5, 6, 0, 0, 0, 0⟩ (.ok st) newFilters
        = (.ok answer, { token := "", station := some st' })
      ∧ answer.status = 409 ∧ answer.background = none ∧ st.Untouched st' := by
  obtain ⟨st, holds⟩ : ∃ st, capturingApi.station = some st := ⟨_, rfl⟩
  obtain ⟨st', hst', hrefused, -⟩ := refused_request_changes_nothing (fun _ _ => .exited {})
    ⟨2024, 5, 6, 0, 0, 0, 0⟩ (.ok st) capturingApi st holds newFilters
  have status : (capturingApi.handle (fun _ _ => .exited {}) ⟨2024, 5, 6, 0, 0, 0, 0⟩ (.ok st)
      newFilters).1.toOption.map HttpAnswer.status = some 409 := by
    obtain rfl := Option.some.inj holds
    decide +kernel
  cases hanswer : (capturingApi.handle (fun _ _ => .exited {}) ⟨2024, 5, 6, 0, 0, 0, 0⟩ (.ok st)
      newFilters).1 with
  | error fault =>
      rw [hanswer] at status
      cases status
  | ok answer =>
      rw [hanswer] at status
      have h409 : answer.status = 409 := Option.some.inj status
      obtain ⟨background, untouched⟩ := hrefused answer hanswer (by rw [h409]; decide)
      exact ⟨answer, st, st', holds, Prod.ext hanswer hst', h409, background, untouched⟩

end NodeCapture
