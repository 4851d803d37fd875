import NodeCapture.CommandLine.Errand
import NodeCapture.Proofs.ShownNames
import NodeCapture.Proofs.Transcripts

/-! # What errands do

    An errand carries intents out one after another.  `Station.Takes` has one
    rule for an intent that needs no operation, or is refused, and one for an
    intent whose operation is carried out to the end (`runIntent_takes`); what
    the latter does to a node is said by `Begins.stateOf_fold`.

    `Errand.After` is what holds after an errand, of its value and the station
    if it ends well, and of the station if it fails or waits for ever.  It has
    one rule for each step that errands are made of. -/

namespace NodeCapture

/-- Nothing tells two states of a node apart but filters, interfaces and errors. -/
structure Node.Alike (n' n : Node) : Prop where
  status : n'.status = n.status
  current : n'.captureName = n.captureName
  captures : n'.captures = n.captures

theorem Node.Alike.refl (n : Node) : n.Alike n := ⟨rfl, rfl, rfl⟩

/-- What the end of an operation awaits is the status that its beginning set. -/
theorem Request.mark_awaited {r : Request} {n : Node} {awaited : NodeStatus}
    (h : r.kind.awaitedStatus? = some awaited) : (r.mark n).status = awaited := by
  cases r <;> cases h <;> rfl

/-- Listing the pods on a node marks nothing there. -/
theorem Request.mark_listPods {r : Request} (h : r.kind = .listPods) (n : Node) : r.mark n = n := by
  cases r with
  | listPods => rfl
  | _ => cases h

/-- A pod list leaves an error on the node at most. -/
theorem Response.effect_alike {r : Response} (h : r.kind = .listPods) (node : String) (n : Node) :
    (r.effect node n).Alike n := by
  cases r with
  | podsListed o name pods =>
      show ((Response.podsListed o name pods).update n).Alike n
      rw [Response.update]
      split
      · exact .refl n
      · exact ⟨rfl, rfl, rfl⟩
  | _ => cases h

namespace Session

variable {s s' : Session} {i : Intent} {r : Request} {response : Response}

/-- Folding changes a node that it does not concern at most by giving it its
    first state. -/
theorem stateOf_fold_of_other {node : String}
    (other : response.node? = some node → response.kind = .listPods) :
    ((s.fold response).stateOf node).Alike (s.stateOf node) := by
  rcases node?_fold_cases s response node with hsame | ⟨mine, n, hn, hset⟩ | ⟨-, hnone, hnew⟩
  · rw [stateOf, hsame]
    exact .refl _
  · rw [stateOf_of_some _ _ hset, stateOf_of_some _ _ hn]
    exact response.effect_alike (other mine) node n
  · rw [stateOf_of_some _ _ hnew, stateOf_of_none _ _ hnone]
    exact .refl _

/-- An operation from its beginning to its end concerns a node, which it marks
    and then updates, or leaves it as it was. -/
theorem Begins.stateOf_fold (begins : s.Begins i r s') (answers : response.Answers r)
    (node : String) :
    (((s'.fold response).stateOf node).Alike (s.stateOf node)
        ∧ (r.node? = some node → r.kind = .listPods))
      ∨ (r.node? = some node ∧ r.Fits (s.stateOf node)
          ∧ (s'.fold response).node? node
              = some (response.update (r.mark (s.stateOf node)))) := by
  rcases begins.node?_cases node with ⟨hsame, other⟩ | ⟨mine, fits, hset⟩
  · refine Or.inl ⟨?_, other⟩
    have hstate : s'.stateOf node = s.stateOf node := by rw [stateOf, hsame, stateOf]
    rw [← hstate]
    refine stateOf_fold_of_other ?_
    intro hnode
    exact answers.kind.trans (other (answers.node?.symm.trans hnode))
  · by_cases hpods : r.kind = .listPods
    · refine Or.inl ⟨?_, fun _ => hpods⟩
      have hstate : s'.stateOf node = s.stateOf node := by
        rw [stateOf_of_some _ _ hset, r.mark_listPods hpods]
      rw [← hstate]
      exact stateOf_fold_of_other (fun _ => answers.kind.trans hpods)
    · refine Or.inr ⟨mine, fits, ?_⟩
      rw [fold_eq_updateNode s' (answers.node?.trans mine) (answers.kind ▸ hpods),
        node?_updateNode, if_pos rfl, hset, Option.map_some, Response.effect]
      -- the node waits for the response since it was marked
      rcases Node.awaiting_cases response.kind node response.update (r.mark (s.stateOf node)) with
        ⟨hupdate, -⟩ | ⟨awaited, text, hawaited, hstatus, -⟩
      · rw [hupdate]
      · exact absurd (Request.mark_awaited (answers.kind ▸ hawaited)) hstatus

end Session

namespace Station

/-- A station comes after another one: some calls were made in between, and
    nothing is outstanding. -/
structure Follows (st : Station) (exchanges : List Exchange) (st' : Station) : Prop where
  settings : st'.settings = st.settings
  idle : st'.orchestrator.outstanding = []
  exchanges : st'.bench.exchanges = exchanges ++ st.bench.exchanges

/-- What was exchanged from one station to a later one is determined. -/
theorem Follows.unique {st st' : Station} {exchanges exchanges' : List Exchange}
    (h : st.Follows exchanges st') (h' : st.Follows exchanges' st') : exchanges = exchanges' :=
  List.append_cancel_right (h.exchanges.symm.trans h'.exchanges)

/-- Where an intent takes a station at which nothing is outstanding. -/
inductive Takes (st : Station) (i : Intent) : Station → Prop where
  | stayed {st' : Station} (declined : ¬st.orchestrator.Accepts i)
      (session : st'.session = st.session ∨ st.session.Adjusts i st'.session)
      (follows : st.Follows [] st') : Takes st i st'
  | carried {st' : Station} {r : Request} {between : Session} {exchanges : List Exchange}
      {result : Except OperationFault Response} (begins : st.session.Begins i r between)
      (leads : (Operation.ofRequest st.settings r).Leads exchanges result)
      (session : st'.session = between.fold (Orchestrator.responseOf r result))
      (follows : st.Follows exchanges st') : Takes st i st'

variable {kubectl : Kubectl} {st : Station}

/-- The end of the only operation of a station. -/
theorem carryOut_carried {o : Orchestrator} {i : Intent} {r : Request}
    (idle : st.orchestrator.outstanding = []) (begins : st.session.Begins i r o.session)
    (outstanding : o.outstanding = st.orchestrator.outstanding ++
      [(st.orchestrator.submitted, r)]) :
    st.Takes i
      (Station.carryOut kubectl { st with orchestrator := o } st.orchestrator.submitted).1 := by
  rw [idle, List.nil_append] at outstanding
  have hrequest : o.request? st.orchestrator.submitted = some r := by
    simp [Orchestrator.request?, outstanding]
  obtain ⟨exchanges, hrun, hleads⟩ :=
    Task.run_leads kubectl (Operation.ofRequest st.settings r) st.bench
  simp only [Station.carryOut, operation?, finish, hrequest, Option.map_some]
  refine .carried begins hleads rfl ⟨rfl, ?_, hrun⟩
  show o.outstanding.filter _ = []
  simp [outstanding]

/-- An intent is an error, or is carried out as far as it goes. -/
theorem runIntent_takes (kubectl : Kubectl) (idle : st.orchestrator.outstanding = []) (i : Intent) :
    (st.orchestrator.Raises i ∧ ∃ e, st.runIntent kubectl i = .error e)
      ∨ ∃ st' response, st.runIntent kubectl i = .ok (st', response) ∧ st.Takes i st' := by
  rw [runIntent, perform]
  cases hp : st.orchestrator.perform i with
  | error e => exact Or.inl ⟨⟨e, hp⟩, e, rfl⟩
  | ok result =>
      obtain ⟨o, answer⟩ := result
      refine Or.inr ?_
      have declined : (∀ operation, answer ≠ .begun operation) → ¬st.orchestrator.Accepts i := by
        rintro hanswer ⟨o', operation, hbegun⟩
        rw [hp] at hbegun
        exact hanswer operation (Prod.mk.inj (Except.ok.inj hbegun)).2
      cases Orchestrator.performs_of_perform hp with
      | refused session outstanding =>
          exact ⟨_, none, rfl, .stayed (declined fun _ h => nomatch h) (Or.inl session)
            ⟨rfl, outstanding.trans idle, rfl⟩⟩
      | done adjusts outstanding =>
          exact ⟨_, none, rfl, .stayed (declined fun _ h => nomatch h) (Or.inr adjusts)
            ⟨rfl, outstanding.trans idle, rfl⟩⟩
      | begun begins outstanding =>
          exact ⟨_, _, rfl, carryOut_carried idle begins outstanding⟩

/-- Making sure that a node is known lists the nodes, if it does anything. -/
theorem ensureKnown_takes (kubectl : Kubectl) (idle : st.orchestrator.outstanding = [])
    (node : String) :
    (st.ensureKnown kubectl node).1 = st ∨ st.Takes .listNodes (st.ensureKnown kubectl node).1 := by
  have hlast : ∀ st' : Station, (if st'.orchestrator.knows node then (st', none)
      else (st', some ((nonEmpty st'.session.error).getD
        ("Node " ++ node ++ " not found in cluster " ++ st'.session.cluster)))).1 = st' := by
    intro st'
    split <;> rfl
  rw [ensureKnown, hlast]
  split
  · exact Or.inl rfl
  · have performs := Orchestrator.performs_beginNodes (o := st.orchestrator)
    rcases hbegin : st.orchestrator.beginNodes with ⟨o, answer⟩
    rw [hbegin] at performs
    cases performs with
    | refused => exact Or.inl rfl
    | done => exact Or.inl rfl
    | begun begins outstanding => exact Or.inr (carryOut_carried idle begins outstanding)

end Station

/-! ## Steps of errands -/

namespace Errand

variable {α β : Type}

/-- What holds after an errand that was begun at a station.  Where nothing else
    is said, the same holds where it waits for ever as where it fails. -/
def After (e : Errand α) (st : Station) (ok : α → Station → Prop) (failed : Station → Prop)
    (waiting : Station → Prop := failed) : Prop :=
  ∀ c : Counter, c.station = st →
    match e.run.run c with
    | (.ok a, c') => ok a c'.station
    | (.error (.failed _), c') => failed c'.station
    | (.error .waiting, c') => waiting c'.station

variable {st : Station} {ok : α → Station → Prop} {failed waiting : Station → Prop}

/-- A result is reached at once. -/
theorem after_pure {a : α} (h : ok a st) : (pure a : Errand α).After st ok failed waiting := by
  rintro c rfl
  exact h

/-- A failure is reached at once. -/
theorem after_fail {fault : CommandFault} (h : failed st) :
    (fail fault : Errand α).After st ok failed waiting := by
  rintro c rfl
  exact h

/-- One errand after another: the second starts where the first one left the
    station. -/
theorem after_bind {e : Errand β} {next : β → Errand α}
    (h : e.After st (fun b st' => (next b).After st' ok failed waiting) failed waiting) :
    (e >>= next).After st ok failed waiting := by
  intro c hc
  have hfirst := h c hc
  show match ((e >>= next).run.run c : Except Halt α × Counter) with
    | (.ok a, c') => ok a c'.station
    | (.error (.failed _), c') => failed c'.station
    | (.error .waiting, c') => waiting c'.station
  rw [ExceptT.run_bind, StateT.run_bind]
  rcases hrun : e.run.run c with ⟨result, c'⟩
  rw [hrun] at hfirst
  cases result with
  | ok b => exact hfirst c' rfl
  | error halt => cases halt <;> exact hfirst

/-- What holds after an errand may be replaced by what it implies. -/
theorem After.imp {ok' : α → Station → Prop} {failed' waiting' : Station → Prop} {e : Errand α}
    (h : e.After st ok failed waiting) (hok : ∀ a st', ok a st' → ok' a st')
    (hfailed : ∀ st', failed st' → failed' st') (hwaiting : ∀ st', waiting st' → waiting' st') :
    e.After st ok' failed' waiting' := by
  intro c hc
  have hrun := h c hc
  revert hrun
  rcases e.run.run c with ⟨(_ | _) | a, c'⟩
  · exact hfailed _
  · exact hwaiting _
  · exact hok a _

/-- The same, where nothing changes about a wait without an end. -/
theorem After.mono {ok' : α → Station → Prop} {failed' : Station → Prop} {e : Errand α}
    (h : e.After st ok failed) (hok : ∀ a st', ok a st' → ok' a st')
    (hfailed : ∀ st', failed st' → failed' st') : e.After st ok' failed' :=
  h.imp hok hfailed hfailed

/-- What two assertions say of an errand holds together. -/
theorem After.and {ok' : α → Station → Prop} {failed' waiting' : Station → Prop} {e : Errand α}
    (h : e.After st ok failed waiting) (h' : e.After st ok' failed' waiting') :
    e.After st (fun a st' => ok a st' ∧ ok' a st') (fun st' => failed st' ∧ failed' st')
      (fun st' => waiting st' ∧ waiting' st') := by
  intro c hc
  have hrun := h c hc
  have hrun' := h' c hc
  revert hrun hrun'
  rcases e.run.run c with ⟨(_ | _) | _, c'⟩ <;> exact And.intro

/-- Nothing is claimed where anything may hold. -/
theorem after_anything {e : Errand α} : e.After st (fun _ _ => True) (fun _ => True) := by
  intro c _
  rcases e.run.run c with ⟨(_ | _) | _, c'⟩ <;> exact trivial

/-- Printing a line leaves the station as it is. -/
theorem after_say {ok : Unit → Station → Prop} {line : String} (h : ok () st) :
    (say line).After st ok failed waiting := by
  rintro c rfl
  exact h

/-- A wait leaves the station as it is, whether it is over or not. -/
theorem after_wait {ok : Unit → Station → Prop} {wakes : Binary64 → Bool} {seconds : Binary64}
    (h : ok () st) (hwaiting : wakes seconds = false → waiting st) :
    (wait wakes seconds).After st ok failed waiting := by
  rintro c rfl
  unfold wait
  cases hwakes : wakes seconds with
  | true => exact h
  | false => exact hwaiting hwakes

/-- Looking at the counter leaves the station as it is. -/
theorem after_get {ok : Counter → Station → Prop} (h : ∀ c, c.station = st → ok c st) :
    (get : Errand Counter).After st ok failed waiting := by
  rintro c rfl
  exact h c rfl

/-- Setting the counter sets the station. -/
theorem after_set {ok : Unit → Station → Prop} {c : Counter} (h : ok () c.station) :
    (set c : Errand Unit).After st ok failed waiting :=
  fun _ _ => h

/-- The session that is looked at is that of the station. -/
theorem after_session {ok : Session → Station → Prop} (h : ok st.session st) :
    session.After st ok failed waiting := by
  rintro c rfl
  exact h

/-- The node that is looked at is that of the session. -/
theorem after_node {ok : Node → Station → Prop} {name : String}
    (h : ok (st.session.stateOf name) st) : (node name).After st ok failed waiting := by
  rintro c rfl
  exact h

/-- A value is there, or the errand fails. -/
theorem after_expect {ε : Type} {fault : ε → CommandFault} {value : Except ε α}
    (hok : ∀ a, ok a st) (hfailed : failed st) :
    (expect fault value).After st ok failed waiting := by
  cases value with
  | ok a => exact after_pure (hok a)
  | error e => exact after_fail hfailed

/-- A step that is taken in some cases only, and what follows it. -/
theorem after_when {p : Prop} [Decidable p] {e : Errand Unit} {next : Unit → Errand α}
    (taken : p → e.After st (fun _ st' => (next ()).After st' ok failed waiting) failed waiting)
    (skipped : ¬p → (next ()).After st ok failed waiting) :
    (if p then e >>= next else next ()).After st ok failed waiting := by
  split
  · next hp => exact after_bind (taken hp)
  · next hp => exact skipped hp

/-- A check on the way: where it fails, the errand does. -/
theorem after_unless {p : Prop} [Decidable p] {fault : CommandFault} {next : Unit → Errand α}
    (hfailed : p → failed st) (hnext : ¬p → (next ()).After st ok failed waiting) :
    (if p then fail fault >>= next else next ()).After st ok failed waiting :=
  after_when (fun hp => after_fail (hfailed hp)) hnext

/-- An intent is taken, or raises an error and changes nothing. -/
theorem after_carryOut {kubectl : Kubectl} {ok : Unit → Station → Prop} {i : Intent}
    (idle : st.orchestrator.outstanding = []) (raised : st.orchestrator.Raises i → failed st)
    (taken : ∀ st', st.Takes i st' → ok () st') :
    (carryOut kubectl i).After st ok failed waiting := by
  refine after_bind (after_get ?_)
  rintro c rfl
  rcases Station.runIntent_takes kubectl idle i with ⟨hraises, e, he⟩ | ⟨st', response, hst, htakes⟩
  · rw [he]
    exact after_fail (raised hraises)
  · rw [hst]
    exact after_set (taken st' htakes)

/-- Nodes are listed where a name is not known yet. -/
theorem after_ensureKnown {kubectl : Kubectl} {ok : Unit → Station → Prop} {name : String}
    (idle : st.orchestrator.outstanding = [])
    (reached : ∀ st', st' = st ∨ st.Takes .listNodes st' → ok () st' ∧ failed st') :
    (ensureKnown kubectl name).After st ok failed waiting := by
  refine after_bind (after_get ?_)
  rintro c rfl
  obtain ⟨hok, hfailed⟩ := reached _ (Station.ensureKnown_takes kubectl idle name)
  revert hok hfailed
  rcases c.station.ensureKnown kubectl name with ⟨st', _ | error⟩
  · exact fun hok _ => after_bind (after_set (after_pure hok))
  · exact fun _ hfailed => after_bind (after_set (after_fail hfailed))

/-- What is done last is not done where an errand waits for ever. -/
theorem withLast_run_of_waiting {e : Errand α} {last : Errand Unit} {c c' : Counter}
    (hrun : e.run.run c = (.error .waiting, c')) :
    (withLast e last).run.run c = (.error .waiting, c') := by
  rw [withLast, ExceptT.run_mk, StateT.run_bind, hrun]
  rfl

/-- What is done last follows an errand that ends, of which the result stands if
    this ends well, too. -/
theorem withLast_run_of_ended {e : Errand α} {last : Errand Unit} {c c' c'' : Counter}
    {result : Except Halt α} {outcome : Except Halt Unit} (hrun : e.run.run c = (result, c'))
    (ended : result ≠ .error .waiting) (hlast : last.run.run c' = (outcome, c'')) :
    (withLast e last).run.run c = (outcome.bind fun _ => result, c'') := by
  have follows : ∀ next : Except Halt Unit → StateM Counter (Except Halt α),
      (last.run >>= next).run c' = (next outcome).run c'' := by
    intro next
    rw [StateT.run_bind, hlast]
    rfl
  rw [withLast, ExceptT.run_mk, StateT.run_bind, hrun]
  cases result with
  | ok a =>
      refine (follows _).trans ?_
      cases outcome <;> rfl
  | error halt =>
      cases halt with
      | failed fault =>
          refine (follows _).trans ?_
          cases outcome <;> rfl
      | waiting => exact absurd rfl ended

/-- What is done last follows an errand that ends well and one that fails, and
    only where both end well does the whole.  It does not follow an errand that
    waits for ever. -/
theorem after_withLast {e : Errand α} {last : Errand Unit} {P : α → Station → Prop}
    {F W : Station → Prop} (h : e.After st P F W)
    (hlast : ∀ a st', P a st' → last.After st' (fun _ => ok a) failed waiting)
    (hfailed : ∀ st', F st' → last.After st' (fun _ => failed) failed waiting)
    (hwaiting : ∀ st', W st' → waiting st') : (withLast e last).After st ok failed waiting := by
  intro c hc
  have hfirst := h c hc
  revert hfirst
  rcases hrun : e.run.run c with ⟨(fault | _) | a, c'⟩
  · intro hfirst
    have hend := hfailed _ hfirst c' rfl
    revert hend
    rcases hran : last.run.run c' with ⟨(_ | _) | _, c''⟩ <;>
      rw [withLast_run_of_ended hrun (by rintro ⟨⟩) hran] <;> exact id
  · rw [withLast_run_of_waiting hrun]
    exact hwaiting _
  · intro hfirst
    have hend := hlast a _ hfirst c' rfl
    revert hend
    rcases hran : last.run.run c' with ⟨(_ | _) | _, c''⟩ <;>
      rw [withLast_run_of_ended hrun (by rintro ⟨⟩) hran] <;> exact id

end Errand

end NodeCapture
