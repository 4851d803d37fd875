import Mathlib.Data.List.Nodup
import NodeCapture.Proofs.Endings
import NodeCapture.Proofs.Events

/-! # Runs without injected responses

    A run in which all responses are asked for: users have intents, on any
    nodes, and outstanding operations end, in any order, each with a response
    that may come of its request.  `Orchestrator.Reaches` keeps the history of
    a run, so that a property may depend on what happened in it.

    Outstanding operations are numbered one after another, so that ending one
    of them leaves the others as they are (`Numbered.pending_complete_of_other`). -/

namespace NodeCapture

/-- What happens in a run: somebody has an intent, or an operation ends. -/
inductive Act where
  | asked (i : Intent)
  | ended (operation : Nat) (q : Request) (r : Response)

namespace Orchestrator

/-- What becomes of an orchestrator. -/
def advance (o : Orchestrator) : Act → Orchestrator
  | .asked i => o.handle (.intent i)
  | .ended operation _ r => o.complete operation r

/-- What may happen to an orchestrator: anything may be asked for, but only
    what is outstanding ends. -/
inductive Allows (s : Settings) (o : Orchestrator) : Act → Prop where
  | asked (i : Intent) : Allows s o (.asked i)
  | ended {operation : Nat} {q : Request} {r : Response}
      (outstanding : (operation, q) ∈ o.outstanding) (yields : q.Yields s r) :
      Allows s o (.ended operation q r)

/-- What an orchestrator may become, with each act on the way and the
    orchestrator that it happened to, the last one first. -/
inductive Reaches (s : Settings) (start : Orchestrator) :
    List (Orchestrator × Act) → Orchestrator → Prop where
  | start : Reaches s start [] start
  | step {history : List (Orchestrator × Act)} {o : Orchestrator} {act : Act}
      (before : Reaches s start history o) (allowed : o.Allows s act) :
      Reaches s start ((o, act) :: history) (o.advance act)

variable {s : Settings} {start o : Orchestrator} {history : List (Orchestrator × Act)}

/-- What each act keeps holds throughout a run. -/
theorem Reaches.keeps {P : Orchestrator → Prop} (reached : Reaches s start history o)
    (first : P start) (step : ∀ o act, o.Allows s act → P o → P (o.advance act)) : P o := by
  induction reached with
  | start => exact first
  | step before allowed ih => exact step _ _ allowed ih

/-- Each act of the history was allowed, and happened to an orchestrator that
    was reached. -/
theorem Reaches.of_mem {e : Orchestrator × Act} (reached : Reaches s start history o)
    (he : e ∈ history) :
    ∃ earlier, Reaches s start earlier e.1 ∧ e.1.Allows s e.2 := by
  -- by induction on the run: the act is the last one or one before it
  induction reached with
  | start => exact absurd he List.not_mem_nil
  | step before allowed ih =>
      rcases List.mem_cons.mp he with rfl | he
      · exact ⟨_, before, allowed⟩
      · exact ih he

/-- What an act does to the outstanding operations and to a node.  A node
    without a state counts as one with an empty state. -/
inductive Moves (o : Orchestrator) (node : String) : Act → Prop where
  | stayed {i : Intent} (selection : Selection)
      (outstanding : (o.advance (.asked i)).outstanding = o.outstanding)
      (state : (o.advance (.asked i)).session.stateOf node
        = { o.session.stateOf node with selection := selection }) :
      Moves o node (.asked i)
  | begunElsewhere {i : Intent} {r : Request}
      (outstanding : (o.advance (.asked i)).outstanding = o.outstanding ++ [(o.submitted, r)])
      (other : r.node? = some node → r.kind = .listPods)
      (state : (o.advance (.asked i)).session.stateOf node = o.session.stateOf node) :
      Moves o node (.asked i)
  | begun {i : Intent} {r : Request}
      (outstanding : (o.advance (.asked i)).outstanding = o.outstanding ++ [(o.submitted, r)])
      (mine : r.node? = some node) (fits : r.Fits (o.session.stateOf node))
      (state : (o.advance (.asked i)).session.stateOf node
        = r.mark (o.session.stateOf node)) :
      Moves o node (.asked i)
  | endedElsewhere {operation : Nat} {q : Request} {r : Response}
      (outstanding : (operation, q) ∈ o.outstanding) (answers : r.Answers q)
      (other : q.node? = some node → q.kind = .listPods ∨ o.session.node? node = none)
      (state : (o.advance (.ended operation q r)).session.stateOf node
        = o.session.stateOf node) :
      Moves o node (.ended operation q r)
  | ended {operation : Nat} {q : Request} {r : Response}
      (outstanding : (operation, q) ∈ o.outstanding) (answers : r.Answers q)
      (mine : q.node? = some node)
      (state : (o.advance (.ended operation q r)).session.stateOf node
        = r.effect node (o.session.stateOf node)) :
      Moves o node (.ended operation q r)

/-- Each act does one of these things at each node. -/
theorem Allows.moves {act : Act} (allowed : o.Allows s act) (node : String) :
    o.Moves node act := by
  cases allowed with
  | asked i =>
      cases hp : o.perform i with
      | error e =>
          have hsame : o.advance (.asked i) = o := by simp [advance, handle, hp]
          exact .stayed (o.session.stateOf node).selection (by rw [hsame]) (by rw [hsame])
      | ok result =>
          obtain ⟨o', a⟩ := result
          have hnext : o.advance (.asked i) = o' := by simp [advance, handle, hp]
          cases performs_of_perform hp with
          | refused session outstanding =>
              exact .stayed (o.session.stateOf node).selection (by rw [hnext, outstanding])
                (by rw [hnext, session])
          | done adjusts outstanding =>
              obtain ⟨selection, hstate⟩ := adjusts.stateOf node
              exact .stayed selection (by rw [hnext, outstanding]) (by rw [hnext, hstate])
          | begun begins outstanding =>
              rcases begins.node?_cases node with ⟨hsame, other⟩ | ⟨mine, fits, hset⟩
              · refine .begunElsewhere (by rw [hnext, outstanding]) other ?_
                rw [hnext, Session.stateOf, Session.stateOf, hsame]
              · refine .begun (by rw [hnext, outstanding]) mine fits ?_
                rw [hnext, Session.stateOf_of_some _ _ hset]
  | ended outstanding yields =>
      rename_i operation q r
      have answers := yields.answers
      have hstate : ∀ n, (o.session.fold r).node? node = some n →
          (o.advance (.ended operation q r)).session.stateOf node = n := by
        intro n hn
        exact Session.stateOf_of_some _ _ hn
      -- a response leaves the node as it is, settles it, or lists it for the first time
      rcases Session.node?_fold_cases o.session r node with
        hsame | ⟨mine, n, hn, hset⟩ | ⟨-, hnone, hnew⟩
      · by_cases hother : q.node? = some node → q.kind = .listPods ∨ o.session.node? node = none
        · refine .endedElsewhere outstanding answers hother ?_
          show (o.session.fold r).stateOf node = _
          rw [Session.stateOf, Session.stateOf, hsame]
        · -- the node is as before, because that is the effect of the response
          obtain ⟨mine, hpods, hhas⟩ : q.node? = some node ∧ q.kind ≠ .listPods
              ∧ o.session.node? node ≠ none := by
            simpa [not_or] using hother
          obtain ⟨n, hn⟩ := Option.ne_none_iff_exists'.mp hhas
          refine .ended outstanding answers mine (hstate _ ?_)
          rw [Session.fold_eq_updateNode _ (answers.node?.trans mine) (answers.kind ▸ hpods),
            Session.node?_updateNode, if_pos rfl, Session.stateOf_of_some _ _ hn, hn]
          rfl
      · refine .ended outstanding answers (answers.node? ▸ mine) ?_
        rw [hstate _ hset, Session.stateOf_of_some _ _ hn]
      · refine .endedElsewhere outstanding answers (fun _ => Or.inr hnone) ?_
        rw [hstate _ hnew, Session.stateOf_of_none _ _ hnone]

/-! ## Outstanding operations -/

/-- The outstanding operations whose requests are of some sort. -/
def pending (o : Orchestrator) (sort : Request → Bool) : List (Nat × Request) :=
  o.outstanding.filter (fun entry => sort entry.2)

/-- What is pending is outstanding and of its sort. -/
theorem mem_pending {sort : Request → Bool} {entry : Nat × Request} :
    entry ∈ o.pending sort ↔ entry ∈ o.outstanding ∧ sort entry.2 = true :=
  List.mem_filter

/-- A request that is begun becomes pending if it is of the sort. -/
theorem pending_begun {o' : Orchestrator} {r : Request} {sort : Request → Bool}
    (outstanding : o'.outstanding = o.outstanding ++ [(o.submitted, r)]) :
    o'.pending sort
      = if sort r then o.pending sort ++ [(o.submitted, r)] else o.pending sort := by
  unfold pending
  rw [outstanding, List.filter_append]
  cases hsort : sort r <;> simp [hsort]

/-- An operation is the only pending one where there is one at most. -/
theorem pending_eq_singleton {sort : Request → Bool} {operation : Nat} {q : Request}
    (hq : (operation, q) ∈ o.outstanding) (hsort : sort q = true)
    (single : (o.pending sort).length ≤ 1) : o.pending sort = [(operation, q)] := by
  have hmem : (operation, q) ∈ o.pending sort := mem_pending.mpr ⟨hq, hsort⟩
  obtain ⟨entry, hentry⟩ : ∃ entry, o.pending sort = [entry] := by
    refine List.length_eq_one_iff.mp ?_
    have := List.length_pos_of_mem hmem
    omega
  rw [hentry, List.mem_singleton] at hmem
  rw [hentry, hmem]

/-- The outstanding operations have numbers of their own, none of which will
    be used again. -/
structure Numbered (o : Orchestrator) : Prop where
  distinct : (o.outstanding.map Prod.fst).Nodup
  used : ∀ entry ∈ o.outstanding, entry.1 < o.submitted

/-- A number has one request. -/
theorem Numbered.unique (h : o.Numbered) {operation : Nat} {q q' : Request}
    (hq : (operation, q) ∈ o.outstanding) (hq' : (operation, q') ∈ o.outstanding) : q = q' := by
  have hpair := List.inj_on_of_nodup_map h.distinct hq hq' rfl
  exact congrArg Prod.snd hpair

/-- A new orchestrator has used no number. -/
theorem numbered_create (cluster : String) (initialNodes : List String) :
    (create cluster initialNodes).Numbered where
  distinct := List.nodup_nil
  used := fun _ h => absurd h List.not_mem_nil

/-- A number is used for one operation. -/
theorem Numbered.begun {o' : Orchestrator} {r : Request} (h : o.Numbered)
    (outstanding : o'.outstanding = o.outstanding ++ [(o.submitted, r)])
    (submitted : o'.submitted = o.submitted + 1) : o'.Numbered where
  distinct := by
    rw [outstanding, List.map_append, List.nodup_append]
    refine ⟨h.distinct, List.nodup_singleton _, ?_⟩
    intro operation hold number hnew
    obtain ⟨entry, hentry, rfl⟩ := List.mem_map.mp hold
    obtain rfl : number = o.submitted := by simpa using hnew
    exact Nat.ne_of_lt (h.used entry hentry)
  used := by
    intro entry hentry
    rw [outstanding, List.mem_append] at hentry
    rw [submitted]
    rcases hentry with hold | hnew
    · exact Nat.lt_succ_of_lt (h.used entry hold)
    · obtain rfl : entry = (o.submitted, r) := by simpa using hnew
      exact Nat.lt_succ_self _

/-- Completing an operation gives no number away again. -/
theorem Numbered.complete (h : o.Numbered) (operation : Nat) (r : Response) :
    (o.complete operation r).Numbered where
  distinct := List.Nodup.sublist (List.filter_sublist.map _) h.distinct
  used := fun entry hentry => h.used entry (List.mem_filter.mp hentry).1

/-- No step gives a number away twice. -/
theorem Numbered.advance (h : o.Numbered) (act : Act) : (o.advance act).Numbered := by
  cases act with
  | ended operation q r => exact h.complete operation r
  | asked i =>
      simp only [Orchestrator.advance, handle]
      cases hp : o.perform i with
      | error e => exact h
      | ok result =>
          obtain ⟨o', a⟩ := result
          cases performs_of_perform hp with
          | refused session outstanding submitted =>
              exact ⟨by rw [outstanding]; exact h.distinct,
                by rw [outstanding, submitted]; exact h.used⟩
          | done adjusts outstanding submitted =>
              exact ⟨by rw [outstanding]; exact h.distinct,
                by rw [outstanding, submitted]; exact h.used⟩
          | begun begins outstanding submitted => exact h.begun outstanding submitted

/-- The end of an operation leaves those of another sort outstanding. -/
theorem Numbered.pending_complete_of_other (h : o.Numbered) {sort : Request → Bool}
    {operation : Nat} {q : Request} {r : Response} (hq : (operation, q) ∈ o.outstanding)
    (hsort : sort q = false) : (o.complete operation r).pending sort = o.pending sort := by
  show (o.outstanding.filter (fun entry => entry.1 != operation)).filter _ = o.outstanding.filter _
  rw [List.filter_filter]
  refine List.filter_congr ?_
  rintro ⟨number, q'⟩ hentry
  by_cases hnumber : number = operation
  · subst hnumber
    rw [← h.unique hq hentry, hsort]
    rfl
  · simp [hnumber]

/-- The end of the only operation of a sort leaves none of it outstanding. -/
theorem pending_complete_of_single {sort : Request → Bool} {operation : Nat} {q : Request}
    {r : Response} (single : o.pending sort = [(operation, q)]) :
    (o.complete operation r).pending sort = [] := by
  show (o.outstanding.filter (fun entry => entry.1 != operation)).filter _ = []
  rw [List.filter_filter, List.filter_eq_nil_iff]
  rintro entry hentry hboth
  rw [Bool.and_eq_true] at hboth
  have hmem : entry ∈ o.pending sort := mem_pending.mpr ⟨hentry, hboth.1⟩
  rw [single, List.mem_singleton] at hmem
  rw [hmem] at hboth
  simp at hboth

end Orchestrator

/-! ## Plays -/

/-- A kubectl that gives some replies in turn, and cannot be called any more
    after them. -/
def Kubectl.inTurn (replies : List Reply) : Kubectl :=
  fun exchanges _ => (replies[exchanges.length]?).getD (.transportError "no reply")

/-- What comes next in a play: somebody has an intent, or an operation is
    carried out while kubectl gives some replies. -/
inductive Cue where
  | ask (i : Intent)
  | carryOut (operation : Nat) (replies : List Reply)

namespace Orchestrator

/-- The act that a cue is for, where its operation is outstanding. -/
def act? (s : Settings) (o : Orchestrator) : Cue → Option Act
  | .ask i => some (.asked i)
  | .carryOut operation replies =>
      (o.request? operation).map (fun q =>
        .ended operation q (responseOf q
          ((Operation.ofRequest s q).run (.inTurn replies)
            { files := { directories := [], files := [], homes := [] } }).1))

/-- Goes on with a play by one cue. -/
def playOn (s : Settings) (so : List (Orchestrator × Act) × Orchestrator) (cue : Cue) :
    List (Orchestrator × Act) × Orchestrator :=
  match so.2.act? s cue with
  | some act => ((so.2, act) :: so.1, so.2.advance act)
  | none => so

/-- Plays some cues, with the history that comes of it. -/
def play (s : Settings) (o : Orchestrator) (cues : List Cue) :
    List (Orchestrator × Act) × Orchestrator :=
  cues.foldl (playOn s) ([], o)

/-- An operation with a request is outstanding. -/
theorem mem_of_request?_eq_some {o : Orchestrator} {operation : Nat} {q : Request}
    (h : o.request? operation = some q) : (operation, q) ∈ o.outstanding := by
  obtain ⟨⟨number, q'⟩, hfound, rfl⟩ := Option.map_eq_some_iff.mp h
  obtain rfl : number = operation := by simpa using List.find?_some hfound
  exact List.mem_of_find?_eq_some hfound

/-- What a cue leads to is allowed. -/
theorem allows_of_act?_eq_some {s : Settings} {o : Orchestrator} {cue : Cue} {act : Act}
    (h : o.act? s cue = some act) : o.Allows s act := by
  cases cue with
  | ask i =>
      obtain rfl := Option.some.inj h
      exact .asked i
  | carryOut operation replies =>
      obtain ⟨q, hq, rfl⟩ := Option.map_eq_some_iff.mp h
      exact .ended (mem_of_request?_eq_some hq) (.ended (Task.run_mayEnd _ _ _))

/-- A play is a run. -/
theorem reaches_play (s : Settings) (start : Orchestrator) (cues : List Cue) :
    Reaches s start (start.play s cues).1 (start.play s cues).2 := by
  -- the history grows from the one that a play has so far
  have goesOn : ∀ (cues : List Cue) (so : List (Orchestrator × Act) × Orchestrator),
      Reaches s start so.1 so.2 →
        Reaches s start (cues.foldl (playOn s) so).1 (cues.foldl (playOn s) so).2 := by
    intro cues
    induction cues with
    | nil => exact fun _ h => h
    | cons cue cues ih =>
        intro so h
        rw [List.foldl_cons]
        refine ih _ ?_
        rw [playOn]
        split
        · next act hact => exact .step h (allows_of_act?_eq_some hact)
        · exact h
  exact goesOn cues ([], start) .start

end Orchestrator

end NodeCapture
