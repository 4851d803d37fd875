import NodeCapture.Proofs.Folding
import NodeCapture.Proofs.Intents

/-! # Events

    Whatever happens to an orchestrator from outside: a user has an intent, or
    a response or a payload comes in, which nobody need have asked for.  A run
    is any sequence of such events.  `node?_handle_cases` says what one event
    may do to one node; all that holds of the nodes of a run follows from it. -/

namespace NodeCapture

/-- What may happen to an orchestrator. -/
inductive Event where
  | intent (i : Intent)
  | response (r : Response)
  | payload (name : String) (content : Json)

/-- The response that an event brings in: one that was checked before, or a
    payload that is valid. -/
def Event.response? : Event → Option Response
  | .intent _ => none
  | .response r => some r
  | .payload name content =>
      (OperationKind.ofName? name).bind (fun kind => (Response.ofJson kind content).toOption)

/-- A valid payload of a known name is the response that it is read as. -/
theorem Event.response?_payload {name : String} {content : Json} {kind : OperationKind}
    {r : Response} (registered : OperationKind.ofName? name = some kind)
    (valid : Response.ofJson kind content = .ok r) :
    (Event.payload name content).response? = some r := by
  rw [response?, registered, Option.bind_some, valid]
  rfl

namespace Orchestrator

/-- What becomes of an orchestrator; an intent that ends in an error changes
    nothing. -/
def handle (o : Orchestrator) : Event → Orchestrator
  | .intent i =>
      match o.perform i with
      | .ok (o', _) => o'
      | .error _ => o
  | .response r => o.applyResponse r
  | .payload name content => o.applyRaw name content

/-- What becomes of an orchestrator in a sequence of events. -/
def run (o : Orchestrator) (events : List Event) : Orchestrator := events.foldl handle o

theorem run_cons (o : Orchestrator) (e : Event) (events : List Event) :
    o.run (e :: events) = (o.handle e).run events := rfl

/-- What each event keeps holds throughout a run. -/
theorem run_keeps {P : Orchestrator → Prop} (step : ∀ o e, P o → P (o.handle e))
    {o : Orchestrator} (start : P o) (events : List Event) : P (o.run events) := by
  induction events generalizing o with
  | nil => exact start
  | cons e events ih =>
      rw [run_cons]
      exact ih (step o e start)

end Orchestrator

/-- How an event may change the state of a node. -/
inductive Orchestrator.Alters (o : Orchestrator) (node : String) (n : Node) :
    Event → Node → Prop where
  | edited {i : Intent} (selection : Selection) :
      Alters o node n (.intent i) { n with selection := selection }
  | begun {i : Intent} {r : Request} {o' : Orchestrator} {operation : Nat}
      (accepted : o.perform i = .ok (o', .begun operation))
      (begins : o.session.Begins i r o'.session) (mine : r.node? = some node) (fits : r.Fits n) :
      Alters o node n (.intent i) (r.mark n)
  | received {r : Response} (mine : r.node? = some node) :
      Alters o node n (.response r) (r.effect node n)
  | read {name : String} {content : Json} {kind : OperationKind} {r : Response}
      (registered : OperationKind.ofName? name = some kind)
      (valid : Response.ofJson kind content = .ok r) (mine : r.node? = some node) :
      Alters o node n (.payload name content) (r.effect node n)
  | failed {name : String} {content : Json} {kind : OperationKind}
      (registered : OperationKind.ofName? name = some kind) (nodes : kind ≠ .listNodes)
      (mine : Session.payloadText? "node" content = some node) :
      Alters o node n (.payload name content)
        (kind.failureEffect (Session.payloadText? "capture_name" content)
          (Session.invalidText name) n)

namespace Orchestrator

variable (o : Orchestrator)

/-- A new orchestrator has no state of any node. -/
theorem node?_create (cluster : String) (initialNodes : List String) (node : String) :
    (create cluster initialNodes).session.node? node = none := rfl

/-- What an event may do to a node: nothing, or one of the changes that it is
    allowed.  A node without a state counts as one with an empty state, which
    it may also be given. -/
theorem node?_handle_cases (e : Event) (node : String) :
    (o.handle e).session.node? node = o.session.node? node
      ∨ (o.session.node? node = none ∧ (o.handle e).session.node? node = some {})
      ∨ ∃ n', (o.handle e).session.node? node = some n'
          ∧ o.Alters node (o.session.stateOf node) e n' := by
  -- a folded response does nothing, or gives a first state, or has its effect
  have folds : ∀ {r : Response} {e : Event},
      (∀ n, r.node? = some node → o.Alters node n e (r.effect node n)) →
      (o.session.fold r).node? node = o.session.node? node
        ∨ (o.session.node? node = none ∧ (o.session.fold r).node? node = some {})
        ∨ ∃ n', (o.session.fold r).node? node = some n'
            ∧ o.Alters node (o.session.stateOf node) e n' := by
    intro r e halters
    rcases Session.node?_fold_cases o.session r node with
      hsame | ⟨mine, n, hn, hset⟩ | ⟨-, hnone, hnew⟩
    · exact Or.inl hsame
    · refine Or.inr (Or.inr ⟨_, hset, ?_⟩)
      rw [Session.stateOf_of_some _ _ hn]
      exact halters n mine
    · exact Or.inr (Or.inl ⟨hnone, hnew⟩)
  cases e with
  | intent i =>
      simp only [handle]
      cases hp : o.perform i with
      | error e => exact Or.inl rfl
      | ok result =>
          obtain ⟨o', a⟩ := result
          cases performs_of_perform hp with
          | refused session => exact Or.inl (by rw [session])
          | done adjusts =>
              rcases adjusts.node?_cases node with hsame | hnew | ⟨n, selection, hn, hset⟩
              · exact Or.inl hsame
              · exact Or.inr (Or.inl hnew)
              · refine Or.inr (Or.inr ⟨_, hset, ?_⟩)
                rw [Session.stateOf_of_some _ _ hn]
                exact .edited selection
          | begun begins =>
              rcases begins.node?_cases node with ⟨hsame, -⟩ | ⟨mine, fits, hset⟩
              · exact Or.inl hsame
              · exact Or.inr (Or.inr ⟨_, hset, .begun hp begins mine fits⟩)
  | response r => exact folds (fun _ mine => .received mine)
  | payload name content =>
      show (o.session.foldRaw name content).node? node = _ ∨ _
      rcases Session.foldRaw_cases o.session name content with
        ⟨-, hunknown⟩ | ⟨kind, registered, ⟨r, valid, hread⟩ | hinvalid⟩
      · exact Or.inl (by rw [hunknown]; rfl)
      · have h := folds (r := r) (e := .payload name content)
          (fun _ mine => .read registered valid mine)
        rw [← hread] at h
        exact h
      · rcases Session.node?_recordInvalid_cases o.session kind
            (Session.payloadText? "node" content) (Session.payloadText? "capture_name" content)
            (Session.invalidText name) node with hsame | ⟨nodes, mine, n, hn, hset⟩
        · exact Or.inl (by rw [hinvalid]; exact hsame)
        · refine Or.inr (Or.inr ⟨_, by rw [← hinvalid] at hset; exact hset, ?_⟩)
          rw [Session.stateOf_of_some _ _ hn]
          exact .failed registered nodes mine

/-- What every change of a node keeps holds of all nodes throughout a run. -/
theorem run_keeps_nodes {P : Node → Prop} (empty : P {})
    (alters : ∀ (o : Orchestrator) (node : String) (e : Event) (n n' : Node),
      o.Alters node n e n' → P n → P n')
    (cluster : String) (initialNodes : List String) (events : List Event) :
    ∀ node n, ((create cluster initialNodes).run events).session.node? node = some n → P n := by
  refine run_keeps (P := fun o => ∀ node n, o.session.node? node = some n → P n) ?_ ?_ events
  · intro o e hall node n' hn'
    have hbefore : P (o.session.stateOf node) := by
      cases hn : o.session.node? node with
      | none => rw [Session.stateOf_of_none _ _ hn]; exact empty
      | some n => rw [Session.stateOf_of_some _ _ hn]; exact hall node n hn
    rcases o.node?_handle_cases e node with hsame | ⟨-, hnew⟩ | ⟨m, hset, halters⟩
    · exact hall node n' (by rw [← hsame]; exact hn')
    · rw [hnew] at hn'
      exact Option.some.inj hn' ▸ empty
    · rw [hset] at hn'
      exact Option.some.inj hn' ▸ alters o node e _ m halters hbefore
  · intro node n hn
    rw [node?_create] at hn
    cases hn

end Orchestrator

end NodeCapture
