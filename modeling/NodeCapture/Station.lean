import NodeCapture.Orchestrator

/-!
# Carrying operations out

    A station is an orchestrator with what its operations have at hand. An operation is
    carried out alone, or together with others: then each in turn has one of its calls
    answered, round after round, until all have ended.
-/

namespace NodeCapture

/-- An orchestrator at work. -/
structure Station where
  settings : Settings
  orchestrator : Orchestrator
  bench : Bench

namespace Station

/-- The session of the cluster. -/
def session (st : Station) : Session := st.orchestrator.session

/-- The state of a node. -/
def node? (st : Station) (node : String) : Option Node := st.orchestrator.node? node

/-- Carries an intent out as far as that needs no operation. -/
def perform (st : Station) (intent : Intent) : Except ValidationError (Station × Answer) := do
  let (o, answer) ← st.orchestrator.perform intent
  return ({ st with orchestrator := o }, answer)

/-- What an outstanding operation has to do. -/
def operation? (st : Station) (operation : Nat) : Option (Operation 4) :=
  (st.orchestrator.request? operation).map (Operation.ofRequest st.settings)

/-- Ends an operation with a response. -/
def complete (st : Station) (operation : Nat) (r : Response) : Station :=
  { st with orchestrator := st.orchestrator.complete operation r }

/-- Ends an operation with its result; the response that it ends with is none where it was
    not outstanding. -/
def finish (st : Station) (operation : Nat) (result : Except OperationFault Response) :
    Station × Option Response :=
  match st.orchestrator.request? operation with
  | some request =>
    let r := Orchestrator.responseOf request result
    (st.complete operation r, some r)
  | none => (st, none)

/-- Carries an outstanding operation out. -/
def carryOut (kubectl : Kubectl) (st : Station) (operation : Nat) : Station × Option Response :=
  match st.operation? operation with
  | some task =>
    let (result, bench) := task.run kubectl st.bench
    { st with bench := bench }.finish operation result
  | none => (st, none)

/-- Carries an intent out to the end of its operation, if it begins one. -/
def runIntent (kubectl : Kubectl) (st : Station) (intent : Intent) :
    Except ValidationError (Station × Option Response) := do
  let (st, answer) ← st.perform intent
  match answer with
  | .begun operation => return st.carryOut kubectl operation
  | _ => return (st, none)

/-! ## Several operations together -/

/-- Ends the operations that are done, and leaves the others. -/
def settleDone {n : Nat} : List (Nat × Operation n) → Station → List (Nat × Operation n) × Station
  | [], st => ([], st)
  | (operation, task) :: rest, st =>
    match task.result? with
    | some result => settleDone rest (st.finish operation result).1
    | none =>
      let (tasks, st) := settleDone rest st
      ((operation, task) :: tasks, st)

/-- Answers one call of each operation in turn; an operation that is done then ends. -/
def round (kubectl : Kubectl) {n : Nat} :
    List (Nat × Operation n) → Station → List (Nat × Operation (n - 1)) × Station
  | [], st => ([], st)
  | (operation, task) :: rest, st =>
    let (task, bench) := task.answer kubectl st.bench
    let st := { st with bench := bench }
    match task.result? with
    | some result => round kubectl rest (st.finish operation result).1
    | none =>
      let (tasks, st) := round kubectl rest st
      ((operation, task) :: tasks, st)

/-- Goes on with operations round after round. -/
def drain (kubectl : Kubectl) : (n : Nat) → List (Nat × Operation n) → Station → Station
  | 0, tasks, st => (settleDone tasks st).2
  | n + 1, tasks, st =>
    let (tasks, st) := round kubectl tasks st
    drain kubectl n tasks st

/-- Goes on with each of some outstanding operations to its first call; one that ends
    before it has ended. -/
def beginAll : List Nat → Station → List (Nat × Operation 4) × Station
  | [], st => ([], st)
  | operation :: rest, st =>
    match st.operation? operation with
    | none => beginAll rest st
    | some task =>
      let (task, bench) := task.toCall st.bench
      let st := { st with bench := bench }
      match task.result? with
      | some result => beginAll rest (st.finish operation result).1
      | none =>
        let (tasks, st) := beginAll rest st
        ((operation, task) :: tasks, st)

/-- Carries outstanding operations out together. -/
def carryOutTogether (kubectl : Kubectl) (st : Station) (operations : List Nat) : Station :=
  let (tasks, st) := beginAll operations st
  drain kubectl 4 tasks st

end Station

end NodeCapture
