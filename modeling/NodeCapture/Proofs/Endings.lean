import NodeCapture.Orchestrator

/-! # How operations may end

    `Task.MayEnd` lists the results that a task may end with, whatever kubectl
    replies, whatever files there are, and whatever other operations do in
    between; running a task is one way to one of them (`run_mayEnd`).

    The main statement is that whatever comes of a request answers it: the
    response is of the kind of the request and concerns its node, and for a
    download its capture.  `Operation.Always` carries that through the calls of
    an operation. -/

namespace NodeCapture

namespace Task

variable {α : Type}

/-- A task may end with a result. -/
inductive MayEnd : {n : Nat} → Task α n → α → Prop where
  | done {n : Nat} {result : α} : @MayEnd n (done result) result
  | call {n : Nat} {request : Call} {next : Reply → Task α n} {reply : Reply} {result : α} :
      MayEnd (next reply) result → MayEnd (call request next) result
  | resolve {n : Nat} {path : String} {next : Except PathFault LocalPath → Task α n}
      {resolved : Except PathFault LocalPath} {result : α} :
      MayEnd (next resolved) result → MayEnd (resolve path next) result
  | makeDirectories {n : Nat} {path : LocalPath} {next : Option OsError → Task α n}
      {fault : Option OsError} {result : α} :
      MayEnd (next fault) result → MayEnd (makeDirectories path next) result
  | consult {n : Nat} {next : ClientKnowledge → Task α n} {known : ClientKnowledge} {result : α} :
      MayEnd (next known) result → MayEnd (consult next) result
  | rememberVersion {n : Nat} {version : Version} {next : Task α n} {result : α} :
      MayEnd next result → MayEnd (rememberVersion version next) result

/-- A task that is run ends as it may. -/
theorem run_mayEnd (kubectl : Kubectl) {n : Nat} (t : Task α n) (b : Bench) :
    t.MayEnd (t.run kubectl b).1 := by
  induction t generalizing b with
  | done result => exact .done
  | call request next ih => exact .call (ih _ _)
  | resolve path next ih => exact .resolve (ih _ _)
  | makeDirectories path next ih => exact .makeDirectories (ih _ _)
  | consult next ih => exact .consult (ih _ _)
  | rememberVersion version next ih => exact .rememberVersion (ih _)

end Task

namespace Operation

/-- Every response that an operation may end with has a property. -/
def Always (P : Response → Prop) {n : Nat} (t : Operation n) : Prop :=
  ∀ r, t.MayEnd (.ok r) → P r

variable {P : Response → Prop} {n : Nat}

/-- A response has the property if it does. -/
theorem always_respond {r : Response} (h : P r) : Always P (respond r : Operation n) := by
  intro r' hend
  cases hend
  exact h

/-- Where an operation stops, it does not respond. -/
theorem always_stop {fault : OperationFault} : Always P (stop fault : Operation n) := by
  intro r hend
  cases hend

/-- A call may be replied to in any way. -/
theorem always_call {request : Call} {next : Reply → Operation n}
    (h : ∀ reply, Always P (next reply)) :
    Always P (.call request next : Operation (n + 1)) := by
  intro r hend
  cases hend with
  | call hnext => exact h _ r hnext

/-- A path may be resolved in any way, or not at all. -/
theorem always_resolve {path : String} {next : Except PathFault LocalPath → Operation n}
    (h : ∀ resolved, Always P (next resolved)) : Always P (.resolve path next : Operation n) := by
  intro r hend
  cases hend with
  | resolve hnext => exact h _ r hnext

/-- Making directories may fail or not. -/
theorem always_makeDirectories {path : LocalPath} {next : Option OsError → Operation n}
    (h : ∀ fault, Always P (next fault)) :
    Always P (.makeDirectories path next : Operation n) := by
  intro r hend
  cases hend with
  | makeDirectories hnext => exact h _ r hnext

/-- Anything may be known of the client. -/
theorem always_consult {next : ClientKnowledge → Operation n}
    (h : ∀ known, Always P (next known)) :
    Always P (.consult next : Operation n) := by
  intro r hend
  cases hend with
  | consult hnext => exact h _ r hnext

/-- Remembering a version ends nothing. -/
theorem always_rememberVersion {version : Version} {next : Operation n} (h : Always P next) :
    Always P (.rememberVersion version next : Operation n) := by
  intro r hend
  cases hend with
  | rememberVersion hnext => exact h r hnext

/-- An attempt ends with its failure or goes on. -/
theorem always_attempt {c : Call} {failed : String → Response} {next : String → Operation n}
    (hfailed : ∀ text, P (failed text)) (hnext : ∀ out, Always P (next out)) :
    Always P (attempt c failed next) := by
  refine always_call ?_
  intro reply
  cases reply with
  | exited result =>
      cases hok : result.succeeded with
      | true =>
          simp only [hok, if_true]
          exact hnext _
      | false =>
          simp only [hok]
          exact always_respond (hfailed _)
  | transportError text => exact always_respond (hfailed _)
  | crashed text => exact always_stop

/-- A last call is followed by one response or another. -/
theorem always_attempt_respond {c : Call} {failed finished : String → Response}
    (hfailed : ∀ text, P (failed text)) (hfinished : ∀ out, P (finished out)) :
    Always P (attempt c failed (fun out => respond (finished out)) : Operation (n + 1)) :=
  always_attempt hfailed (fun out => always_respond (hfinished out))

/-- A listing that cannot be read ends nothing with a response. -/
theorem always_reading {α : Type} {listing : Except NumberError α} {next : α → Operation n}
    (h : ∀ a, Always P (next a)) : Always P (reading listing next) := by
  cases listing with
  | ok a => exact h a
  | error e => exact always_stop

end Operation

/-- A response answers a request: it is of its kind and concerns what the
    request concerns. -/
def Response.Answers : Response → Request → Prop
  | .nodeChecked _ node .., .checkNode node' => node = node'
  | .podCreated _ node, .createPod node' => node = node'
  | .podDeleted _ node, .deletePod node' => node = node'
  | .captureStarted _ node, .startCapture node' .. => node = node'
  | .captureStopped _ node _, .stopCapture node' _ => node = node'
  | .downloaded _ node capture _, .download node' capture' _ => node = node' ∧ capture = capture'
  | .interfacesListed _ node _, .listInterfaces node' => node = node'
  | .nodesListed .., .listNodes => True
  | .podsListed _ node _, .listPods node' => node = node'
  | _, _ => False

/-- An answer is of the kind of its request. -/
theorem Response.Answers.kind {r : Response} {q : Request} (h : r.Answers q) :
    r.kind = q.kind := by
  cases r <;> cases q <;> first | rfl | exact h.elim

/-- An answer is about the node of its request. -/
theorem Response.Answers.node? {r : Response} {q : Request} (h : r.Answers q) :
    r.node? = q.node? := by
  cases r <;> cases q <;>
    first | exact h.elim | rfl | exact congrArg some h | exact congrArg some h.1

namespace Operation

variable (s : Settings)

/-- A check answers that it was one, of its node. -/
theorem checkNode_answers (node : String) :
    Always (fun r => r.Answers (.checkNode node)) (checkNode s node) := by
  rw [checkNode]
  refine always_attempt (fun _ => rfl) ?_
  intro names
  dsimp only
  split
  · -- the debug pod is there: it must be ready, and its captures are looked for
    refine always_attempt (fun _ => rfl) ?_
    intro _
    refine always_attempt (fun _ => rfl) ?_
    intro ps
    refine always_reading ?_
    intro processes
    refine always_attempt (fun _ => rfl) ?_
    intro found
    refine always_reading ?_
    intro files
    exact always_respond rfl
  · exact always_respond rfl

/-- The creation of a debug pod answers for its node. -/
theorem createPod_answers (node : String) :
    Always (fun r => r.Answers (.createPod node)) (createPod s node) := by
  rw [createPod]
  refine always_attempt (fun _ => rfl) ?_
  intro _
  refine always_attempt (fun _ => rfl) ?_
  intro _
  refine always_attempt (fun _ => rfl) ?_
  intro _
  exact always_respond rfl

/-- The deletion of a debug pod answers for its node. -/
theorem deletePod_answers (node : String) :
    Always (fun r => r.Answers (.deletePod node)) (deletePod s node) := by
  rw [deletePod]
  refine always_attempt (fun _ => rfl) ?_
  intro _
  refine always_attempt (fun _ => rfl) ?_
  intro _
  exact always_respond rfl

/-- A stop answers for its node and capture. -/
theorem stopCapture_answers (node capture : String) :
    Always (fun r => r.Answers (.stopCapture node capture)) (stopCapture s node capture) := by
  rw [stopCapture]
  refine always_attempt (fun _ => rfl) ?_
  intro ps
  refine always_reading ?_
  intro processes
  dsimp only
  split
  · -- the capture does not run
    exact always_respond rfl
  · refine always_attempt (fun _ => rfl) ?_
    intro _
    refine always_attempt (fun _ => rfl) ?_
    intro found
    refine always_reading ?_
    intro files
    split <;> exact always_respond rfl

/-- Whichever way the client version is found, copying is the last call of a
    download. -/
theorem download_answers (node capture path : String) :
    Always (fun r => r.Answers (.download node capture path)) (download s node capture path) := by
  have copied : ∀ {n : Nat} {c : Call} {failed : String → Response} {r : Response},
      (∀ text, (failed text).Answers (.download node capture path)) →
      r.Answers (.download node capture path) →
      Always (fun r => r.Answers (.download node capture path))
        (attempt c failed (fun _ => respond r) : Operation (n + 1)) := by
    intro n c failed r hfailed hr
    exact always_attempt_respond hfailed (fun _ => hr)
  rw [download]
  refine always_resolve ?_
  intro resolved
  cases resolved with
  | error fault => exact always_stop
  | ok target =>
      refine always_makeDirectories ?_
      intro fault
      cases fault with
      | some e => exact always_respond ⟨rfl, rfl⟩
      | none =>
          refine always_consult ?_
          rintro ⟨version, nesting⟩
          cases version with
          | some version => exact copied (fun _ => ⟨rfl, rfl⟩) ⟨rfl, rfl⟩
          | none =>
              -- a call that may fail, unlike an attempt
              refine always_call ?_
              intro reply
              cases reply with
              | exited result =>
                  dsimp only
                  split
                  · split
                    · exact always_stop
                    · exact always_rememberVersion (copied (fun _ => ⟨rfl, rfl⟩) ⟨rfl, rfl⟩)
                  · exact copied (fun _ => ⟨rfl, rfl⟩) ⟨rfl, rfl⟩
              | transportError text => exact copied (fun _ => ⟨rfl, rfl⟩) ⟨rfl, rfl⟩
              | crashed text => exact always_stop

/-- Every operation answers the request that it is for. -/
theorem ofRequest_answers (q : Request) : Always (fun r => r.Answers q) (ofRequest s q) := by
  cases q with
  | checkNode node => exact checkNode_answers s node
  | createPod node => exact createPod_answers s node
  | deletePod node => exact deletePod_answers s node
  | startCapture node capture filters =>
      rw [ofRequest, startCapture]
      exact always_attempt_respond (fun _ => rfl) (fun _ => rfl)
  | stopCapture node capture => exact stopCapture_answers s node capture
  | download node capture path => exact download_answers s node capture path
  | listInterfaces node =>
      rw [ofRequest, listInterfaces]
      exact always_attempt_respond (fun _ => rfl) (fun _ => rfl)
  | listNodes =>
      rw [ofRequest, listNodes]
      exact always_attempt_respond (fun _ => trivial) (fun _ => trivial)
  | listPods node =>
      rw [ofRequest, listPods]
      exact always_attempt_respond (fun _ => rfl) (fun _ => rfl)

end Operation

/-- The report of a fault answers its request. -/
theorem Request.failure_answers (q : Request) (error : String) : (q.failure error).Answers q := by
  cases q <;> first | exact rfl | exact trivial | exact ⟨rfl, rfl⟩

/-- The responses that may come of a request: the one that its operation ends
    with, or the report of an exception, which may come at any time. -/
inductive Request.Yields (s : Settings) (q : Request) : Response → Prop where
  | ended {result : Except OperationFault Response}
      (ends : (Operation.ofRequest s q).MayEnd result) :
      Yields s q (Orchestrator.responseOf q result)
  | broken (error : String) : Yields s q (q.failure error)

/-- Whatever comes of a request answers it. -/
theorem Request.Yields.answers {s : Settings} {q : Request} {r : Response}
    (h : q.Yields s r) : r.Answers q := by
  cases h with
  | ended ends =>
      rename_i result
      cases result with
      | ok r => exact Operation.ofRequest_answers s q r ends
      | error fault => exact q.failure_answers _
  | broken error => exact q.failure_answers error

end NodeCapture
