import NodeCapture.Proofs.ShownNames

/-! # Whether names tell captures apart

    A download says by name which capture it is for, and so does the response
    to a stop.  The names on a node are distinct as long as no capture is
    started under the name of a completed one.  Such a start is accepted; the
    current capture and a completed one then have one name, and after the stop
    two completed ones have it. -/

namespace NodeCapture

/-- The names on a node tell its captures apart. -/
structure Node.NamesApart (n : Node) : Prop where
  distinct : n.names.Nodup
  current : ∀ name, n.captureName = some name → name ∉ n.names

/-- A check finds captures with distinct names. -/
def FindsApart (running : Option String) (completed : List CaptureFile) : Prop :=
  (completed.map CaptureFile.name).Nodup
    ∧ ∀ name, running = some name → name ∉ completed.map CaptureFile.name

instance (running : Option String) (completed : List CaptureFile) :
    Decidable (FindsApart running completed) :=
  inferInstanceAs (Decidable (_ ∧ ∀ name, name ∈ running → _))

theorem namesApart_empty : Node.NamesApart {} := ⟨List.nodup_nil, fun _ h => nomatch h⟩

/-- The capture that an act asks to start on a node. -/
def Act.started? (node : String) : Act → Option String
  | .asked (.startCapture started capture) => if started = node then some capture else none
  | _ => none

/-- Only the request to start a capture starts one. -/
theorem Act.eq_of_started?_eq_some {node capture : String} {act : Act}
    (h : act.started? node = some capture) : act = .asked (.startCapture node capture) := by
  unfold started? at h
  split at h
  · next started name =>
      split at h
      · next hnode =>
          obtain rfl := Option.some.inj h
          rw [hnode]
      · cases h
  · cases h

namespace Orchestrator

variable {o : Orchestrator} {node : String}

/-- An act starts a capture under the name of a completed one. -/
def Repeats (o : Orchestrator) (node : String) (act : Act) : Prop :=
  ∃ capture ∈ act.started? node,
    o.Accepts (.startCapture node capture) ∧ capture ∈ (o.session.stateOf node).names

instance (act : Act) : Decidable (o.Repeats node act) :=
  inferInstanceAs (Decidable (∃ capture ∈ act.started? node, _))

/-- An act that repeats no name keeps the names apart. -/
theorem Renames.namesApart {act : Act} {n' : Node}
    (renames : o.Renames node (o.session.stateOf node) act n')
    (h : (o.session.stateOf node).NamesApart) (finds : act.Finds node FindsApart)
    (fresh : ¬o.Repeats node act) : n'.NamesApart := by
  cases renames with
  | kept names current =>
      constructor
      · rcases names with names | names
        · rw [names]
          exact h.distinct
        · rw [names]
          exact List.nodup_nil
      · intro name hname hmem
        rcases current with current | current
        · rcases names with names | names
          · exact h.current name (current ▸ hname) (names ▸ hmem)
          · rw [names] at hmem
            exact absurd hmem List.not_mem_nil
        · rw [current] at hname
          cases hname
  | started accepted named names current =>
      constructor
      · rw [names]
        exact h.distinct
      · intro name hname hmem
        rw [current] at hname
        obtain rfl := Option.some.inj hname
        -- the name is among the completed ones only if the start repeated it
        exact fresh ⟨_, if_pos rfl, accepted, names ▸ hmem⟩
  | stopped before names current =>
      rename_i capture
      constructor
      · -- the current name goes to the end of the list, where it was not before
        rw [names, List.nodup_append]
        refine ⟨h.distinct, List.nodup_singleton capture, ?_⟩
        rintro name hname other hother rfl
        rw [List.mem_singleton.mp hother] at hname
        exact h.current capture before hname
      · intro name hname
        rw [current] at hname
        cases hname
  | checked found names current =>
      obtain ⟨hdistinct, hrunning⟩ := finds _ found
      constructor
      · rw [names]
        exact hdistinct
      · intro name hname
        rw [names]
        rcases current with current | current
        · rw [current] at hname
          cases hname
        · exact hrunning name (current ▸ hname)

/-- An act that repeats a name leaves a node on which two captures have it. -/
theorem Repeats.not_namesApart {act : Act} (h : o.Repeats node act) :
    ¬((o.advance act).session.stateOf node).NamesApart := by
  obtain ⟨capture, hstarted, ⟨o', operation, hp⟩, hmem⟩ := h
  obtain rfl := Act.eq_of_started?_eq_some hstarted
  have hnext : o.advance (.asked (.startCapture node capture)) = o' := by
    simp [advance, handle, hp]
  rw [hnext]
  cases performs_of_perform hp with
  | begun begins outstanding submitted =>
      rename_i r
      obtain ⟨filters, rfl⟩ : ∃ filters, r = .startCapture node capture filters := by
        generalize o'.session = after at begins
        cases begins
        exact ⟨_, rfl⟩
      rcases begins.node?_cases node with ⟨-, other⟩ | ⟨-, -, hset⟩
      · cases other rfl
      · rw [Session.stateOf_of_some _ _ hset]
        exact fun hapart => hapart.current capture rfl hmem

/-- The names on a node stay apart as long as its checks find them so and no
    start repeats one. -/
theorem Reaches.namesApart {s : Settings} {cluster : String} {initialNodes : List String}
    {history : List (Orchestrator × Act)}
    (reached : Reaches s (create cluster initialNodes) history o)
    (finds : ∀ e ∈ history, e.2.Finds node FindsApart)
    (fresh : ∀ e ∈ history, ¬e.1.Repeats node e.2) : (o.session.stateOf node).NamesApart := by
  induction reached with
  | start => exact namesApart_empty
  | step before allowed ih =>
      refine (allowed.moves node).renames.namesApart (ih ?_ ?_) (finds _ List.mem_cons_self)
        (fresh _ List.mem_cons_self)
      · exact fun e he => finds e (List.mem_cons_of_mem _ he)
      · exact fun e he => fresh e (List.mem_cons_of_mem _ he)

end Orchestrator

/-- In every run in which the checks of a node find captures with distinct
    names, the names on the node are apart as long as no start is accepted that
    repeats the name of a completed capture, and are not after each start that
    does. -/
theorem names_apart_unless_repeated {s : Settings} {cluster : String} {initialNodes : List String}
    {history : List (Orchestrator × Act)} {o : Orchestrator}
    (reached : Orchestrator.Reaches s (.create cluster initialNodes) history o) (node : String)
    (finds : ∀ e ∈ history, e.2.Finds node FindsApart) :
    ((∀ e ∈ history, ¬e.1.Repeats node e.2) → (o.session.stateOf node).NamesApart)
      ∧ ∀ e ∈ history, e.1.Repeats node e.2 →
        ¬((e.1.advance e.2).session.stateOf node).NamesApart :=
  ⟨reached.namesApart finds, fun _ _ hrepeats => hrepeats.not_namesApart⟩

/-- A check finds the file of a capture, and then one is to start. -/
def startNamed (capture : String) : List Cue :=
  [.ask (.checkNode "n"),
    .carryOut 0 [.exited { stdout := "debug-n\n" }, .exited {}, .exited {},
      .exited { stdout := "/tmp/capturectl_web.cap\t8\n" }],
    .ask (.startCapture "n" capture)]

/-- A capture with a name of its own leaves the names apart. -/
theorem names_apart_after_start :
    (((Orchestrator.create "lab" ["n"]).play {} (startNamed "dns")).2.session.stateOf
        "n").captureName = some "dns"
      ∧ (((Orchestrator.create "lab" ["n"]).play {} (startNamed "dns")).2.session.stateOf
        "n").NamesApart := by
  refine ⟨by decide +kernel, (names_apart_unless_repeated
    (Orchestrator.reaches_play {} _ (startNamed "dns")) "n" ?_).1 ?_⟩
  · decide +kernel
  · decide +kernel

/-- A capture with the name of the completed one is started as well, and after
    its stop there are two of that name. -/
theorem not_names_apart : ¬∀ history o,
    Orchestrator.Reaches {} (.create "lab" ["n"]) history o →
      (∀ e ∈ history, e.2.Finds "n" FindsApart) →
        (o.session.stateOf "n").names.Nodup := by
  intro hdistinct
  have htwice := hdistinct _ _ (Orchestrator.reaches_play {} _ (startNamed "web" ++
    [.carryOut 1 [.exited {}], .ask (.stopCapture "n"),
      .carryOut 2 [.exited { stdout :=
          "  412 tcpdump tcpdump --snapshot-length=0 -vvv -w /tmp/capturectl_web.cap\n" },
        .exited {}, .exited { stdout := "/tmp/capturectl_web.cap\t16\n" }]]))
  exact absurd (htwice (by decide +kernel)) (by decide +kernel)

end NodeCapture
