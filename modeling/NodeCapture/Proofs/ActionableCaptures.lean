import NodeCapture.Proofs.DistinctCaptures
import NodeCapture.Proofs.Downloads

/-! # Whether captures can be acted on

    A check takes the name of a capture from a path, where it may hold any
    characters but blanks; a request takes letters, digits and a few signs.  A
    capture whose name is of the first kind only is shown like any other, but
    stopping or downloading it ends in an error.  A download is refused also
    where an earlier capture of the same name is being downloaded.

    Apart from these two cases every capture that is shown can be acted on, and
    neither case comes up where checks find capture names that are distinct and
    no start repeats a name. -/

namespace NodeCapture

/-- The capture that goes by a name is not being downloaded. -/
def Node.IdleAt (n : Node) (capture : String) : Prop :=
  ∀ c, n.captures.find? (fun c => c.name == capture) = some c → c.status ≠ .downloading

/-- The names on a node are fit for requests. -/
structure Node.NamesFit (n : Node) : Prop where
  completed : ∀ name ∈ n.names, isCaptureName name
  current : ∀ name, n.captureName = some name → isCaptureName name

/-- A check finds captures with names that are fit for requests. -/
def FindsFit (running : Option String) (completed : List CaptureFile) : Prop :=
  (∀ name, running = some name → isCaptureName name) ∧ ∀ file ∈ completed, isCaptureName file.name

instance (running : Option String) (completed : List CaptureFile) :
    Decidable (FindsFit running completed) :=
  inferInstanceAs (Decidable ((∀ name ∈ running, _) ∧ _))

namespace Orchestrator

variable {o : Orchestrator} {node : String} {n : Node}

/-- Names come from starts, which check them, and from checks of the node. -/
theorem Renames.namesFit {act : Act} {n' : Node} (renames : o.Renames node n act n')
    (h : n.NamesFit) (finds : act.Finds node FindsFit) : n'.NamesFit := by
  cases renames with
  | kept names current =>
      constructor
      · rcases names with names | names
        · rw [names]
          exact h.completed
        · rw [names]
          exact fun name hname => absurd hname List.not_mem_nil
      · intro name hname
        rcases current with current | current
        · exact h.current name (current ▸ hname)
        · rw [current] at hname
          cases hname
  | started accepted named names current =>
      constructor
      · rw [names]
        exact h.completed
      · intro name hname
        rw [current] at hname
        exact Option.some.inj hname ▸ named
  | stopped before names current =>
      constructor
      · intro name hname
        rw [names] at hname
        rcases List.mem_append.mp hname with hname | hname
        · exact h.completed name hname
        · rw [List.mem_singleton.mp hname]
          exact h.current _ before
      · intro name hname
        rw [current] at hname
        cases hname
  | checked found names current =>
      obtain ⟨hrunning, hcompleted⟩ := finds _ found
      constructor
      · rw [names]
        exact List.forall_mem_map.mpr hcompleted
      · intro name hname
        rcases current with current | current
        · rw [current] at hname
          cases hname
        · exact hrunning name (current ▸ hname)

/-- In every run in which the checks of a node find names that are fit for
    requests, the names on the node are. -/
theorem Reaches.namesFit {s : Settings} {cluster : String} {initialNodes : List String}
    {history : List (Orchestrator × Act)}
    (reached : Reaches s (create cluster initialNodes) history o)
    (finds : ∀ e ∈ history, e.2.Finds node FindsFit) : (o.session.stateOf node).NamesFit := by
  induction reached with
  | start => exact ⟨fun _ h => absurd h List.not_mem_nil, fun _ h => nomatch h⟩
  | step before allowed ih =>
      exact (allowed.moves node).renames.namesFit
        (ih (fun e he => finds e (List.mem_cons_of_mem _ he))) (finds _ List.mem_cons_self)

/-! ## Stops and downloads -/

/-- An intent that begins an operation if a name is checked well is accepted
    for names that are fit for requests, and ends in an error for others. -/
theorem accepts_iff_of_checked {i : Intent} {kind : OperationKind} {capture : String}
    {result : String → Orchestrator × Answer}
    (h : o.perform i = (checkedName kind (some capture)).map result)
    (begun : ∀ name, ∃ operation, (result name).2 = .begun operation) :
    (o.Accepts i ↔ isCaptureName capture) ∧ (o.Raises i ↔ ¬isCaptureName capture) := by
  rw [Accepts, Raises, h]
  cases hname : checkedName kind (some capture) with
  | ok name =>
      obtain ⟨hsome, hfit⟩ := checkedName_eq_ok.mp hname
      obtain rfl := Option.some.inj hsome
      obtain ⟨operation, hbegun⟩ := begun capture
      refine ⟨iff_of_true ⟨(result capture).1, operation, ?_⟩ hfit,
        iff_of_false (fun ⟨_, he⟩ => nomatch he) (not_not.mpr hfit)⟩
      rw [← hbegun]
      rfl
  | error e =>
      have hunfit : ¬isCaptureName capture := by
        intro hfit
        rw [checkedName_eq_ok.mpr ⟨rfl, hfit⟩] at hname
        cases hname
      exact ⟨iff_of_false (fun ⟨_, _, ho⟩ => nomatch ho) hunfit, iff_of_true ⟨e, rfl⟩ hunfit⟩

/-- A capture that runs can be stopped if its name is fit for a request. -/
theorem stop_accepted_iff {capture : String} (here : o.session.node? node = some n)
    (running : n.status = .captureRunning) (current : n.captureName = some capture) :
    (o.Accepts (.stopCapture node) ↔ isCaptureName capture)
      ∧ (o.Raises (.stopCapture node) ↔ ¬isCaptureName capture) := by
  have hn : o.nodeIn? node (· == .captureRunning) = some n :=
    nodeIn?_eq_some.mpr ⟨here, by simpa using running⟩
  have hstop : o.perform (.stopCapture node) = (checkedName .stopCapture (some capture)).map
      (fun name => o.begin node Node.markCaptureStopping (.stopCapture node name)) := by
    simp only [perform, beginStop, hn, current]
    rfl
  exact accepts_iff_of_checked hstop (fun _ => ⟨o.submitted, rfl⟩)

/-- A completed capture can be downloaded if its name is fit for a request and
    the capture that goes by it is idle; a name that is unfit is an error only
    where that one is idle. -/
theorem download_accepted_iff {c : Capture} (here : o.session.node? node = some n)
    (fits : n.status.hasPod) (hc : c ∈ n.captures) (path : String) :
    (o.Accepts (.download node c.name path) ↔ isCaptureName c.name ∧ n.IdleAt c.name)
      ∧ (o.Raises (.download node c.name path) ↔ ¬isCaptureName c.name ∧ n.IdleAt c.name) := by
  have hn : o.nodeIn? node NodeStatus.hasPod = some n := nodeIn?_eq_some.mpr ⟨here, fits⟩
  obtain ⟨first, hfirst⟩ : ∃ first, n.captures.find? (fun d => d.name == c.name) = some first :=
    Option.isSome_iff_exists.mp (List.find?_isSome.mpr ⟨c, hc, beq_self_eq_true c.name⟩)
  have hidle : n.IdleAt c.name ↔ first.status ≠ .downloading := by
    rw [Node.IdleAt, hfirst]
    exact ⟨fun h => h first rfl, fun h d hd => Option.some.inj hd ▸ h⟩
  rw [hidle]
  by_cases hbusy : first.status = .downloading
  · have hrefused : o.perform (.download node c.name path) = .ok (o, .refused) := by
      simp only [perform, beginDownload, hn, hfirst, if_pos hbusy]
    refine ⟨iff_of_false ?_ (fun h => h.2 hbusy), iff_of_false ?_ (fun h => h.2 hbusy)⟩
    · rintro ⟨_, _, ho⟩
      rw [hrefused] at ho
      cases ho
    · rintro ⟨_, he⟩
      rw [hrefused] at he
      cases he
  · have hdownload : o.perform (.download node c.name path)
        = (checkedName .download (some c.name)).map (fun name =>
          o.begin node (fun n => n.markDownloading name) (.download node name path)) := by
      simp only [perform, beginDownload, hn, hfirst, if_neg hbusy]
      rfl
    obtain ⟨haccepts, hraises⟩ := accepts_iff_of_checked hdownload (fun _ => ⟨o.submitted, rfl⟩)
    rw [haccepts, hraises]
    exact ⟨(and_iff_left hbusy).symm, (and_iff_left hbusy).symm⟩

/-! ## Runs -/

/-- In every run without injected responses, a node has the name of a capture
    in step with its status. -/
theorem Reaches.nameFollowsStatus {s : Settings} {cluster : String} {initialNodes : List String}
    {history : List (Orchestrator × Act)}
    (reached : Reaches s (create cluster initialNodes) history o) (node : String) :
    (o.session.stateOf node).NameFollowsStatus := by
  refine reached.keeps (P := fun o => (o.session.stateOf node).NameFollowsStatus)
    Node.nameFollowsStatus_empty ?_
  intro o act allowed h
  cases allowed.moves node with
  | stayed selection outstanding state =>
      rw [state]
      exact h.keep rfl rfl
  | begunElsewhere outstanding other state =>
      rw [state]
      exact h
  | begun outstanding mine fits state =>
      rw [state]
      exact Request.mark_nameFollowsStatus h fits
  | endedElsewhere outstanding answers other state =>
      rw [state]
      exact h
  | ended outstanding answers mine state =>
      rw [state]
      exact h.awaiting (fun hs => Response.update_nameFollowsStatus h hs)

end Orchestrator

/-- Where names are distinct, a capture goes by its own. -/
theorem Node.NamesApart.idleAt {n : Node} (h : n.NamesApart) {c : Capture} (hc : c ∈ n.captures)
    (idle : c.status ≠ .downloading) : n.IdleAt c.name := by
  intro first hfirst
  have hname : first.name = c.name := by simpa using List.find?_some hfirst
  rw [List.inj_on_of_nodup_map h.distinct (List.mem_of_find?_eq_some hfirst) hc hname]
  exact idle

/-- What can be done with the captures that a node shows. -/
structure Orchestrator.ActsOn (o : Orchestrator) (node : String) (n : Node) : Prop where
  /-- The capture that runs has a name, and can be stopped if that is fit. -/
  current : n.status = .captureRunning → ∃ capture, n.captureName = some capture
    ∧ (o.Accepts (.stopCapture node) ↔ isCaptureName capture)
    ∧ (o.Raises (.stopCapture node) ↔ ¬isCaptureName capture)
  /-- An idle capture can be downloaded if its name is fit and no other one of
      that name comes before it that is being downloaded. -/
  completed : n.status.hasPod → ∀ c ∈ n.captures, c.status ≠ .downloading → ∀ path,
    (o.Accepts (.download node c.name path) ↔ isCaptureName c.name ∧ n.IdleAt c.name)
      ∧ (o.Raises (.download node c.name path) ↔ ¬isCaptureName c.name ∧ n.IdleAt c.name)

/-- Every capture that a node shows can be acted on. -/
structure Orchestrator.ActsOnAll (o : Orchestrator) (node : String) (n : Node) : Prop where
  current : n.status = .captureRunning → o.Accepts (.stopCapture node)
  completed : n.status.hasPod → ∀ c ∈ n.captures, c.status ≠ .downloading → ∀ path,
    o.Accepts (.download node c.name path)

/-- In every run without injected responses, the captures that a node shows can
    be acted on exactly if their names are fit for requests and go by them; and
    all of them can where the checks of the node find names that are fit and
    distinct, and no start repeats one. -/
theorem shown_captures_actionable_iff {s : Settings} {cluster : String}
    {initialNodes : List String} {history : List (Orchestrator × Act)} {o : Orchestrator}
    (reached : Orchestrator.Reaches s (.create cluster initialNodes) history o) (node : String)
    (n : Node) (here : o.session.node? node = some n) :
    o.ActsOn node n
      ∧ ((∀ e ∈ history, e.2.Finds node FindsFit ∧ e.2.Finds node FindsApart
          ∧ ¬e.1.Repeats node e.2) → o.ActsOnAll node n) := by
  have hstate : o.session.stateOf node = n := Session.stateOf_of_some _ _ here
  have hacts : o.ActsOn node n := by
    refine ⟨?_, fun fits c hc _ path => Orchestrator.download_accepted_iff here fits hc path⟩
    intro running
    have hfollows := reached.nameFollowsStatus node
    rw [hstate, Node.NameFollowsStatus, running] at hfollows
    obtain ⟨capture, current⟩ := Option.isSome_iff_exists.mp hfollows
    exact ⟨capture, current, Orchestrator.stop_accepted_iff here running current⟩
  refine ⟨hacts, fun hgood => ?_⟩
  have hfit := reached.namesFit (fun e he => (hgood e he).1)
  have hapart := reached.namesApart (fun e he => (hgood e he).2.1) (fun e he => (hgood e he).2.2)
  rw [hstate] at hfit hapart
  constructor
  · intro running
    obtain ⟨capture, current, haccepts, -⟩ := hacts.current running
    exact haccepts.mpr (hfit.current capture current)
  · intro fits c hc idle path
    refine (hacts.completed fits c hc idle path).1.mpr ⟨?_, hapart.idleAt hc idle⟩
    exact hfit.completed c.name (List.mem_map_of_mem hc)

/-- A check finds a capture that runs and the file of another one. -/
def checkFinding (running completed : String) : List Cue :=
  [.ask (.checkNode "n"),
    .carryOut 0 [.exited { stdout := "debug-n\n" }, .exited {},
      .exited { stdout := "  412 tcpdump tcpdump --snapshot-length=0 -vvv -w /tmp/capturectl_"
        ++ running ++ ".cap\n" },
      .exited { stdout := "/tmp/capturectl_" ++ completed ++ ".cap\t8\n" }]]

/-- The orchestrator after such a check. -/
def afterFinding (running completed : String) : Orchestrator :=
  ((Orchestrator.create "lab" ["n"]).play {} (checkFinding running completed)).2

/-- Captures with names that are fit can be acted on. -/
theorem shown_captures_actionable_after_check :
    (afterFinding "dns" "web").session.node? "n"
        = some ((afterFinding "dns" "web").session.stateOf "n")
      ∧ ((afterFinding "dns" "web").session.stateOf "n").names = ["web"]
      ∧ (afterFinding "dns" "web").ActsOnAll "n"
          ((afterFinding "dns" "web").session.stateOf "n") := by
  have here := Session.node?_eq_some_stateOf (afterFinding "dns" "web").session "n"
    (by decide +kernel)
  exact ⟨here, by decide +kernel, (shown_captures_actionable_iff
    (Orchestrator.reaches_play {} _ (checkFinding "dns" "web")) "n" _ here).2 (by decide +kernel)⟩

/-- Captures with a plus sign in their names are shown, but neither can the one
    that runs be stopped nor the completed one be downloaded. -/
theorem not_shown_captures_actionable :
    (¬∀ history o, Orchestrator.Reaches {} (.create "lab" ["n"]) history o →
        ∀ n, o.session.node? "n" = some n → n.status = .captureRunning →
          o.Accepts (.stopCapture "n") ∧ ¬o.Raises (.stopCapture "n"))
      ∧ ¬∀ history o, Orchestrator.Reaches {} (.create "lab" ["n"]) history o →
        ∀ n, o.session.node? "n" = some n → n.status.hasPod →
          ∀ c ∈ n.captures, c.status ≠ .downloading → ∀ path,
            o.Accepts (.download "n" c.name path) ∧ ¬o.Raises (.download "n" c.name path) := by
  have here := Session.node?_eq_some_stateOf (afterFinding "a+b" "c+d").session "n"
    (by decide +kernel)
  have reached := Orchestrator.reaches_play {} (.create "lab" ["n"]) (checkFinding "a+b" "c+d")
  constructor
  · intro hstops
    exact absurd (hstops _ _ reached _ here (by decide +kernel)).1 (by decide +kernel)
  · intro hdownloads
    have hc : (⟨"c+d", 8, .completed, none⟩ : Capture)
        ∈ ((afterFinding "a+b" "c+d").session.stateOf "n").captures := by decide +kernel
    exact absurd (hdownloads _ _ reached _ here (by decide +kernel) _ hc (by decide) "/tmp/c").1
      (by decide +kernel)

end NodeCapture
