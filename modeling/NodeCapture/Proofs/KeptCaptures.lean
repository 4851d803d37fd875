import NodeCapture.Proofs.InvalidResponses

/-! # Completed captures are kept

    The captures of a node are files on its debug pod, and the list of them is
    written in four places.  Three replies replace it, each in the one status
    that waits for the reply (`Node.Replaces`).  Everything else that happens
    maps a function over the list which leaves the files alone, and which
    marks no capture but the one that a download is about. -/

namespace NodeCapture

/-- The capture that a file is taken for, before anything is known of
    downloads. -/
def CaptureFile.capture (file : CaptureFile) : Capture :=
  { name := file.name, sizeKb := file.sizeKb }

/-- The file of a capture. -/
def Capture.file (c : Capture) : CaptureFile := ⟨c.name, c.sizeKb⟩

/-- Which replies replace the captures of a node, and by what. -/
inductive Node.Replaces (n : Node) : Response → List Capture → Prop where
  | checked {o : Outcome} {podRunning : Bool} {running : Option String}
      {completed : List CaptureFile} {node : String} (status : n.status = .checking)
      (succeeded : o.succeeded) :
      Replaces n (.nodeChecked o node podRunning running completed)
        (completed.map CaptureFile.capture)
  | stopped {o : Outcome} {file : CaptureFile} {node : String}
      (status : n.status = .captureStopping) (succeeded : o.succeeded)
      (current : n.captureName = some file.name) :
      Replaces n (.captureStopped o node (some file)) (n.captures ++ [file.capture])
  | deleted {o : Outcome} {node : String} (status : n.status = .deletingPod) :
      Replaces n (.podDeleted o node) []

/-- An event is about the download of a capture of a node: the intent to
    download it, which is accepted, or a reply to it, well-formed or not. -/
inductive Orchestrator.ConcernsDownload (o : Orchestrator) (node capture : String) :
    Event → Prop where
  | begun {path : String} {o' : Orchestrator} {operation : Nat}
      (accepted : o.perform (.download node capture path) = .ok (o', .begun operation)) :
      ConcernsDownload o node capture (.intent (.download node capture path))
  | ended (outcome : Outcome) (path : Option String) :
      ConcernsDownload o node capture (.response (.downloaded outcome node capture path))
  | read {name : String} {content : Json}
      (registered : OperationKind.ofName? name = some .download)
      (mine : Session.payloadText? "node" content = some node)
      (which : Session.payloadText? "capture_name" content = some capture) :
      ConcernsDownload o node capture (.payload name content)

/-- Captures are kept: the files are the same in the same order, and what is
    known of downloads differs only for captures with certain names. -/
structure KeptCaptures (marked : String → Prop) (before after : List Capture) : Prop where
  files : after.map Capture.file = before.map Capture.file
  downloads : ∀ (i : Nat) (c c' : Capture), before[i]? = some c → after[i]? = some c' →
    c' ≠ c → marked c.name

namespace KeptCaptures

variable {marked other : String → Prop} {before after : List Capture}

/-- Changing marked captures in their downloads only keeps them. -/
theorem map {f : Capture → Capture} (files : ∀ c, (f c).file = c.file)
    (downloads : ∀ c, f c ≠ c → marked c.name) (captures : List Capture) :
    KeptCaptures marked captures (captures.map f) where
  files := by
    rw [List.map_map]
    exact List.map_congr_left fun c _ => files c
  downloads := by
    intro i c c' hc hc' hne
    rw [List.getElem?_map, hc] at hc'
    obtain rfl : f c = c' := Option.some.inj hc'
    exact downloads c hne

/-- Captures that stay are kept. -/
theorem refl (captures : List Capture) : KeptCaptures marked captures captures := by
  have h : KeptCaptures marked captures (captures.map id) :=
    map (fun _ => rfl) (fun _ h => absurd rfl h) captures
  rwa [List.map_id] at h

/-- What is kept under few marks is kept under more. -/
theorem imp (h : KeptCaptures marked before after) (weaken : ∀ name, marked name → other name) :
    KeptCaptures other before after :=
  ⟨h.files, fun i c c' hc hc' hne => weaken _ (h.downloads i c c' hc hc' hne)⟩

/-- An update of the captures with one name. -/
theorem updateCapture (n : Node) {capture : String} {f : Capture → Capture}
    (files : ∀ c, (f c).file = c.file) (named : marked capture) :
    KeptCaptures marked n.captures (n.updateCapture capture f).captures := by
  refine map ?_ ?_ n.captures
  · intro c
    split
    · exact files c
    · rfl
  · intro c hne
    split at hne
    · next hname => exact hname ▸ named
    · exact absurd rfl hne

/-- An invalid response marks no capture but the one that it names. -/
theorem abandonDownload (captures : List Capture) {capture : Option String}
    (named : ∀ name, capture = some name → marked name) :
    KeptCaptures marked captures (captures.map (Session.abandonDownload capture)) := by
  refine map ?_ ?_ captures
  · intro c
    rw [Session.abandonDownload]
    split <;> rfl
  · intro c hne
    rw [Session.abandonDownload] at hne
    split at hne
    · next h => exact named c.name h.1.symm
    · exact absurd rfl hne

end KeptCaptures

namespace Response

/-- A valid payload of a download is about the capture that it names. -/
theorem capture?_of_ofJson {payload : Json} {r : Response} (h : ofJson .download payload = .ok r) :
    r.capture? = Session.payloadText? "capture_name" payload := by
  rw [ofJson, Checked.titled_eq_ok, Check.record_eq_ok] at h
  obtain ⟨members, rfl, h⟩ := h
  simp only [checkMembers, Checked.map_eq_ok, Checked.apply_eq_ok, Check.required_eq_ok,
    Check.text_eq_ok, exists_eq_right] at h
  obtain ⟨_, ⟨_, ⟨_, ⟨_, -, rfl⟩, _, -, rfl⟩, capture, hcapture, rfl⟩, _, -, rfl⟩ := h
  simp [capture?, Session.payloadText?, Json.get?, hcapture]

/-- A reply that replaces no captures keeps them, and marks none but the one
    that it is about. -/
theorem effect_captures (r : Response) (node : String) {n : Node}
    (keeps : ∀ captures, ¬ n.Replaces r captures) :
    KeptCaptures (fun name => r.capture? = some name) n.captures (r.effect node n).captures := by
  rw [effect]
  rcases Node.awaiting_cases r.kind node r.update n with ⟨hsame, waits⟩ | ⟨_, _, -, -, herror⟩
  · -- the changes that would replace captures are ruled out by `keeps`
    rw [hsame]
    cases r with
    | nodeChecked o name podRunning running completed =>
        have failed : ¬ o.succeeded := fun h => keeps _ (.checked (waits _ rfl) h)
        rw [update, Node.settleCheck, if_neg failed]
        exact .refl _
    | podDeleted o name => exact absurd (.deleted (waits _ rfl)) (keeps [])
    | captureStopped o name capture =>
        simp only [update, Node.settleStop]
        split
        · next succeeded =>
            split
            · next file =>
                split
                · next current =>
                    exact absurd (.stopped (waits _ rfl) succeeded current.symm) (keeps _)
                · exact .refl _
            · exact .refl _
        · exact .refl _
    | downloaded o name capture path =>
        rw [update, Node.settleDownload]
        split
        · exact .updateCapture n (fun _ => rfl) rfl
        · exact .updateCapture n (fun _ => rfl) rfl
    | podCreated o name =>
        rw [update, Node.settleCreation]
        split <;> exact .refl _
    | captureStarted o name =>
        rw [update, Node.settleStart]
        split <;> exact .refl _
    | interfacesListed o name names =>
        rw [update, Node.settleInterfaces]
        split <;> exact .refl _
    | nodesListed o names => exact .refl _
    | podsListed o name pods =>
        rw [update]
        split <;> exact .refl _
  · rw [herror]
    exact .refl _

end Response

namespace Node.Replaces

variable {n : Node} {r : Response} {captures : List Capture}

/-- A reply that replaces the captures is awaited, and does replace them. -/
theorem captures_effect (h : n.Replaces r captures) (node : String) :
    r.kind.awaitedStatus? = some n.status ∧ (r.effect node n).captures = captures := by
  have awaited : r.kind.awaitedStatus? = some n.status := by
    cases h with
    | checked status => rw [status]; rfl
    | stopped status => rw [status]; rfl
    | deleted status => rw [status]; rfl
  refine ⟨awaited, ?_⟩
  have hupdate : r.effect node n = r.update n := by
    rw [Response.effect, Node.awaiting, awaited]
    exact if_pos rfl
  rw [hupdate]
  cases h with
  | checked _ succeeded =>
      rw [Response.update, Node.settleCheck, if_pos succeeded]
      rfl
  | stopped _ succeeded current =>
      simp only [Response.update, Node.settleStop, succeeded, current, if_true]
      rfl
  | deleted _ =>
      rw [Response.update, Node.settleDeletion]
      split <;> rfl

end Node.Replaces

/-- Making a request keeps the captures of its node, and marks none but the
    one that a download asks for. -/
theorem Session.Begins.captures_mark {s s' : Session} {i : Intent} {r : Request} {node : String}
    (h : s.Begins i r s') (mine : r.node? = some node) (n : Node) :
    KeptCaptures (fun capture => ∃ path, i = .download node capture path)
      n.captures (r.mark n).captures := by
  cases h with
  | download =>
      obtain rfl := Option.some.inj mine
      exact .updateCapture n (fun _ => rfl) ⟨_, rfl⟩
  | _ => exact .refl _

namespace Orchestrator

variable {o : Orchestrator} {e : Event} {node : String} {n n' : Node}

/-- An event that brings a response in folds it. -/
theorem session_handle_of_response? {r : Response} (brings : e.response? = some r) :
    (o.handle e).session = o.session.fold r := by
  cases e with
  | intent i => cases brings
  | response r' =>
      obtain rfl : r' = r := Option.some.inj brings
      rfl
  | payload name content =>
      obtain ⟨kind, registered, valid⟩ := Option.bind_eq_some_iff.mp brings
      cases hread : Response.ofJson kind content with
      | error _ =>
          rw [hread] at valid
          cases valid
      | ok r' =>
          rw [hread] at valid
          obtain rfl : r' = r := Option.some.inj valid
          exact Session.foldRaw_of_ok o.session registered hread

/-- A reply that replaces the captures of its node does so, whatever the state
    of the rest. -/
theorem captures_handle_of_replaces {r : Response} {captures : List Capture}
    (brings : e.response? = some r) (mine : r.node? = some node)
    (h : (o.session.stateOf node).Replaces r captures) :
    ((o.handle e).session.stateOf node).captures = captures := by
  obtain ⟨awaited, hcaptures⟩ := h.captures_effect node
  have hstatus : (o.session.stateOf node).status ≠ .unknown := by
    intro hunknown
    rw [hunknown] at awaited
    cases hkind : r.kind <;> rw [hkind] at awaited <;> cases awaited
  have hpods : r.kind ≠ .listPods := by
    intro hkind
    rw [hkind] at awaited
    cases awaited
  have here := Session.node?_eq_some_stateOf o.session node hstatus
  have hafter : (o.handle e).session.node? node
      = some (r.effect node (o.session.stateOf node)) := by
    rw [session_handle_of_response? brings, Session.fold_eq_updateNode _ mine hpods,
      Session.node?_updateNode, if_pos rfl, here]
    rfl
  rw [Session.stateOf_of_some _ _ hafter, hcaptures]

/-- Every other change of a node keeps its captures. -/
theorem Alters.captures (h : o.Alters node n e n')
    (keeps : ∀ r captures, e.response? = some r → r.node? = some node →
      ¬ n.Replaces r captures) :
    KeptCaptures (fun capture => o.ConcernsDownload node capture e) n.captures n'.captures := by
  cases h with
  | edited selection => exact .refl _
  | begun accepted begins mine fits =>
      refine (begins.captures_mark mine n).imp ?_
      rintro capture ⟨path, rfl⟩
      exact .begun accepted
  | received mine =>
      rename_i r
      refine (r.effect_captures node (fun captures => keeps r captures rfl mine)).imp ?_
      intro capture which
      cases r with
      | downloaded outcome name capture' path =>
          obtain rfl := Option.some.inj mine
          obtain rfl := Option.some.inj which
          exact .ended outcome path
      | _ => cases which
  | read registered valid mine =>
      rename_i name content kind r
      have brings := Event.response?_payload registered valid
      refine (r.effect_captures node (fun captures => keeps r captures brings mine)).imp ?_
      intro capture which
      obtain rfl : r.kind = kind := Response.kind_of_ofJson valid
      cases r with
      | downloaded outcome name capture' path =>
          refine .read registered ?_ ?_
          · rw [← Response.node?_of_ofJson valid (fun h => nomatch h), mine]
          · rw [← Response.capture?_of_ofJson valid, which]
      | _ => cases which
  | failed registered nodes mine =>
      rename_i name content kind
      rw [OperationKind.failureEffect_captures]
      cases kind with
      | download =>
          exact .abandonDownload _ (fun capture which => .read registered mine which)
      | _ => exact .refl _

/-- An event that replaces no captures of a node keeps them. -/
theorem captures_handle (o : Orchestrator) (e : Event) (node : String)
    (keeps : ∀ r captures, e.response? = some r → r.node? = some node →
      ¬ (o.session.stateOf node).Replaces r captures) :
    KeptCaptures (fun capture => o.ConcernsDownload node capture e)
      (o.session.stateOf node).captures ((o.handle e).session.stateOf node).captures := by
  rcases o.node?_handle_cases e node with hsame | ⟨hnone, hnew⟩ | ⟨n', hset, halters⟩
  · have hstate : (o.handle e).session.stateOf node = o.session.stateOf node :=
      congrArg (fun n => n.getD {}) hsame
    rw [hstate]
    exact .refl _
  · rw [Session.stateOf_of_none _ _ hnone, Session.stateOf_of_some _ _ hnew]
    exact .refl _
  · rw [Session.stateOf_of_some _ _ hset]
    exact halters.captures keeps

/-- The files that are captured on a node, in the order of the list. -/
def files (o : Orchestrator) (node : String) : List CaptureFile :=
  (o.session.stateOf node).captures.map Capture.file

/-- An event that is no reply to a check or a deletion adds files at the end. -/
theorem files_prefix_handle (o : Orchestrator) {e : Event} {node : String}
    (grows : ∀ r, e.response? = some r → r.node? = some node →
      r.kind ≠ .checkNode ∧ r.kind ≠ .deletePod) :
    o.files node <+: (o.handle e).files node := by
  by_cases replaced : ∃ r captures, e.response? = some r ∧ r.node? = some node
      ∧ (o.session.stateOf node).Replaces r captures
  · obtain ⟨r, captures, brings, mine, h⟩ := replaced
    rw [files, files, captures_handle_of_replaces brings mine h]
    cases h with
    | checked => exact absurd rfl (grows _ brings mine).1
    | stopped =>
        rw [List.map_append]
        exact List.prefix_append _ _
    | deleted => exact absurd rfl (grows _ brings mine).2
  · have kept := o.captures_handle e node
      (fun r captures brings mine h => replaced ⟨r, captures, brings, mine, h⟩)
    have hfiles : (o.handle e).files node = o.files node := kept.files
    exact hfiles ▸ List.prefix_rfl

/-- From one check or deletion to the next, no file is lost and none changes
    its place: what is captured comes behind what there is. -/
theorem files_prefix_run (o : Orchestrator) (node : String) (events : List Event)
    (grows : ∀ e ∈ events, ∀ r, e.response? = some r → r.node? = some node →
      r.kind ≠ .checkNode ∧ r.kind ≠ .deletePod) :
    o.files node <+: (o.run events).files node := by
  induction events generalizing o with
  | nil => exact List.prefix_rfl
  | cons e events ih =>
      rw [run_cons]
      exact (o.files_prefix_handle (grows e List.mem_cons_self)).trans
        (ih (o.handle e) (fun e' he' => grows e' (List.mem_cons_of_mem e he')))

end Orchestrator

/-- In every state, whatever happens: the captures of a node are replaced by a
    successful check, a successful stop of the current capture or a deletion,
    each while the node waits for it, and otherwise they are kept, with nothing
    new to be known of downloads but for the capture of an accepted download or
    of the reply to one. -/
theorem captures_kept_unless_replaced (o : Orchestrator) (e : Event) (node : String) :
    let before := o.session.stateOf node
    let after := (o.handle e).session.stateOf node
    (∀ r captures, e.response? = some r → r.node? = some node → before.Replaces r captures →
        after.captures = captures)
      ∧ ((∃ r captures, e.response? = some r ∧ r.node? = some node ∧ before.Replaces r captures)
        ∨ KeptCaptures (fun capture => o.ConcernsDownload node capture e)
            before.captures after.captures) := by
  intro before after
  refine ⟨fun r captures brings mine h => ?_, Classical.or_iff_not_imp_left.mpr fun keeps => ?_⟩
  · exact Orchestrator.captures_handle_of_replaces brings mine h
  · exact o.captures_handle e node
      (fun r captures brings mine h => keeps ⟨r, captures, brings, mine, h⟩)

/-- A capture that a check found running is being stopped, beside one that was
    completed before. -/
def stoppingCapture : Orchestrator :=
  (Orchestrator.create "lab" ["n"]).run
    [.intent (.checkNode "n"), .response (.nodeChecked .success "n" true (some "new") [⟨"web", 8⟩]),
      .intent (.stopCapture "n")]

/-- The reply for the capture that is being stopped appends it, and a failed
    download of the other one, which nobody asked for, keeps both. -/
theorem captures_kept_unless_replaced_stopping :
    let stopped := stoppingCapture.handle
      (.response (.captureStopped .success "n" (some ⟨"new", 3⟩)))
    let failed : Event := .response (.downloaded (.failure "no file") "n" "web" none)
    (stopped.session.stateOf "n").captures
        = (stoppingCapture.session.stateOf "n").captures ++ [⟨"new", 3, .completed, none⟩]
      ∧ KeptCaptures (fun capture => stopped.ConcernsDownload "n" capture failed)
          (stopped.session.stateOf "n").captures
          ((stopped.handle failed).session.stateOf "n").captures := by
  intro stopped failed
  constructor
  · refine (captures_kept_unless_replaced stoppingCapture _ "n").1 _ _ rfl rfl ?_
    exact .stopped (by decide +kernel) rfl (by decide +kernel)
  · refine (captures_kept_unless_replaced stopped failed "n").2.resolve_left ?_
    rintro ⟨r, captures, brings, -, h⟩
    obtain rfl := Option.some.inj brings
    cases h

end NodeCapture
