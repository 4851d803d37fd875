import NodeCapture.Proofs.StatusTable

/-! # Invalid responses and failed ones

    A payload that is no valid response, but tells which operation it belongs
    to, is to count as the failure of that operation.  It does, except for the
    captures of the node (`invalid_eq_failed_iff`): where the debug pod was to
    be deleted they stay listed, and a capture that was downloaded before
    keeps the path of its old file. -/

namespace NodeCapture

/-- The capture that a response concerns. -/
def Response.capture? : Response → Option String
  | .downloaded _ _ capture _ => some capture
  | _ => none

/-- A payload tells which operation of a kind it belongs to: its node waits
    for a response of that kind, or what the operation loads is being loaded. -/
inductive Session.Identifies (s : Session) (payload : Json) : OperationKind → Prop where
  | nodes : Identifies s payload .listNodes
  | status {kind : OperationKind} {node : String} {n : Node}
      (named : payloadText? "node" payload = some node) (here : s.node? node = some n)
      (waits : kind.awaitedStatus? = some n.status) : Identifies s payload kind
  | download {node capture : String} {n : Node} {c : Capture}
      (named : payloadText? "node" payload = some node) (here : s.node? node = some n)
      (which : payloadText? "capture_name" payload = some capture) (listed : c ∈ n.captures)
      (name : c.name = capture) (marked : c.status = .downloading) : Identifies s payload .download
  | interfaces {node : String} {n : Node} (named : payloadText? "node" payload = some node)
      (here : s.node? node = some n) (loading : n.interfaces = .loading) :
      Identifies s payload .listInterfaces
  | pods {node : String} {n : Node} {item : ListedNode}
      (named : payloadText? "node" payload = some node) (here : s.node? node = some n)
      (listed : s.reference.get? node = some item) (loading : item.pods = .loading) :
      Identifies s payload .listPods

/-- A response reports the failure of the operation that a payload belongs to,
    with an error. -/
structure Response.ReportsFailure (r : Response) (kind : OperationKind) (payload : Json)
    (error : String) : Prop where
  answers : r.kind = kind
  fails : r.outcome = .failure error
  mine : kind ≠ .listNodes → r.node? = Session.payloadText? "node" payload
  which : kind = .download → r.capture? = Session.payloadText? "capture_name" payload

namespace OperationKind

/-- The captures of a node after the failure of an operation. -/
def capturesAfterFailure (kind : OperationKind) (capture : Option String)
    (captures : List Capture) : List Capture :=
  match kind with
  | .deletePod => []
  | .download => captures.map (fun c =>
      if some c.name = capture then { c with status := .completed, localPath := none } else c)
  | _ => captures

/-- The captures of a node after an invalid response. -/
def capturesAfterInvalid (kind : OperationKind) (capture : Option String)
    (captures : List Capture) : List Capture :=
  match kind with
  | .download => captures.map (Session.abandonDownload capture)
  | _ => captures

end OperationKind

/-- Replaces the captures of a node. -/
def Session.withCaptures (s : Session) (node : String) (captures : List Capture) : Session :=
  s.updateNode node (fun n => { n with captures := captures })

/-- The failure of an operation has no more to forget about the captures of a
    node than an invalid response: nothing was captured before the debug pod
    was to be deleted, and the capture was not downloaded before. -/
structure Node.NothingToForget (n : Node) (kind : OperationKind) (capture : Option String) :
    Prop where
  deletion : kind = .deletePod → n.captures = []
  download : kind = .download → ∀ c ∈ n.captures, some c.name = capture →
    c.status ≠ .downloaded ∧ c.localPath = none

namespace Node

variable {n : Node} {kind : OperationKind} {error : String}

/-- A failure with a text has this error. -/
@[simp]
theorem errorOr_failure (h : error ≠ "") (text : String) :
    errorOr (.failure error) text = error := by
  simp [errorOr, Outcome.failure, nonEmpty, h]

/-- Ending a download leaves a capture as abandoning it does where there is
    nothing to forget. -/
theorem abandonDownload_eq_iff (capture : Option String) (c : Capture) :
    Session.abandonDownload capture c
        = (if some c.name = capture then { c with status := .completed, localPath := none } else c)
      ↔ (some c.name = capture → c.status ≠ .downloaded ∧ c.localPath = none) := by
  obtain ⟨name, size, status, path⟩ := c
  by_cases hname : some name = capture
  · cases status <;> simp [Session.abandonDownload, hname, eq_comm]
  · simp [Session.abandonDownload, hname]

/-- The captures are left the same exactly where there is nothing to forget. -/
theorem captures_eq_iff_nothingToForget (n : Node) (kind : OperationKind)
    (capture : Option String) :
    kind.capturesAfterInvalid capture n.captures = kind.capturesAfterFailure capture n.captures
      ↔ n.NothingToForget kind capture := by
  by_cases hdelete : kind = .deletePod
  · subst hdelete
    constructor
    · exact fun h => ⟨fun _ => h, fun hdownload => nomatch hdownload⟩
    · exact fun h => h.deletion rfl
  · by_cases hdownload : kind = .download
    · subst hdownload
      show n.captures.map _ = n.captures.map _ ↔ _
      rw [List.map_inj_left]
      constructor
      · intro h
        refine ⟨fun h => absurd h hdelete, ?_⟩
        intro _ c hc
        exact (abandonDownload_eq_iff capture c).mp (h c hc)
      · intro h c hc
        exact (abandonDownload_eq_iff capture c).mpr (h.download rfl c hc)
    · have hsame : kind.capturesAfterInvalid capture n.captures
          = kind.capturesAfterFailure capture n.captures := by
        cases kind <;> first | rfl | exact absurd rfl hdelete | exact absurd rfl hdownload
      exact iff_of_true hsame ⟨fun h => absurd h hdelete, fun h => absurd h hdownload⟩

end Node

/-- What a response that cannot be read leaves of the captures. -/
theorem OperationKind.failureEffect_captures (kind : OperationKind) (capture : Option String)
    (error : String) (n : Node) :
    (kind.failureEffect capture error n).captures
      = kind.capturesAfterInvalid capture n.captures := by
  cases kind with
  | download => rfl
  | listInterfaces => rfl
  | listPods => rfl
  | _ =>
      simp only [failureEffect, Session.invalidate, awaitedStatus?, capturesAfterInvalid,
        reduceCtorEq, if_false]
      try split
      all_goals rfl

/-- An invalid response to the operation that a node waits for is a failure. -/
theorem OperationKind.failureEffect_of_awaited {kind : OperationKind} {n : Node}
    (h : kind.awaitedStatus? = some n.status) (capture : Option String) (error : String) :
    kind.failureEffect capture error n = n.fail error := by
  cases kind <;> simp_all [failureEffect, Session.invalidate, awaitedStatus?]

/-- The report of a failure does to a node that waits for it what an invalid
    response does, except for the captures. -/
theorem Response.ReportsFailure.effect_eq {r : Response} {kind : OperationKind} {payload : Json}
    {error node : String} {n : Node} (h : r.ReportsFailure kind payload error)
    (herror : error ≠ "") (hpods : kind ≠ .listPods) (hnodes : kind ≠ .listNodes)
    (hstatus : ∀ awaited, kind.awaitedStatus? = some awaited → n.status = awaited)
    (hinterfaces : kind = .listInterfaces → n.interfaces = .loading) :
    r.effect node n
      = { kind.failureEffect (Session.payloadText? "capture_name" payload) error n with
          captures := kind.capturesAfterFailure (Session.payloadText? "capture_name" payload)
            n.captures } := by
  -- the node waits for the response, so that it is settled
  have hupdate : r.effect node n = r.update n := by
    rcases Node.awaiting_cases r.kind node r.update n with ⟨hsame, -⟩ | ⟨awaited, _, hk, hne, -⟩
    · exact hsame
    · exact absurd (hstatus awaited (h.answers ▸ hk)) hne
  have hinvalid : ∀ {awaited}, kind.awaitedStatus? = some awaited → ∀ capture,
      kind.failureEffect capture error n = n.fail error := by
    intro awaited hk capture
    exact OperationKind.failureEffect_of_awaited (by rw [hk, hstatus awaited hk]) capture error
  have hfailed : ∀ text, n.fail (Node.errorOr (.failure error) text) = n.fail error := by
    intro text
    rw [Node.errorOr_failure herror]
  rw [hupdate]
  obtain rfl := h.answers
  have hfails := h.fails
  cases r with
  | nodeChecked o name podRunning running completed =>
      obtain rfl : o = .failure error := hfails
      rw [hinvalid rfl]
      exact hfailed _
  | podCreated o name =>
      obtain rfl : o = .failure error := hfails
      rw [hinvalid rfl]
      exact hfailed _
  | podDeleted o name =>
      obtain rfl : o = .failure error := hfails
      rw [hinvalid rfl]
      exact congrArg (fun m : Node => { m with captures := [] }) (hfailed _)
  | captureStarted o name =>
      obtain rfl : o = .failure error := hfails
      rw [hinvalid rfl]
      exact hfailed _
  | captureStopped o name file =>
      obtain rfl : o = .failure error := hfails
      rw [hinvalid rfl]
      exact hfailed _
  | downloaded o name capture path =>
      obtain rfl : o = .failure error := hfails
      have hwhich : some capture = Session.payloadText? "capture_name" payload := h.which rfl
      show n.settleDownload (.failure error) capture path = _
      rw [← hwhich]
      simp [Node.settleDownload, Outcome.failure, Node.errorOr, nonEmpty, herror,
        Node.updateCapture, Response.kind, OperationKind.failureEffect, Session.invalidate,
        OperationKind.capturesAfterFailure]
  | interfacesListed o name names =>
      obtain rfl : o = .failure error := hfails
      have hloading : n.interfaces = .loading := hinterfaces rfl
      show n.settleInterfaces (.failure error) names = _
      simp [Node.settleInterfaces, Outcome.failure, Node.errorOr, nonEmpty, herror, hloading,
        Response.kind, OperationKind.failureEffect, Session.invalidate, Cell.isLoading,
        OperationKind.capturesAfterFailure]
  | nodesListed o names => exact absurd rfl hnodes
  | podsListed o name pods => exact absurd rfl hpods

namespace Session

variable {s : Session} {node : String} {n : Node} {kind : OperationKind} {name : String}
  {payload : Json} {e : ValidationError} {r : Response}

/-- What a payload says of an operation on a node. -/
theorem Identifies.waits (h : s.Identifies payload kind)
    (named : payloadText? "node" payload = some node) (here : s.node? node = some n) :
    (∀ awaited, kind.awaitedStatus? = some awaited → n.status = awaited)
      ∧ (kind = .listInterfaces → n.interfaces = .loading)
      ∧ (kind = .listPods → s.reference.contains node = true) := by
  have same : ∀ {node' n'}, payloadText? "node" payload = some node' → s.node? node' = some n' →
      node' = node ∧ n' = n := by
    intro node' n' named' here'
    obtain rfl : node' = node := Option.some.inj (named'.symm.trans named)
    exact ⟨rfl, Option.some.inj (here'.symm.trans here)⟩
  cases h with
  | nodes => exact ⟨fun _ h => (nomatch h), fun h => (nomatch h), fun h => (nomatch h)⟩
  | status named' here' waits =>
      obtain ⟨rfl, rfl⟩ := same named' here'
      refine ⟨fun _ h => Option.some.inj (waits.symm.trans h), ?_, ?_⟩
      · rintro rfl
        cases waits
      · rintro rfl
        cases waits
  | download => exact ⟨fun _ h => (nomatch h), fun h => (nomatch h), fun h => (nomatch h)⟩
  | interfaces named' here' loading =>
      obtain ⟨rfl, rfl⟩ := same named' here'
      exact ⟨fun _ h => (nomatch h), fun _ => loading, fun h => (nomatch h)⟩
  | pods named' here' listed loading =>
      obtain ⟨rfl, rfl⟩ := same named' here'
      refine ⟨fun _ h => (nomatch h), fun h => (nomatch h), fun _ => ?_⟩
      rw [ReferenceData.contains, listed]
      rfl

/-- An invalid response to the listing of the nodes is its failure. -/
theorem foldRaw_listNodes_eq_fold (registered : OperationKind.ofName? name = some .listNodes)
    (invalid : Response.ofJson .listNodes payload = .error e)
    (reports : r.ReportsFailure .listNodes payload (invalidText name)) :
    s.foldRaw name payload = s.failNodes (invalidText name)
      ∧ s.fold r = s.failNodes (invalidText name) := by
  refine ⟨?_, ?_⟩
  · rw [foldRaw_of_error s registered invalid, recordInvalid_listNodes]
  · have hanswers := reports.answers
    have hfails := reports.fails
    cases r with
    | nodesListed o names =>
        obtain rfl : o = .failure (invalidText name) := hfails
        show s.failNodes (Node.errorOr (.failure (invalidText name)) _) = _
        rw [Node.errorOr_failure (invalidText_ne_empty name)]
    | _ => cases hanswers

/-- An invalid response to the listing of the pods on a listed node is its
    failure. -/
theorem foldRaw_listPods_eq_fold (registered : OperationKind.ofName? name = some .listPods)
    (invalid : Response.ofJson .listPods payload = .error e)
    (reports : r.ReportsFailure .listPods payload (invalidText name))
    (named : payloadText? "node" payload = some node) (here : s.node? node = some n)
    (listed : s.reference.contains node = true) :
    s.foldRaw name payload = s.failPods node (invalidText name)
      ∧ s.fold r = s.failPods node (invalidText name) := by
  refine ⟨?_, ?_⟩
  · rw [foldRaw_of_error s registered invalid, named, recordInvalid_some s (by decide),
      if_pos ((hasNode_iff s node).mpr ⟨n, here⟩), if_pos rfl]
  · have hanswers := reports.answers
    have hfails := reports.fails
    have hmine := (reports.mine (by decide)).trans named
    cases r with
    | podsListed o target pods =>
        obtain rfl : o = .failure (invalidText name) := hfails
        obtain rfl : target = node := Option.some.inj hmine
        show s.foldPods (.failure (invalidText name)) target pods = _
        rw [foldPods, if_pos listed, Node.errorOr_failure (invalidText_ne_empty name)]
        rfl
    | _ => cases hanswers

/-- An invalid response leaves what the report of the failure leaves, except
    for the captures of the node. -/
theorem foldRaw_eq_updateNode_fold (registered : OperationKind.ofName? name = some kind)
    (invalid : Response.ofJson kind payload = .error e) (identifies : s.Identifies payload kind)
    (reports : r.ReportsFailure kind payload (invalidText name))
    (named : payloadText? "node" payload = some node) (here : s.node? node = some n) :
    (∃ m, (s.fold r).node? node = some m
        ∧ m.captures
          = kind.capturesAfterFailure (payloadText? "capture_name" payload) n.captures)
      ∧ s.foldRaw name payload = (s.fold r).withCaptures node
          (kind.capturesAfterInvalid (payloadText? "capture_name" payload) n.captures) := by
  -- where both do the same and keep the captures, there is nothing to put back
  have same : ∀ {m : Node}, s.foldRaw name payload = s.fold r →
      (s.fold r).node? node = some m → m.captures = n.captures →
      kind.capturesAfterFailure (payloadText? "capture_name" payload) n.captures = n.captures →
      kind.capturesAfterInvalid (payloadText? "capture_name" payload) n.captures = n.captures →
      (∃ m, (s.fold r).node? node = some m
          ∧ m.captures
            = kind.capturesAfterFailure (payloadText? "capture_name" payload) n.captures)
        ∧ s.foldRaw name payload = (s.fold r).withCaptures node
            (kind.capturesAfterInvalid (payloadText? "capture_name" payload) n.captures) := by
    intro m hsame hm hkept hfailure hinvalid
    refine ⟨⟨m, hm, hkept.trans hfailure.symm⟩, ?_⟩
    rw [hsame]
    refine ((updateNode_eq_self_iff hm _).mpr ?_).symm
    rw [hinvalid, ← hkept]
  obtain ⟨hstatus, hinterfaces, hlisted⟩ := identifies.waits named here
  by_cases hnodes : kind = .listNodes
  · subst hnodes
    obtain ⟨hraw, hfold⟩ := foldRaw_listNodes_eq_fold registered invalid reports (s := s)
    refine same (m := n) (hraw.trans hfold.symm) ?_ rfl rfl rfl
    rw [hfold, node?_failNodes, here]
  · by_cases hpods : kind = .listPods
    · subst hpods
      obtain ⟨hraw, hfold⟩ :=
        foldRaw_listPods_eq_fold registered invalid reports named here (hlisted rfl)
      refine same (m := n.withError (invalidText name)) (hraw.trans hfold.symm) ?_ rfl rfl rfl
      rw [hfold, node?_failPods, if_pos rfl, here]
      rfl
    · have hraw : s.foldRaw name payload = s.updateNode node
          (kind.failureEffect (payloadText? "capture_name" payload) (invalidText name)) := by
        rw [foldRaw_of_error s registered invalid, named,
          recordInvalid_eq_updateNode s here hnodes hpods]
      have hfold : s.fold r = s.updateNode node (r.effect node) :=
        fold_eq_updateNode s ((reports.mine hnodes).trans named) (reports.answers ▸ hpods)
      have heffect : r.effect node n = _ :=
        reports.effect_eq (invalidText_ne_empty name) hpods hnodes hstatus hinterfaces
      refine ⟨⟨r.effect node n, ?_, ?_⟩, ?_⟩
      · rw [hfold, node?_updateNode, if_pos rfl, here]
        rfl
      · rw [heffect]
      · rw [hraw, hfold, withCaptures, updateNode_updateNode]
        refine updateNode_congr s ?_
        intro m hm
        obtain rfl : n = m := Option.some.inj (here.symm.trans hm)
        rw [heffect, ← OperationKind.failureEffect_captures kind
          (payloadText? "capture_name" payload) (invalidText name) n]

end Session

/-- A payload that is no valid response, but tells which operation it belongs
    to, leaves the session that the report of the failure of that operation
    leaves exactly where the failure has nothing more to forget about the
    captures of the node; and it never leaves another session except for those
    captures. -/
theorem invalid_eq_failed_iff (s : Session) {kind : OperationKind} {name : String} {payload : Json}
    {e : ValidationError} {r : Response} (registered : OperationKind.ofName? name = some kind)
    (invalid : Response.ofJson kind payload = .error e) (identifies : s.Identifies payload kind)
    (reports : r.ReportsFailure kind payload (Session.invalidText name)) :
    (s.foldRaw name payload = s.fold r
        ↔ ∀ node n, Session.payloadText? "node" payload = some node → s.node? node = some n →
            n.NothingToForget kind (Session.payloadText? "capture_name" payload))
      ∧ ∀ node n, Session.payloadText? "node" payload = some node → s.node? node = some n →
          s.foldRaw name payload = (s.fold r).withCaptures node
            (kind.capturesAfterInvalid (Session.payloadText? "capture_name" payload)
              n.captures) := by
  refine ⟨?_, ?_⟩
  · constructor
    · -- the two sessions have the same captures, so that nothing was forgotten
      intro hsame node n named here
      obtain ⟨⟨m, hm, hcaptures⟩, hraw⟩ :=
        Session.foldRaw_eq_updateNode_fold registered invalid identifies reports named here
      rw [hsame] at hraw
      have hm' := (Session.updateNode_eq_self_iff hm _).mp hraw.symm
      refine (n.captures_eq_iff_nothingToForget kind _).mp ?_
      rw [← hcaptures]
      exact congrArg Node.captures hm'
    · intro hnothing
      by_cases hnodes : kind = .listNodes
      · subst hnodes
        obtain ⟨hraw, hfold⟩ :=
          Session.foldRaw_listNodes_eq_fold registered invalid reports (s := s)
        exact hraw.trans hfold.symm
      · obtain ⟨node, n, named, here⟩ : ∃ node n,
            Session.payloadText? "node" payload = some node ∧ s.node? node = some n := by
          cases identifies with
          | nodes => exact absurd rfl hnodes
          | status named here => exact ⟨_, _, named, here⟩
          | download named here => exact ⟨_, _, named, here⟩
          | interfaces named here => exact ⟨_, _, named, here⟩
          | pods named here => exact ⟨_, _, named, here⟩
        obtain ⟨⟨m, hm, hcaptures⟩, hraw⟩ :=
          Session.foldRaw_eq_updateNode_fold registered invalid identifies reports named here
        rw [hraw]
        refine (Session.updateNode_eq_self_iff hm _).mpr ?_
        rw [(n.captures_eq_iff_nothingToForget kind _).mpr (hnothing node n named here),
          ← hcaptures]
  · intro node n named here
    exact (Session.foldRaw_eq_updateNode_fold registered invalid identifies reports named here).2

/-- A node is found with a debug pod and a capture, and further events follow. -/
def afterCheck (events : List Event) : Session :=
  ((Orchestrator.create "lab" ["n"]).run
    ([.intent (.checkNode "n"), .response (.nodeChecked .success "n" true none [⟨"web", 8⟩])]
      ++ events)).session

/-- The capture is being downloaded for the first time. -/
def firstDownload : Session := afterCheck [.intent (.download "n" "web" "/tmp/web.cap")]

/-- The capture was downloaded, and is being downloaded once more. -/
def secondDownload : Session :=
  afterCheck [.intent (.download "n" "web" "/tmp/web.cap"),
    .response (.downloaded .success "n" "web" (some "/tmp/web.cap")),
    .intent (.download "n" "web" "/tmp/web.cap")]

/-- The debug pod is being deleted, with the capture on it. -/
def deletion : Session := afterCheck [.intent (.deletePod "n")]

/-- A payload that names a node and a capture and does not say how it went. -/
def silentPayload : Json := .object [("node", .string "n"), ("capture_name", .string "web")]

/-- The report of the failure of a download. -/
def failedDownload : Response :=
  .downloaded (.failure (Session.invalidText "download_capture_file")) "n" "web" none

/-- The report of the failure of a deletion. -/
def failedDeletion : Response :=
  .podDeleted (.failure (Session.invalidText "delete_debug_pod")) "n"

/-- An invalid response to a first download counts as its failure. -/
theorem invalid_eq_failed_first_download :
    firstDownload.Identifies silentPayload .download
      ∧ failedDownload.ReportsFailure .download silentPayload
          (Session.invalidText "download_capture_file")
      ∧ firstDownload.foldRaw "download_capture_file" silentPayload
        = firstDownload.fold failedDownload := by
  have registered : OperationKind.ofName? "download_capture_file" = some .download := by decide
  have identifies : firstDownload.Identifies silentPayload .download :=
    .download rfl rfl rfl (List.mem_singleton_self _) rfl rfl
  have reports : failedDownload.ReportsFailure .download silentPayload
      (Session.invalidText "download_capture_file") := ⟨rfl, rfl, fun _ => rfl, fun _ => rfl⟩
  refine ⟨identifies, reports, ?_⟩
  refine (invalid_eq_failed_iff firstDownload registered rfl identifies reports).1.mpr ?_
  intro node n named here
  obtain rfl : "n" = node := Option.some.inj named
  obtain rfl := Option.some.inj here
  exact ⟨fun h => (nomatch h), fun _ c hc _ => by
    obtain rfl := List.mem_singleton.mp hc
    decide⟩

/-- An invalid response to operations of a kind always counts as the report of
    the failure. -/
def InvalidCountsAsFailed (kind : OperationKind) : Prop :=
  ∀ (s : Session) (name : String) (payload : Json) (e : ValidationError) (r : Response),
    OperationKind.ofName? name = some kind → Response.ofJson kind payload = .error e →
      s.Identifies payload kind → r.ReportsFailure kind payload (Session.invalidText name) →
        s.foldRaw name payload = s.fold r

/-- An invalid response to a deletion leaves the capture listed, and one to a
    second download leaves the path of the first. -/
theorem not_invalid_eq_failed :
    ¬ InvalidCountsAsFailed .deletePod ∧ ¬ InvalidCountsAsFailed .download := by
  constructor
  · intro h
    have hsame := h deletion "delete_debug_pod" silentPayload _ failedDeletion (by decide) rfl
      (.status rfl rfl rfl) ⟨rfl, rfl, fun _ => rfl, fun hdownload => nomatch hdownload⟩
    exact absurd hsame (by decide +kernel)
  · intro h
    have hsame := h secondDownload "download_capture_file" silentPayload _ failedDownload
      (by decide) rfl (.download rfl rfl rfl (List.mem_singleton_self _) rfl rfl)
      ⟨rfl, rfl, fun _ => rfl, fun _ => rfl⟩
    exact absurd hsame (by decide +kernel)

end NodeCapture
