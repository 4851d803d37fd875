import NodeCapture.Proofs.Marks
import NodeCapture.Proofs.StatusOperations

/-! # Downloads

    The only record of an outstanding download is the mark on its capture.
    `Orchestrator.TracksDownloads` is the invariant that this record is
    right: no capture is downloaded twice at a time, the capture of each
    outstanding download is marked, and nothing is downloaded from a debug pod
    that is being deleted.

    A check that ends well while a download is outstanding puts an unmarked
    list of captures in the place of the marked one; it overtakes the
    download.  The main statement is that the record is right in all runs in
    which no check overtakes a download, and is lost whenever one does. -/

namespace NodeCapture

/-- Whether a request is for the download of a capture on a node. -/
def Request.downloads (node capture : String) : Request → Bool
  | .download node' capture' _ => node' == node && capture' == capture
  | _ => false

/-- A request downloads a capture if it is the download of this capture. -/
theorem Request.downloads_iff {q : Request} {node capture : String} :
    q.downloads node capture = true ↔ ∃ path, q = .download node capture path := by
  cases q <;> simp [downloads]

/-- The download of one capture is not that of another. -/
theorem Request.downloads_of_ne {node capture other path : String} (h : other ≠ capture)
    (name : String) : (Request.download name capture path).downloads node other = false := by
  simp [downloads, Ne.symm h]

/-- The outstanding downloads of a capture on a node. -/
def Orchestrator.downloads (o : Orchestrator) (node capture : String) : List (Nat × Request) :=
  o.pending (Request.downloads node capture)

/-- All outstanding downloads on a node. -/
def Orchestrator.downloadsOn (o : Orchestrator) (node : String) : List (Nat × Request) :=
  o.pending (fun q => q.kind == .download && q.node? == some node)

open Node

namespace Orchestrator

variable {o : Orchestrator} {node : String}

/-! ## The record of downloads -/

/-- The marks of a node are the record of its outstanding downloads. -/
structure TracksDownloads (o : Orchestrator) (node : String) : Prop where
  single : ∀ capture, (o.downloads node capture).length ≤ 1
  marked : ∀ capture, o.downloads node capture ≠ [] →
    (o.session.stateOf node).Marks capture
  spared : (o.session.stateOf node).status = .deletingPod →
    ∀ capture, o.downloads node capture = []

/-- A check overtakes a download where it ends well while the download is
    outstanding on its node. -/
def Overtakes (o : Orchestrator) (node : String) : Act → Prop
  | .asked _ => False
  | .ended _ _ r =>
      r.kind = .checkNode ∧ r.outcome.succeeded = true ∧ r.node? = some node
        ∧ o.downloadsOn node ≠ []

instance : ∀ act, Decidable (o.Overtakes node act)
  | .asked _ => inferInstanceAs (Decidable False)
  | .ended .. => inferInstanceAs (Decidable (_ ∧ _ ∧ _ ∧ _))

/-- No download is outstanding on a node if none is for any capture. -/
theorem downloadsOn_eq_nil_iff :
    o.downloadsOn node = [] ↔ ∀ capture, o.downloads node capture = [] := by
  simp only [downloadsOn, downloads, pending, List.filter_eq_nil_iff, Bool.and_eq_true,
    beq_iff_eq]
  constructor
  · intro h capture entry hentry hq
    obtain ⟨path, hpath⟩ := Request.downloads_iff.mp hq
    exact h entry hentry ⟨by rw [hpath]; rfl, by rw [hpath]; rfl⟩
  · rintro h ⟨operation, q⟩ hentry ⟨hkind, hnode⟩
    cases q with
    | download name capture path =>
        obtain rfl := Option.some.inj hnode
        exact h capture _ hentry (Request.downloads_iff.mpr ⟨path, rfl⟩)
    | _ => cases hkind

/-- An act keeps the record where it neither begins nor ends a download, keeps
    the marks, and does not set about deleting the debug pod. -/
theorem TracksDownloads.keep {o' : Orchestrator} (h : o.TracksDownloads node)
    (hdownloads : ∀ capture, o'.downloads node capture = o.downloads node capture)
    (hmarks : ∀ capture, (o.session.stateOf node).Marks capture →
      (o'.session.stateOf node).Marks capture)
    (hstatus : (o'.session.stateOf node).status = .deletingPod →
      (o.session.stateOf node).status = .deletingPod) :
    o'.TracksDownloads node where
  single := fun capture => (hdownloads capture).symm ▸ h.single capture
  marked := fun capture hne => hmarks capture (h.marked capture (hdownloads capture ▸ hne))
  spared := fun hdeleting capture =>
    (hdownloads capture).trans (h.spared (hstatus hdeleting) capture)

/-- Where the record is right, a capture without a mark is not downloaded. -/
theorem TracksDownloads.eq_nil (h : o.TracksDownloads node) {capture : String}
    (hmarks : ¬ (o.session.stateOf node).Marks capture) : o.downloads node capture = [] := by
  by_contra hne
  exact hmarks (h.marked capture hne)

/-- Where nothing is downloaded there is nothing to keep a record of. -/
theorem tracksDownloads_of_nil (h : ∀ capture, o.downloads node capture = []) :
    o.TracksDownloads node where
  single := fun capture => by rw [h]; exact Nat.zero_le 1
  marked := fun capture hne => absurd (h capture) hne
  spared := fun _ => h

/-- Only a request for the download of a capture adds to its downloads. -/
theorem downloads_begun {o' : Orchestrator} {q : Request}
    (outstanding : o'.outstanding = o.outstanding ++ [(o.submitted, q)]) {capture : String}
    (hq : q.downloads node capture = false) :
    o'.downloads node capture = o.downloads node capture := by
  rw [downloads, pending_begun outstanding, hq]
  rfl

/-- Only a download downloads. -/
theorem downloads_eq_false_of_kind {q : Request} (h : q.kind ≠ .download)
    (node capture : String) : q.downloads node capture = false := by
  refine Bool.eq_false_iff.mpr ?_
  intro hq
  obtain ⟨path, rfl⟩ := Request.downloads_iff.mp hq
  exact h rfl

/-- An outstanding download is among the outstanding downloads. -/
theorem downloads_ne_nil {operation : Nat} {q : Request} {capture : String}
    (outstanding : (operation, q) ∈ o.outstanding) (hq : q.downloads node capture = true) :
    o.downloads node capture ≠ [] :=
  List.ne_nil_of_mem (mem_pending.mpr ⟨outstanding, hq⟩)

/-- The beginning of a download keeps the record. -/
theorem TracksDownloads.begunDownload {o' : Orchestrator} {downloaded path : String}
    (h : o.TracksDownloads node)
    (outstanding : o'.outstanding
      = o.outstanding ++ [(o.submitted, .download node downloaded path)])
    (fits : (Request.download node downloaded path).Fits (o.session.stateOf node))
    (state : o'.session.stateOf node = (o.session.stateOf node).markDownloading downloaded) :
    o'.TracksDownloads node := by
  obtain ⟨hpod, c, hfound, hidle⟩ := fits
  -- an idle capture has no download yet
  have hnone : o.downloads node downloaded = [] := h.eq_nil (not_marks_of_found hfound hidle)
  have hnew : o'.downloads node downloaded
      = [(o.submitted, .download node downloaded path)] := by
    show o'.pending _ = _
    rw [pending_begun outstanding, if_pos (Request.downloads_iff.mpr ⟨path, rfl⟩),
      show o.pending _ = [] from hnone]
    rfl
  have hother : ∀ capture, capture ≠ downloaded →
      o'.downloads node capture = o.downloads node capture := by
    intro capture hne
    exact downloads_begun outstanding (Request.downloads_of_ne hne node)
  refine ⟨?_, ?_, ?_⟩
  · intro capture
    by_cases hcapture : capture = downloaded
    · rw [hcapture, hnew]
      exact Nat.le_refl 1
    · rw [hother capture hcapture]
      exact h.single capture
  · intro capture hne
    rw [state]
    by_cases hcapture : capture = downloaded
    · rw [hcapture]
      exact marks_markDownloading hfound
    · rw [hother capture hcapture] at hne
      exact Request.mark_marks (q := .download node downloaded path) (h.marked capture hne)
  · -- the debug pod cannot be downloaded from while it is deleted
    intro hdeleting
    rw [state] at hdeleting
    rw [show (o.session.stateOf node).status = .deletingPod from hdeleting] at hpod
    cases hpod

/-- A request that fits a node keeps the record. -/
theorem TracksDownloads.begun {o' : Orchestrator} {q : Request} (h : o.TracksDownloads node)
    (outstanding : o'.outstanding = o.outstanding ++ [(o.submitted, q)])
    (mine : q.node? = some node) (fits : q.Fits (o.session.stateOf node))
    (state : o'.session.stateOf node = q.mark (o.session.stateOf node)) :
    o'.TracksDownloads node := by
  have others : q.kind ≠ .download →
      ((q.mark (o.session.stateOf node)).status = .deletingPod →
        (o.session.stateOf node).status = .deletingPod) → o'.TracksDownloads node := by
    intro hkind hstatus
    refine h.keep ?_ ?_ ?_
    · intro capture
      exact downloads_begun outstanding (downloads_eq_false_of_kind hkind node capture)
    · intro capture hmarks
      rw [state]
      exact Request.mark_marks hmarks
    · rw [state]
      exact hstatus
  cases q with
  | checkNode => exact others (fun hk => nomatch hk) (fun hs => nomatch hs)
  | createPod => exact others (fun hk => nomatch hk) (fun hs => nomatch hs)
  | startCapture => exact others (fun hk => nomatch hk) (fun hs => nomatch hs)
  | stopCapture => exact others (fun hk => nomatch hk) (fun hs => nomatch hs)
  | listInterfaces => exact others (fun hk => nomatch hk) id
  | listNodes => exact others (fun hk => nomatch hk) id
  | listPods => exact others (fun hk => nomatch hk) id
  | deletePod name =>
      -- no capture is marked, so that nothing is being downloaded
      refine tracksDownloads_of_nil ?_
      intro capture
      rw [downloads_begun outstanding rfl]
      exact h.eq_nil (not_marks_of_idle fits.2)
  | download name downloaded path =>
      obtain rfl : name = node := Option.some.inj mine
      exact h.begunDownload outstanding fits state

/-- The end of an operation other than a download leaves all downloads
    outstanding. -/
theorem Numbered.downloads_complete (h : o.Numbered) {operation : Nat} {q : Request}
    {r : Response} (outstanding : (operation, q) ∈ o.outstanding) {capture : String}
    (hq : q.downloads node capture = false) :
    (o.complete operation r).downloads node capture = o.downloads node capture :=
  h.pending_complete_of_other outstanding hq

/-- The end of a download keeps the record. -/
theorem TracksDownloads.downloaded {operation : Nat} {q : Request} {r : Response}
    (h : o.TracksDownloads node) (numbered : o.Numbered)
    (outstanding : (operation, q) ∈ o.outstanding) (answers : r.Answers q)
    (mine : q.node? = some node) (hkind : q.kind = .download)
    (state : (o.complete operation r).session.stateOf node
      = r.effect node (o.session.stateOf node)) :
    (o.complete operation r).TracksDownloads node := by
  cases q with
  | download name downloaded path =>
      obtain rfl : name = node := Option.some.inj mine
      cases r with
      | downloaded outcome name' downloaded' path' =>
          obtain ⟨rfl, rfl⟩ := answers
          -- the download that ends was the only one of its capture
          have hnone :
              (o.complete operation (.downloaded outcome name' downloaded' path')).downloads
                name' downloaded' = [] :=
            pending_complete_of_single (pending_eq_singleton outstanding
              (Request.downloads_iff.mpr ⟨path, rfl⟩) (h.single downloaded'))
          have hother : ∀ capture, capture ≠ downloaded' →
              (o.complete operation (.downloaded outcome name' downloaded' path')).downloads
                name' capture = o.downloads name' capture := by
            intro capture hne
            exact numbered.downloads_complete outstanding (Request.downloads_of_ne hne name')
          refine ⟨?_, ?_, ?_⟩
          · intro capture
            by_cases hcapture : capture = downloaded'
            · rw [hcapture, hnone]
              exact Nat.zero_le 1
            · rw [hother capture hcapture]
              exact h.single capture
          · intro capture hne
            by_cases hcapture : capture = downloaded'
            · rw [hcapture] at hne
              exact absurd hnone hne
            · rw [hother capture hcapture] at hne
              rw [state]
              exact Response.effect_downloaded_marks (h.marked capture hne) hcapture
          · -- it cannot end while the debug pod is deleted, since it is outstanding
            intro hdeleting capture
            rw [state] at hdeleting
            have hkept : ((Response.downloaded outcome name' downloaded' path').update
                (o.session.stateOf name')).status = (o.session.stateOf name').status :=
              Response.update_status rfl
            exact absurd (h.spared (hkept.symm.trans hdeleting) downloaded')
              (downloads_ne_nil outstanding (Request.downloads_iff.mpr ⟨path, rfl⟩))
      | _ => exact answers.elim
  | _ => cases hkind

/-- Each act that overtakes no download keeps the record. -/
theorem Moves.tracksDownloads {act : Act} (moves : o.Moves node act) (numbered : o.Numbered)
    (inTime : ¬ o.Overtakes node act) (h : o.TracksDownloads node) :
    (o.advance act).TracksDownloads node := by
  cases moves with
  | stayed selection outstanding state =>
      refine h.keep ?_ ?_ ?_
      · intro capture
        rw [downloads, pending, outstanding]
        rfl
      · intro capture hmarks
        rw [state]
        exact hmarks.of_captures rfl
      · rw [state]
        exact id
  | begunElsewhere outstanding other state =>
      refine h.keep ?_ ?_ ?_
      · intro capture
        refine downloads_begun outstanding (Bool.eq_false_iff.mpr ?_)
        intro hq
        obtain ⟨path, rfl⟩ := Request.downloads_iff.mp hq
        cases other rfl
      · intro capture hmarks
        rw [state]
        exact hmarks
      · rw [state]
        exact id
  | begun outstanding mine fits state => exact h.begun outstanding mine fits state
  | endedElsewhere outstanding answers other state =>
      refine h.keep ?_ ?_ ?_
      · intro capture
        refine numbered.downloads_complete outstanding (Bool.eq_false_iff.mpr ?_)
        intro hq
        -- a node without a state has no marks, and so no downloads either
        have hmarks := h.marked capture (downloads_ne_nil outstanding hq)
        obtain ⟨path, rfl⟩ := Request.downloads_iff.mp hq
        rcases other rfl with hpods | hnone
        · cases hpods
        · rw [Session.stateOf_of_none _ _ hnone] at hmarks
          exact not_marks_empty hmarks
      · intro capture hmarks
        rw [state]
        exact hmarks
      · rw [state]
        exact id
  | ended outstanding answers mine state =>
      rename_i operation q r
      -- only the end of a download and a check can take marks away, and the
      -- check comes when there are none
      by_cases hkind : q.kind = .download
      · exact h.downloaded numbered outstanding answers mine hkind state
      · have hsame : ∀ capture, (o.advance (.ended operation q r)).downloads node capture
            = o.downloads node capture := fun capture =>
          numbered.downloads_complete outstanding (downloads_eq_false_of_kind hkind node capture)
        by_cases hidle : ∀ capture, o.downloads node capture = []
        · exact tracksDownloads_of_nil (fun capture => (hsame capture).trans (hidle capture))
        · obtain ⟨downloaded, hbusy⟩ := not_forall.mp hidle
          refine h.keep hsame ?_ ?_
          · intro capture hmarks
            rw [state]
            refine Response.effect_marks hmarks (answers.kind ▸ hkind) ?_ ?_
            · rintro ⟨hcheck, hok⟩
              exact inTime ⟨hcheck, hok, answers.node?.trans mine,
                fun hnil => hbusy (downloadsOn_eq_nil_iff.mp hnil downloaded)⟩
            · exact fun hdeleting => hbusy (h.spared hdeleting downloaded)
          · rw [state]
            intro hdeleting
            rcases (r.effect_resolves node (o.session.stateOf node)).status with hkept | hends
            · exact hkept.symm.trans hdeleting
            · have hsettled := hends.settled
              rw [hdeleting] at hsettled
              cases hsettled

/-- The record is right in every run in which no check overtakes a download. -/
theorem Reaches.tracksDownloads {s : Settings} {cluster : String} {initialNodes : List String}
    {history : List (Orchestrator × Act)}
    (reached : Reaches s (create cluster initialNodes) history o)
    (inTime : ∀ e ∈ history, ¬ e.1.Overtakes node e.2) : o.TracksDownloads node := by
  induction reached with
  | start => exact tracksDownloads_of_nil (fun _ => rfl)
  | step before allowed ih =>
      refine (allowed.moves node).tracksDownloads before.awaits.1 ?_ ?_
      · exact inTime _ List.mem_cons_self
      · exact ih (fun e he => inTime e (List.mem_cons_of_mem _ he))

/-! ## What an overtaken download leads to -/

/-- A check that overtakes a download leaves it outstanding and no capture
    marked. -/
theorem Allows.forgets {s : Settings} {act : Act} (allowed : o.Allows s act)
    (numbered : o.Numbered)
    (awaits : (o.session.stateOf node).Awaits (o.statusOperations node))
    (overtakes : o.Overtakes node act) :
    (o.advance act).downloadsOn node ≠ []
      ∧ ∀ c ∈ ((o.advance act).session.stateOf node).captures, c.status ≠ .downloading := by
  cases allowed with
  | asked i => exact overtakes.elim
  | ended outstanding yields =>
      rename_i operation q r
      obtain ⟨hcheck, hok, hnode, hbusy⟩ := overtakes
      have answers := yields.answers
      have hkind : q.kind = .checkNode := answers.kind.symm.trans hcheck
      have mine : q.node? = some node := answers.node?.symm.trans hnode
      constructor
      · show (o.complete operation r).pending _ ≠ []
        rw [numbered.pending_complete_of_other outstanding (by rw [hkind]; rfl)]
        exact hbusy
      · -- the node waits for the check, so that its captures are replaced
        have hoccupies : q.occupies node = true :=
          Request.occupies_iff.mpr ⟨mine, .checking, by rw [hkind]; rfl⟩
        have hshown := awaits.shown_of_mem (mem_pending.mpr ⟨outstanding, hoccupies⟩)
        rw [hkind] at hshown
        have hchecking : (o.session.stateOf node).status = .checking :=
          (Option.some.inj hshown).symm
        have here : o.session.node? node = some (o.session.stateOf node) := by
          refine Session.node?_eq_some_stateOf _ _ ?_
          rw [hchecking]
          decide
        have hstate : (o.session.fold r).stateOf node = r.update (o.session.stateOf node) := by
          refine Session.stateOf_of_some _ _ ?_
          rw [Session.fold_eq_updateNode _ hnode (by rw [hcheck]; decide),
            Session.node?_updateNode, if_pos rfl, here, Option.map_some, Response.effect,
            Node.awaiting, hcheck, hchecking]
          rfl
        show ∀ c ∈ ((o.session.fold r).stateOf node).captures, _
        rw [hstate]
        cases r with
        | nodeChecked outcome name podRunning running completed =>
            have hsucceeded : outcome.succeeded = true := hok
            simp only [Response.update, settleCheck, hsucceeded, if_true]
            intro c hc
            obtain ⟨file, -, rfl⟩ := List.mem_map.mp hc
            intro hstatus
            cases hstatus
        | _ => cases hcheck

/-- A debug pod that is not downloaded from, as far as can be seen, is
    deleted. -/
theorem accepts_deletion {n : Node} (here : o.session.node? node = some n)
    (fits : n.status = .podRunning) (idle : ∀ c ∈ n.captures, c.status ≠ .downloading) :
    ∃ o' operation, o.perform (.deletePod node) = .ok (o', .begun operation) := by
  have hn : o.nodeIn? node (· == .podRunning) = some n :=
    nodeIn?_eq_some.mpr ⟨here, by simpa using fits⟩
  have hidle : n.captures.any (fun c => c.status == .downloading) = false := by
    simpa using idle
  have hbegins : o.beginDeletion node = o.begin node Node.markDeletingPod (.deletePod node) := by
    simp [beginDeletion, hn, hidle]
  exact ⟨_, o.submitted, congrArg Except.ok hbegins⟩

/-- A capture that is listed and not marked is downloaded. -/
theorem accepts_download {n : Node} {c : Capture} {capture : String} (path : String)
    (here : o.session.node? node = some n) (fits : n.status.hasPod)
    (found : n.captures.find? (fun c => c.name == capture) = some c)
    (idle : c.status ≠ .downloading) (named : isCaptureName capture) :
    ∃ o' operation, o.perform (.download node capture path) = .ok (o', .begun operation) := by
  have hn : o.nodeIn? node NodeStatus.hasPod = some n := nodeIn?_eq_some.mpr ⟨here, fits⟩
  have hname : checkedName .download (some capture) = .ok capture :=
    checkedName_eq_ok.mpr ⟨rfl, named⟩
  have hbegins : o.beginDownload node capture path
      = .ok (o.begin node (fun n => n.markDownloading capture) (.download node capture path)) := by
    simp only [beginDownload, hn, found, idle, hname]
    rfl
  exact ⟨_, o.submitted, hbegins⟩

/-- Downloads on a node are tracked exactly: no capture is downloaded twice at
    a time, and the debug pod is deleted only while nothing is downloaded. -/
structure DownloadsExact (o : Orchestrator) (node : String) : Prop where
  single : ∀ capture, (o.downloads node capture).length ≤ 1
  guarded : ∀ o' operation, o.perform (.deletePod node) = .ok (o', .begun operation) →
    o.downloadsOn node = []

/-- Downloads on a node are forgotten: some are outstanding, but the debug pod
    is deleted all the same, and captures are downloaded once more. -/
structure DownloadsForgotten (o : Orchestrator) (node : String) : Prop where
  outstanding : o.downloadsOn node ≠ []
  deletable : (o.session.stateOf node).status = .podRunning →
    ∃ o' operation, o.perform (.deletePod node) = .ok (o', .begun operation)
  repeatable : ∀ c ∈ (o.session.stateOf node).captures, isCaptureName c.name →
    (o.session.stateOf node).status.hasPod → ∀ path, ∃ o' operation,
      o.perform (.download node c.name path) = .ok (o', .begun operation)
        ∧ (o'.downloads node c.name).length = (o.downloads node c.name).length + 1

/-- Where the record is right, downloads are tracked exactly. -/
theorem TracksDownloads.exact (h : o.TracksDownloads node) : o.DownloadsExact node where
  single := h.single
  guarded := by
    intro o' operation hp
    cases performs_of_perform hp with
    | begun begins =>
        generalize o'.session = after at begins
        cases begins with
        | deletePod here fits idle =>
            refine downloadsOn_eq_nil_iff.mpr ?_
            intro capture
            refine h.eq_nil ?_
            rw [Session.stateOf_of_some _ _ here]
            exact not_marks_of_idle idle

/-- Where downloads are outstanding but no capture is marked, they are
    forgotten. -/
theorem downloadsForgotten_of_unmarked (outstanding : o.downloadsOn node ≠ [])
    (unmarked : ∀ c ∈ (o.session.stateOf node).captures, c.status ≠ .downloading) :
    o.DownloadsForgotten node where
  outstanding := outstanding
  deletable := by
    intro hrunning
    refine accepts_deletion (Session.node?_eq_some_stateOf _ _ ?_) hrunning unmarked
    rw [hrunning]
    decide
  repeatable := by
    intro c hc named hpod path
    have here : o.session.node? node = some (o.session.stateOf node) := by
      refine Session.node?_eq_some_stateOf _ _ ?_
      intro hunknown
      rw [hunknown] at hpod
      cases hpod
    -- an earlier capture of that name may be found in its place
    obtain ⟨first, hfound⟩ : ∃ first,
        (o.session.stateOf node).captures.find? (fun d => d.name == c.name) = some first := by
      refine Option.isSome_iff_exists.mp (List.find?_isSome.mpr ⟨c, hc, ?_⟩)
      exact beq_self_eq_true c.name
    obtain ⟨o', operation, hp⟩ := accepts_download path here hpod hfound
      (unmarked first (List.mem_of_find?_eq_some hfound)) named
    refine ⟨o', operation, hp, ?_⟩
    cases performs_of_perform hp with
    | begun begins hadded =>
        generalize o'.session = after at begins
        cases begins with
        | download =>
            show (o'.pending _).length = _
            rw [pending_begun hadded, if_pos (Request.downloads_iff.mpr ⟨path, rfl⟩),
              List.length_append]
            rfl

end Orchestrator

/-- In every run without injected responses, the downloads on a node are
    tracked exactly as long as no check overtakes one of them, and are
    forgotten after each check that does. -/
theorem downloads_exact_unless_overtaken {s : Settings} {cluster : String}
    {initialNodes : List String} {history : List (Orchestrator × Act)} {o : Orchestrator}
    (reached : Orchestrator.Reaches s (.create cluster initialNodes) history o) (node : String) :
    ((∀ e ∈ history, ¬ e.1.Overtakes node e.2) → o.DownloadsExact node)
      ∧ ∀ e ∈ history, e.1.Overtakes node e.2 → (e.1.advance e.2).DownloadsForgotten node := by
  constructor
  · intro inTime
    exact (reached.tracksDownloads inTime).exact
  · intro e he hover
    obtain ⟨earlier, hreached, hallowed⟩ := reached.of_mem he
    obtain ⟨hbusy, hunmarked⟩ := hallowed.forgets hreached.awaits.1 (hreached.awaits.2 node) hover
    exact Orchestrator.downloadsForgotten_of_unmarked hbusy hunmarked

/-- A check finds a capture that runs and one to download; while it is being
    downloaded, the other one fails to stop. -/
def stopDuringDownload : List Cue :=
  [.ask (.checkNode "n"),
    .carryOut 0 [.exited { stdout := "debug-n\n" }, .exited {},
      .exited { stdout :=
        "  412 tcpdump tcpdump --snapshot-length=0 -vvv -w /tmp/capturectl_new.cap\n" },
      .exited { stdout := "/tmp/capturectl_web.cap\t8\n" }],
    .ask (.download "n" "web" "/tmp/web.cap"), .ask (.stopCapture "n"),
    .carryOut 2 [.exited { exitCode := 1, stderr := "connection lost" }]]

/-- Then the node is checked once more, and no capture runs. -/
def checkDuringDownload : List Cue :=
  stopDuringDownload ++
    [.ask (.checkNode "n"),
      .carryOut 3 [.exited { stdout := "debug-n\n" }, .exited {}, .exited {},
        .exited { stdout := "/tmp/capturectl_web.cap\t8\n" }]]

/-- Up to the check the download is tracked exactly. -/
theorem downloads_exact_before_check :
    ((Orchestrator.create "lab" ["n"]).play {} stopDuringDownload).2.downloadsOn "n"
        = [(1, .download "n" "web" "/tmp/web.cap")]
      ∧ ((Orchestrator.create "lab" ["n"]).play {} stopDuringDownload).2.DownloadsExact "n" :=
  ⟨by decide +kernel, (downloads_exact_unless_overtaken
    (Orchestrator.reaches_play {} _ stopDuringDownload) "n").1 (by decide +kernel)⟩

/-- After the check the capture is downloaded once more, or the debug pod is
    deleted, while the download is outstanding. -/
theorem not_downloads_exact_after_check :
    (¬ ∀ history o, Orchestrator.Reaches {} (.create "lab" ["n"]) history o →
        ∀ capture, (o.downloads "n" capture).length ≤ 1)
      ∧ ¬ ∀ history o, Orchestrator.Reaches {} (.create "lab" ["n"]) history o →
        ∀ o' operation, o.perform (.deletePod "n") = .ok (o', .begun operation) →
          o.downloadsOn "n" = [] := by
  constructor
  · intro hsingle
    have htwice := hsingle _ _ (Orchestrator.reaches_play {} _
      (checkDuringDownload ++ [.ask (.download "n" "web" "/tmp/web.cap")])) "web"
    exact absurd htwice (by decide +kernel)
  · intro hguarded
    have hforgotten :
        ((Orchestrator.create "lab" ["n"]).play {} checkDuringDownload).2.DownloadsForgotten "n" :=
      Orchestrator.downloadsForgotten_of_unmarked (by decide +kernel) (by decide +kernel)
    obtain ⟨o', operation, hp⟩ := hforgotten.deletable (by decide +kernel)
    exact hforgotten.outstanding
      (hguarded _ _ (Orchestrator.reaches_play {} _ checkDuringDownload) o' operation hp)

end NodeCapture
