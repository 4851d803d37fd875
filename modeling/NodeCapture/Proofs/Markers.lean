import NodeCapture.Proofs.Downloads
import NodeCapture.Proofs.NodeList

/-! # What is shown as under way

    A session shows in four places that something is under way: in the cell of
    the node list, in the cells of the pods of a node, in the cells of its
    interfaces, and at each of its captures.  The main statement is that in a
    run without injected responses nothing is shown longer than it lasts.

    For the three kinds of cells the invariant is `Orchestrator.TracksLoads`: a
    cell is loading exactly if one load of it is outstanding, and otherwise none
    is.  `Session.isLoading` reads all cells in one way, by the request that
    loads them, so that a request or a response turns one of them over and
    leaves the others.  A node list that arrives rewrites all cells of pods; it
    can do so because no node is listed while it is loaded. -/

namespace NodeCapture

open Node

/-- Whether a request is for a list that is kept in a cell. -/
def Request.loads : Request → Bool
  | listInterfaces _ => true
  | listNodes => true
  | listPods _ => true
  | _ => false

namespace ReferenceData

variable (d : ReferenceData) (node : String)

/-- The pods on a node, which were not loaded where the node is not listed. -/
def podsOf : Cell (List Pod) := ((d.get? node).map ListedNode.pods).getD .notLoaded

/-- Nothing is loaded of a node that is not listed. -/
theorem podsOf_of_unlisted (h : d.get? node = none) : d.podsOf node = .notLoaded := by
  rw [podsOf, h]
  rfl

/-- No node is listed while the list is being loaded or before that. -/
theorem get?_of_not_loaded (h : d.nodes.isLoaded = false) : d.get? node = none := by
  obtain ⟨nodes⟩ := d
  cases nodes with
  | loaded items => cases h
  | _ => rfl

/-- Nothing is loaded of any node before the nodes are. -/
theorem podsOf_of_notLoaded (h : d.nodes.isNotLoaded) : d.podsOf node = .notLoaded := by
  refine podsOf_of_unlisted _ _ (get?_of_not_loaded _ _ ?_)
  cases hnodes : d.nodes with
  | notLoaded => rfl
  | _ =>
      rw [hnodes] at h
      cases h

/-- Setting pods leaves the cell of the nodes as it is. -/
@[simp]
theorem isLoading_setPods (name : String) (pods : Cell (List Pod)) :
    (d.setPods name pods).nodes.isLoading = d.nodes.isLoading := by
  obtain ⟨nodes⟩ := d
  cases nodes <;> rfl

/-- The pods of a listed node are those that were set. -/
theorem podsOf_setPods (name : String) (pods : Cell (List Pod)) :
    (d.setPods name pods).podsOf node
      = if node = name ∧ d.contains node then pods else d.podsOf node := by
  rw [podsOf, get?_setPods, contains, podsOf]
  by_cases hname : node = name
  · cases d.get? node <;> simp [hname]
  · simp [hname]

/-- A new node list has no cell but empty ones, unless there were others. -/
theorem podsOf_updateNodes_of_unlisted (listed : List String) (h : d.get? node = none) :
    (d.updateNodes listed).podsOf node = .notLoaded := by
  rw [podsOf, get?_updateNodes, h]
  split <;> rfl

end ReferenceData

/-- Only their own listing changes the interfaces. -/
theorem Response.update_interfaces {r : Response} {n : Node} (h : r.kind ≠ .listInterfaces) :
    (r.update n).interfaces = n.interfaces := by
  cases r with
  | nodeChecked o node podRunning running completed =>
      simp only [update, settleCheck]
      split <;> rfl
  | podCreated o node =>
      simp only [update, settleCreation]
      split <;> rfl
  | podDeleted o node =>
      simp only [update, settleDeletion]
      split <;> rfl
  | captureStarted o node =>
      simp only [update, settleStart]
      split <;> rfl
  | captureStopped o node capture =>
      simp only [update, settleStop]
      split
      · split
        · split <;> rfl
        · rfl
      · rfl
  | downloaded o node capture path =>
      simp only [update, settleDownload]
      split <;> rfl
  | interfacesListed => exact absurd rfl h
  | nodesListed => rfl
  | podsListed o node pods =>
      simp only [update]
      split <;> rfl

/-- A response leaves the interfaces of a node alone, unless it brings them. -/
theorem Response.effect_interfaces (r : Response) (node : String) (n : Node) :
    (r.effect node n).interfaces.isLoading
      = (r.kind != .listInterfaces && n.interfaces.isLoading) := by
  by_cases hkind : r.kind = .listInterfaces
  · cases r with
    | interfacesListed o name names =>
        show (n.settleInterfaces o names).interfaces.isLoading = false
        rw [settleInterfaces]
        split <;> rfl
    | _ => cases hkind
  · rw [bne_iff_ne.mpr hkind, Bool.true_and, effect]
    rcases awaiting_cases r.kind node r.update n with ⟨hsame, -⟩ | ⟨awaited, text, -, -, herror⟩
    · rw [hsame, update_interfaces hkind]
    · rw [herror]
      rfl

namespace Session

variable {s s' : Session}

/-- Whether a session shows that the list that a request is for is being
    loaded. -/
def isLoading (s : Session) : Request → Bool
  | .listNodes => s.reference.nodes.isLoading
  | .listPods node => (s.reference.podsOf node).isLoading
  | .listInterfaces node => (s.stateOf node).interfaces.isLoading
  | _ => false

/-- What is loading is told by the listings and the interfaces. -/
theorem isLoading_congr (reference : s'.reference = s.reference)
    (interfaces : ∀ node, (s'.stateOf node).interfaces = (s.stateOf node).interfaces)
    (q : Request) : s'.isLoading q = s.isLoading q := by
  cases q <;> simp only [isLoading, reference, interfaces]

/-- A new list of the pods on a node turns the cell of that node over, if there
    is one. -/
theorem isLoading_setPods (s : Session) (node : String) (pods : Cell (List Pod)) (q : Request) :
    (s.setPods node pods).isLoading q
      = if q = .listPods node ∧ s.reference.contains node then pods.isLoading
        else s.isLoading q := by
  cases q with
  | listPods name =>
      simp only [isLoading, setPods, ReferenceData.podsOf_setPods, Request.listPods.injEq]
      by_cases hname : name = node
      · subst hname
        split <;> rfl
      · simp [hname]
  | listNodes => simp [isLoading, setPods]
  | _ => simp [isLoading, setPods, stateOf, node?]

/-! ## Requests -/

/-- What is asked for is not being loaded. -/
theorem Begins.idle {i : Intent} {r : Request} (h : s.Begins i r s') : s.isLoading r = false := by
  have not_loading : ∀ {α : Type} {cell : Cell α}, cell.isNotLoaded = true →
      cell.isLoading = false := by
    intro α cell hcell
    cases cell with
    | notLoaded => rfl
    | _ => cases hcell
  cases h with
  | listNodes idle => exact not_loading idle
  | listPods listed idle =>
      rw [isLoading, ReferenceData.podsOf, listed]
      exact not_loading idle
  | listInterfaces here fits idle =>
      rw [isLoading, stateOf_of_some _ _ here]
      exact not_loading idle
  | _ => rfl

/-- A request shows at once that it is made, and nothing else. -/
theorem Begins.isLoading {i : Intent} {r q : Request} (h : s.Begins i r s')
    (hq : q.loads = true) : s'.isLoading q = (q == r || s.isLoading q) := by
  -- a request for no list leaves all cells alone
  have others : r.loads = false → s'.reference = s.reference →
      s'.isLoading q = (q == r || s.isLoading q) := by
    intro hr hreference
    have hne : (q == r) = false := by
      refine beq_eq_false_iff_ne.mpr ?_
      rintro rfl
      rw [hr] at hq
      cases hq
    rw [hne, Bool.false_or]
    refine isLoading_congr hreference ?_ q
    intro node
    rcases h.node?_cases node with ⟨hsame, -⟩ | ⟨-, -, hset⟩
    · rw [stateOf, stateOf, hsame]
    · rw [stateOf_of_some _ _ hset]
      cases r <;> first | rfl | cases hr
  cases h with
  | listNodes idle =>
      -- before and after no node is listed
      have hbefore : ∀ node, s.reference.podsOf node = .notLoaded :=
        fun node => ReferenceData.podsOf_of_notLoaded _ node idle
      cases q with
      | listNodes => rfl
      | listPods node =>
          rw [Session.isLoading, Session.isLoading, hbefore]
          rfl
      | listInterfaces node => rfl
      | _ => cases hq
  | listPods listed idle =>
      rename_i node item
      have hcontains : s.reference.contains node = true := by
        rw [ReferenceData.contains, listed]
        rfl
      rw [setPodsLoading, isLoading_setPods]
      by_cases hsame : q = .listPods node
      · simp [hsame, hcontains, Cell.isLoading]
      · simp [hsame]
  | listInterfaces here fits idle =>
      rename_i node n
      cases q with
      | listInterfaces name =>
          rw [Session.isLoading, Session.isLoading, stateOf, node?_updateNode]
          by_cases hname : name = node
          · subst hname
            rw [if_pos rfl, here, beq_self_eq_true]
            rfl
          · rw [if_neg hname]
            simp [hname, stateOf]
      | listNodes => rfl
      | listPods name => rfl
      | _ => cases hq
  | checkNode => exact others rfl (reference_ensureNode _ _)
  | _ => exact others rfl rfl

/-- An intent without an operation leaves the listings as they are. -/
theorem Adjusts.reference {i : Intent} (h : s.Adjusts i s') : s'.reference = s.reference := by
  cases h with
  | select known =>
      rename_i chosen
      cases chosen with
      | none => rfl
      | some name =>
          rw [Session.select]
          split
          · exact reference_ensureNode s name
          · rfl
  | edit => rfl

/-- A local intent turns no cell over. -/
theorem Adjusts.isLoading {i : Intent} (h : s.Adjusts i s') (q : Request) :
    s'.isLoading q = s.isLoading q := by
  refine isLoading_congr h.reference ?_ q
  intro node
  obtain ⟨selection, hstate⟩ := h.stateOf node
  rw [hstate]

/-! ## Responses -/

/-- A list of nodes ends its own loading only. -/
theorem isLoading_foldNodes (s : Session) (outcome : Outcome) (names : List String) {q : Request}
    (hq : q.loads = true) (loading : s.isLoading .listNodes = true) :
    (s.foldNodes outcome names).isLoading q = (q != .listNodes && s.isLoading q) := by
  have hunlisted : ∀ node, s.reference.get? node = none := by
    intro node
    refine ReferenceData.get?_of_not_loaded _ _ ?_
    cases hnodes : s.reference.nodes with
    | loading => rfl
    | _ =>
        rw [isLoading, hnodes] at loading
        cases loading
  rw [foldNodes]
  cases q with
  | listNodes =>
      split
      · rw [isLoading, reference_setNodes]
        rfl
      · rfl
  | listPods node =>
      rw [isLoading, isLoading, ReferenceData.podsOf_of_unlisted _ _ (hunlisted node)]
      split
      · rw [reference_setNodes, ReferenceData.podsOf_updateNodes_of_unlisted _ _ _ (hunlisted node)]
        rfl
      · rfl
  | listInterfaces node =>
      show _ = (s.stateOf node).interfaces.isLoading
      rw [isLoading]
      split
      · rw [stateOf, node?_setNodes, stateOf]
        cases s.node? node with
        | some n => rfl
        | none => split <;> rfl
      · rfl
  | _ => cases hq

/-- A list of pods ends its own loading only. -/
theorem isLoading_foldPods (s : Session) (outcome : Outcome) (node : String) (pods : List Pod)
    (q : Request) :
    (s.foldPods outcome node pods).isLoading q = (q != .listPods node && s.isLoading q) := by
  rw [foldPods]
  cases hlisted : s.reference.contains node with
  | false =>
      by_cases hsame : q = .listPods node
      · have hnone : s.reference.get? node = none := by
          simpa [ReferenceData.contains] using hlisted
        simp [hsame, isLoading, ReferenceData.podsOf_of_unlisted _ _ hnone, Cell.isLoading]
      · simp [hsame]
  | true =>
      have hset : ∀ cell : Cell (List Pod), cell.isLoading = false →
          (s.setPods node cell).isLoading q = (q != .listPods node && s.isLoading q) := by
        intro cell hcell
        rw [isLoading_setPods, hlisted, hcell]
        by_cases hsame : q = .listPods node <;> simp [hsame]
      rw [if_pos rfl]
      split
      · exact hset _ rfl
      · rw [failPods, ← hset .notLoaded rfl]
        refine isLoading_congr ?_ ?_ q
        · rfl
        · intro name
          rw [stateOf, node?_updateNode, stateOf]
          split
          · cases (s.setPods node .notLoaded).node? name <;> rfl
          · rfl

/-- A response to an operation on a node, pod lists apart, turns the cell of its
    interfaces over where it brings them. -/
theorem isLoading_updateNode_effect (s : Session) {r : Response} {q' q : Request} {node : String}
    (answers : r.Answers q') (mine : q'.node? = some node) (hpods : q'.kind ≠ .listPods) :
    (s.updateNode node (r.effect node)).isLoading q = (q != q' && s.isLoading q) := by
  have others : ∀ {load : Request}, load.node? ≠ some node ∨ load.kind = .listPods →
      (load != q') = true := by
    intro load hload
    refine bne_iff_ne.mpr ?_
    rintro rfl
    exact hload.elim (fun h => h mine) hpods
  cases q with
  | listNodes =>
      rw [others (Or.inl (by rintro ⟨⟩)), Bool.true_and]
      rfl
  | listPods name =>
      rw [others (Or.inr rfl), Bool.true_and]
      rfl
  | listInterfaces name =>
      rw [isLoading, isLoading, stateOf, node?_updateNode]
      by_cases hname : name = node
      · subst hname
        have hkind : (Request.listInterfaces name != q') = (r.kind != .listInterfaces) := by
          rw [answers.kind]
          cases q' with
          | listInterfaces other =>
              obtain rfl := Option.some.inj mine
              simp [Request.kind]
          | _ => rfl
        rw [if_pos rfl, hkind, stateOf]
        cases s.node? name with
        | none => exact (Bool.and_false _).symm
        | some n => exact Response.effect_interfaces r name n
      · have hne : (Request.listInterfaces name).node? ≠ some node :=
          fun h => hname (Option.some.inj h)
        rw [if_neg hname, others (Or.inl hne), Bool.true_and, stateOf]
  | _ => simp [isLoading]

/-- The response to a request shows at once that it came, and nothing else.  A
    node list must have been asked for. -/
theorem isLoading_fold {r : Response} {q' q : Request} (answers : r.Answers q')
    (hq : q.loads = true) (loading : q' = .listNodes → s.isLoading .listNodes = true) :
    (s.fold r).isLoading q = (q != q' && s.isLoading q) := by
  have settled : ∀ {node : String}, q'.node? = some node → q'.kind ≠ .listPods →
      (s.fold r).isLoading q = (q != q' && s.isLoading q) := by
    intro node mine hpods
    rw [fold_eq_updateNode s (answers.node?.trans mine) (answers.kind ▸ hpods)]
    exact isLoading_updateNode_effect s answers mine hpods
  cases q' with
  | listNodes =>
      cases r with
      | nodesListed outcome names => exact isLoading_foldNodes s outcome names hq (loading rfl)
      | _ => exact answers.elim
  | listPods node =>
      cases r with
      | podsListed outcome node' pods =>
          obtain rfl : node' = node := answers
          exact isLoading_foldPods s outcome node' pods q
      | _ => exact answers.elim
  | _ => exact settled rfl (fun h => nomatch h)

end Session

/-! ## Captures -/

/-- A request marks the capture that it downloads as being downloaded, and no
    other one. -/
theorem Request.mem_captures_mark {q : Request} {n : Node} {c : Capture}
    (hc : c ∈ (q.mark n).captures) (downloading : c.status = .downloading) :
    (∃ node path, q = .download node c.name path) ∨ c ∈ n.captures := by
  cases q with
  | download node capture path =>
      obtain ⟨before, hbefore, rfl⟩ := List.mem_map.mp hc
      split
      · next hname =>
          subst hname
          exact Or.inl ⟨node, path, rfl⟩
      · exact Or.inr hbefore
  | _ => exact Or.inr hc

/-! ## Runs -/

namespace Orchestrator

variable {o : Orchestrator} {node : String}

/-- The outstanding operations of a request. -/
def loadsOf (o : Orchestrator) (q : Request) : List (Nat × Request) := o.pending (· == q)

/-- The cells are the record of the outstanding loads. -/
def TracksLoads (o : Orchestrator) : Prop :=
  ∀ q, q.loads = true → (o.loadsOf q).length = (o.session.isLoading q).toNat

/-- Each capture that is marked is being downloaded. -/
def DownloadsMarked (o : Orchestrator) (node : String) : Prop :=
  ∀ c ∈ (o.session.stateOf node).captures, c.status = .downloading → o.downloads node c.name ≠ []

/-- A new orchestrator loads nothing. -/
theorem tracksLoads_create (cluster : String) (initialNodes : List String) :
    (create cluster initialNodes).TracksLoads := by
  intro q _
  cases q <;> rfl

/-- A load is shown as long as it is outstanding. -/
theorem TracksLoads.isLoading {operation : Nat} {q : Request} (h : o.TracksLoads)
    (outstanding : (operation, q) ∈ o.outstanding) (loads : q.loads = true) :
    o.session.isLoading q = true := by
  have hmem : (operation, q) ∈ o.loadsOf q := mem_pending.mpr ⟨outstanding, beq_self_eq_true q⟩
  have hpos := List.length_pos_of_mem hmem
  rw [h q loads] at hpos
  by_contra hidle
  rw [Bool.eq_false_iff.mpr hidle] at hpos
  exact Nat.not_lt_zero 0 hpos

/-- A load that begins is shown, since it was not shown before. -/
theorem TracksLoads.begun {o' : Orchestrator} {i : Intent} {r : Request} (h : o.TracksLoads)
    (begins : o.session.Begins i r o'.session)
    (outstanding : o'.outstanding = o.outstanding ++ [(o.submitted, r)]) : o'.TracksLoads := by
  intro q hq
  rw [loadsOf, pending_begun outstanding, begins.isLoading hq]
  by_cases hsame : q = r
  · subst hsame
    have hnone : (o.loadsOf q).length = 0 := by
      rw [h q hq, begins.idle]
      rfl
    rw [if_pos (beq_self_eq_true q), List.length_append, beq_self_eq_true, Bool.true_or,
      show (o.pending _).length = 0 from hnone]
    rfl
  · have hne : (r == q) = false := beq_eq_false_iff_ne.mpr (Ne.symm hsame)
    rw [hne, beq_eq_false_iff_ne.mpr hsame, Bool.false_or]
    exact h q hq

/-- A load that ends is not shown any more, since there is no other one. -/
theorem TracksLoads.complete {operation : Nat} {q' : Request} {r : Response} (h : o.TracksLoads)
    (numbered : o.Numbered) (outstanding : (operation, q') ∈ o.outstanding)
    (answers : r.Answers q') : (o.complete operation r).TracksLoads := by
  intro q hq
  have hfold : (o.complete operation r).session.isLoading q = (q != q' && o.session.isLoading q) :=
    Session.isLoading_fold answers hq (fun hnodes => hnodes ▸ h.isLoading outstanding
      (hnodes ▸ rfl))
  rw [hfold]
  by_cases hsame : q = q'
  · subst hsame
    have hsingle : o.pending (· == q) = [(operation, q)] := by
      refine pending_eq_singleton outstanding (beq_self_eq_true q) ?_
      rw [show (o.pending (· == q)).length = _ from h q hq]
      exact Bool.toNat_le _
    rw [loadsOf, pending_complete_of_single hsingle, bne_self_eq_false]
    rfl
  · have hother : (q' == q) = false := beq_eq_false_iff_ne.mpr (Ne.symm hsame)
    rw [loadsOf, numbered.pending_complete_of_other outstanding hother, bne_iff_ne.mpr hsame,
      Bool.true_and]
    exact h q hq

/-- Each act keeps the record of the loads. -/
theorem TracksLoads.advance {s : Settings} {act : Act} (h : o.TracksLoads) (numbered : o.Numbered)
    (allowed : o.Allows s act) : (o.advance act).TracksLoads := by
  cases allowed with
  | ended outstanding yields => exact h.complete numbered outstanding yields.answers
  | asked i =>
      simp only [Orchestrator.advance, handle]
      cases hp : o.perform i with
      | error e => exact h
      | ok result =>
          obtain ⟨o', a⟩ := result
          cases performs_of_perform hp with
          | refused session outstanding =>
              intro q hq
              rw [loadsOf, pending, outstanding, session]
              exact h q hq
          | done adjusts outstanding =>
              intro q hq
              rw [loadsOf, pending, outstanding, adjusts.isLoading]
              exact h q hq
          | begun begins outstanding => exact h.begun begins outstanding

/-- Each act keeps the downloads of marked captures, or takes the mark away. -/
theorem Moves.downloadsMarked {act : Act} (moves : o.Moves node act) (numbered : o.Numbered)
    (h : o.DownloadsMarked node) : (o.advance act).DownloadsMarked node := by
  -- what begins takes no download away
  have grows : ∀ {r : Request} {capture : String},
      (o.advance act).outstanding = o.outstanding ++ [(o.submitted, r)] →
      o.downloads node capture ≠ [] → (o.advance act).downloads node capture ≠ [] := by
    intro r capture outstanding hbusy
    rw [downloads, pending_begun outstanding]
    split
    · exact List.append_ne_nil_of_right_ne_nil _ (by simp)
    · exact hbusy
  intro c hc downloading
  cases moves with
  | stayed selection outstanding state =>
      rw [state] at hc
      rw [downloads, pending, outstanding]
      exact h c hc downloading
  | begunElsewhere outstanding other state =>
      rw [state] at hc
      exact grows outstanding (h c hc downloading)
  | begun outstanding mine fits state =>
      rw [state] at hc
      rcases Request.mem_captures_mark hc downloading with ⟨name, path, rfl⟩ | hbefore
      · obtain rfl : name = node := Option.some.inj mine
        rw [downloads, pending_begun outstanding, if_pos (Request.downloads_iff.mpr ⟨path, rfl⟩)]
        simp
      · exact grows outstanding (h c hbefore downloading)
  | endedElsewhere outstanding answers other state =>
      rw [state] at hc
      have hbusy := h c hc downloading
      refine (numbered.downloads_complete outstanding (Bool.eq_false_iff.mpr ?_)).symm ▸ hbusy
      intro hq
      obtain ⟨path, rfl⟩ := Request.downloads_iff.mp hq
      rcases other rfl with hpods | hnone
      · cases hpods
      · -- a node without a state has no captures
        rw [Session.stateOf_of_none _ _ hnone] at hc
        cases hc
  | ended outstanding answers mine state =>
      rename_i operation q r
      rw [state] at hc
      obtain ⟨hbefore, hother⟩ : c ∈ (o.session.stateOf node).captures
          ∧ ∀ outcome name path, r ≠ .downloaded outcome name c.name path := by
        rcases Response.mem_captures_effect hc with hold | hcompleted | ⟨hdownloaded, -⟩
        · exact hold
        · cases downloading.symm.trans hcompleted
        · cases downloading.symm.trans hdownloaded
      have hbusy := h c hbefore downloading
      refine (numbered.downloads_complete outstanding (Bool.eq_false_iff.mpr ?_)).symm ▸ hbusy
      intro hq
      obtain ⟨path, rfl⟩ := Request.downloads_iff.mp hq
      cases r with
      | downloaded outcome name capture path' =>
          obtain ⟨rfl, rfl⟩ := answers
          exact hother outcome name path' rfl
      | _ => exact answers.elim

/-- The three invariants hold together in every run. -/
theorem Reaches.markers {s : Settings} {cluster : String} {initialNodes : List String}
    {history : List (Orchestrator × Act)}
    (reached : Reaches s (create cluster initialNodes) history o) :
    o.Numbered ∧ o.TracksLoads ∧ ∀ node, o.DownloadsMarked node := by
  refine reached.keeps (P := fun o => o.Numbered ∧ o.TracksLoads ∧ ∀ node, o.DownloadsMarked node)
    ?_ ?_
  · refine ⟨numbered_create cluster initialNodes, tracksLoads_create cluster initialNodes, ?_⟩
    intro node c hc
    cases hc
  · rintro o act allowed ⟨numbered, hloads, hmarks⟩
    exact ⟨numbered.advance act, hloads.advance numbered allowed,
      fun node => (allowed.moves node).downloadsMarked numbered (hmarks node)⟩

end Orchestrator

/-- A cell tells whether a load of it is outstanding: exactly one is while it is
    loading, and none otherwise. -/
def Cell.Tells {α : Type} (cell : Cell α) (loads : List (Nat × Request)) : Prop :=
  (cell = .loading ∧ loads.length = 1) ∨ (cell ≠ .loading ∧ loads = [])

/-- A cell tells what is outstanding if their numbers agree. -/
theorem Cell.tells_of_length {α : Type} {cell : Cell α} {loads : List (Nat × Request)}
    (h : loads.length = cell.isLoading.toNat) : cell.Tells loads := by
  cases cell with
  | loading => exact Or.inl ⟨rfl, h⟩
  | notLoaded => exact Or.inr ⟨nofun, List.length_eq_zero_iff.mp h⟩
  | loaded value => exact Or.inr ⟨nofun, List.length_eq_zero_iff.mp h⟩

/-- What is shown as under way is outstanding. -/
structure Orchestrator.MarkersTell (o : Orchestrator) : Prop where
  nodes : o.session.reference.nodes.Tells (o.loadsOf .listNodes)
  pods : ∀ node, (o.session.reference.podsOf node).Tells (o.loadsOf (.listPods node))
  interfaces : ∀ node,
    (o.session.stateOf node).interfaces.Tells (o.loadsOf (.listInterfaces node))
  downloads : ∀ node, ∀ c ∈ (o.session.stateOf node).captures, c.status = .downloading →
    ∃ operation path, (operation, .download node c.name path) ∈ o.outstanding

/-- Nothing is shown as under way. -/
structure Session.AtRest (s : Session) : Prop where
  nodes : s.reference.nodes ≠ .loading
  pods : ∀ node, s.reference.podsOf node ≠ .loading
  interfaces : ∀ node, (s.stateOf node).interfaces ≠ .loading
  captures : ∀ node, ∀ c ∈ (s.stateOf node).captures, c.status ≠ .downloading

/-- With nothing outstanding, nothing is shown as under way. -/
theorem Orchestrator.MarkersTell.atRest {o : Orchestrator} (h : o.MarkersTell)
    (nothing : o.outstanding = []) : o.session.AtRest := by
  have idle : ∀ {α : Type} {cell : Cell α} {q : Request}, cell.Tells (o.loadsOf q) →
      cell ≠ .loading := by
    intro α cell q htells
    rcases htells with ⟨-, hone⟩ | ⟨hidle, -⟩
    · rw [loadsOf, pending, nothing] at hone
      cases hone
    · exact hidle
  refine ⟨idle h.nodes, fun node => idle (h.pods node), fun node => idle (h.interfaces node), ?_⟩
  intro node c hc downloading
  obtain ⟨operation, path, hmem⟩ := h.downloads node c hc downloading
  rw [nothing] at hmem
  cases hmem

/-- In every run without injected responses, whatever is asked for and in
    whatever order operations end, the markers of a session tell what is
    outstanding; so nothing is shown as under way when nothing is. -/
theorem markers_tell {s : Settings} {cluster : String} {initialNodes : List String}
    {history : List (Orchestrator × Act)} {o : Orchestrator}
    (reached : Orchestrator.Reaches s (.create cluster initialNodes) history o) :
    o.MarkersTell ∧ (o.outstanding = [] → o.session.AtRest) := by
  obtain ⟨-, hloads, hmarks⟩ := reached.markers
  have tells : o.MarkersTell := by
    refine ⟨Cell.tells_of_length (hloads .listNodes rfl),
      fun node => Cell.tells_of_length (hloads (.listPods node) rfl),
      fun node => Cell.tells_of_length (hloads (.listInterfaces node) rfl), ?_⟩
    intro node c hc downloading
    obtain ⟨⟨operation, q⟩, hentry⟩ := List.exists_mem_of_ne_nil _ (hmarks node c hc downloading)
    obtain ⟨houtstanding, hq⟩ := Orchestrator.mem_pending.mp hentry
    obtain ⟨path, rfl⟩ := Request.downloads_iff.mp hq
    exact ⟨operation, path, houtstanding⟩
  exact ⟨tells, tells.atRest⟩

/-- The nodes are listed, and then the pods and the interfaces of one of them
    are asked for while a capture of it is downloaded. -/
def loadsDuringDownload : List Cue :=
  [.ask .listNodes, .carryOut 0 [.exited { stdout := "n\nm\n" }], .ask (.checkNode "n"),
    .carryOut 1 [.exited { stdout := "debug-n\n" }, .exited {}, .exited {},
      .exited { stdout := "/tmp/capturectl_web.cap\t8\n" }],
    .ask (.listPods "n"), .ask (.download "n" "web" "/tmp/web.cap"), .ask (.listInterfaces "n")]

/-- All three are outstanding and shown then. -/
theorem markers_tell_during_download :
    ((Orchestrator.create "lab" []).play {} loadsDuringDownload).2.outstanding
        = [(2, .listPods "n"), (3, .download "n" "web" "/tmp/web.cap"), (4, .listInterfaces "n")]
      ∧ ((Orchestrator.create "lab" []).play {} loadsDuringDownload).2.session.reference.podsOf "n"
        = .loading
      ∧ ((Orchestrator.create "lab" []).play {} loadsDuringDownload).2.MarkersTell :=
  ⟨by decide +kernel, by decide +kernel,
    (markers_tell (Orchestrator.reaches_play {} _ loadsDuringDownload)).1⟩

end NodeCapture
