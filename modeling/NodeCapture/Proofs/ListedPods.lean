import NodeCapture.Proofs.CaptureRuns
import NodeCapture.Proofs.Markers

/-! # Listed pods

    The pods on a node are listed once at most.  As long as nothing else is
    outstanding, a session holds the pods on a node exactly if kubectl listed
    them (`PodsAsListed`), so that a pod that was found by its name is never
    found anywhere else later on. -/

namespace NodeCapture

/-- Among some exchanges kubectl listed some pods as those on a node. -/
def ListsPods (exchanges : List Exchange) (node : String) (pods : List Pod) : Prop :=
  ∃ r, r.succeeded = true ∧ ⟨listPods node, .exited r⟩ ∈ exchanges ∧ readPods r.stdout = pods

/-- A session holds the pods that were listed, and no others. -/
def PodsAsListed (exchanges : List Exchange) (session : Session) : Prop :=
  ∀ node pods, ListsPods exchanges node pods ↔ session.reference.podsOf node = .loaded pods

/-- A listing of pods tells its node. -/
theorem listPods_injective {node name : String} (h : listPods node = listPods name) :
    node = name := by
  have hargs := congrArg Call.args h
  simpa [listPods] using hargs

/-- Pods that were listed were listed, whatever comes later. -/
theorem ListsPods.append {before : List Exchange} {node : String} {pods : List Pod}
    (h : ListsPods before node pods) (later : List Exchange) :
    ListsPods (later ++ before) node pods := by
  obtain ⟨r, hr, hmem, hread⟩ := h
  exact ⟨r, hr, List.mem_append_right _ hmem, hread⟩

/-- Pods were listed earlier or later. -/
theorem listsPods_append {later before : List Exchange} {node : String} {pods : List Pod} :
    ListsPods (later ++ before) node pods
      ↔ ListsPods later node pods ∨ ListsPods before node pods := by
  constructor
  · rintro ⟨r, hr, hmem, hread⟩
    rcases List.mem_append.mp hmem with hmem | hmem
    · exact Or.inl ⟨r, hr, hmem, hread⟩
    · exact Or.inr ⟨r, hr, hmem, hread⟩
  · rintro (⟨r, hr, hmem, hread⟩ | h)
    · exact ⟨r, hr, List.mem_append_left _ hmem, hread⟩
    · exact h.append later

/-- One exchange lists pods if it is for their node and ends well. -/
theorem listsPods_singleton {name node : String} {reply : Reply} {pods : List Pod} :
    ListsPods [⟨listPods name, reply⟩] node pods
      ↔ name = node ∧ ∃ r, reply = .exited r ∧ r.succeeded = true ∧ readPods r.stdout = pods := by
  constructor
  · rintro ⟨r, hr, hmem, hread⟩
    obtain ⟨hcall, hreply⟩ := Exchange.mk.inj (List.mem_singleton.mp hmem)
    exact ⟨listPods_injective hcall.symm, r, hreply.symm, hr, hread⟩
  · rintro ⟨rfl, r, rfl, hr, hread⟩
    exact ⟨r, hr, List.mem_singleton_self _, hread⟩

/-- What was listed was listed once. -/
theorem PodsAsListed.unique {exchanges : List Exchange} {session : Session} {node : String}
    {pods pods' : List Pod} (listed : PodsAsListed exchanges session)
    (h : ListsPods exchanges node pods) (h' : ListsPods exchanges node pods') : pods = pods' :=
  Cell.loaded.inj (((listed node pods).mp h).symm.trans ((listed node pods').mp h'))

/-- A new session knows no pods, and none were listed. -/
theorem podsAsListed_create (cluster : String) (initialNodes : List String) :
    PodsAsListed [] (Session.create cluster initialNodes) := by
  intro node pods
  constructor
  · rintro ⟨r, -, hmem, -⟩
    exact absurd hmem List.not_mem_nil
  · intro h
    cases h

/-- Only the operation for it lists the pods on a node. -/
theorem Request.MayCall.of_listPods {s : Settings} {q : Request} {node : String}
    (h : q.MayCall s (NodeCapture.listPods node)) : q = .listPods node := by
  generalize hcall : NodeCapture.listPods node = c at h
  cases h with
  | looks looks =>
      cases looks <;>
        simp [NodeCapture.listPods, NodeCapture.listNodes, Settings.listDebugPods,
          Settings.waitReady, Settings.exec] at hcall
  | listsPods => exact congrArg Request.listPods (listPods_injective hcall).symm
  | _ =>
      simp [NodeCapture.listPods, Settings.exec, Settings.waitReady, Settings.deletePod,
        Settings.waitDeleted, Settings.applyManifest, clientVersion, Settings.copyFile,
        NodeCapture.listNodes] at hcall

/-- Other operations list no pods. -/
theorem Operation.not_listsPods {s : Settings} {q : Request} {exchanges : List Exchange}
    {result : Except OperationFault Response} (hq : q.kind ≠ .listPods)
    (leads : (ofRequest s q).Leads exchanges result) (node : String) (pods : List Pod) :
    ¬ListsPods exchanges node pods := by
  rintro ⟨r, -, hmem, -⟩
  obtain rfl := ((ofRequest_mayCall s q).of_leads leads _ hmem).of_listPods
  exact hq rfl

namespace Session

variable {se between : Session} {i : Intent} {q : Request}

/-- Other responses leave the listings as they are. -/
theorem reference_fold_of_other {r : Response} (hnodes : r.kind ≠ .listNodes)
    (hpods : r.kind ≠ .listPods) : (se.fold r).reference = se.reference := by
  obtain ⟨node, hnode⟩ : ∃ node, r.node? = some node := by
    cases r with
    | nodesListed => exact absurd rfl hnodes
    | _ => exact ⟨_, rfl⟩
  rw [fold_eq_updateNode se hnode hpods]
  rfl

/-- Other requests leave the listings as they are. -/
theorem Begins.reference_of_other (h : se.Begins i q between) (hnodes : q.kind ≠ .listNodes)
    (hpods : q.kind ≠ .listPods) : between.reference = se.reference := by
  cases h with
  | checkNode => exact reference_ensureNode _ _
  | listNodes => exact absurd rfl hnodes
  | listPods => exact absurd rfl hpods
  | _ => rfl

/-- While nothing was listed, listing nodes loads no pods. -/
theorem podsOf_foldNodes (unlisted : ∀ node, se.reference.get? node = none) (outcome : Outcome)
    (names : List String) (node : String) :
    (se.foldNodes outcome names).reference.podsOf node = .notLoaded := by
  rw [foldNodes]
  split
  · rw [reference_setNodes]
    exact ReferenceData.podsOf_updateNodes_of_unlisted _ _ names (unlisted node)
  · rfl

/-- Folding the pods on a listed node after they were asked for. -/
theorem podsOf_foldPods {name : String} (here : se.reference.contains name) (outcome : Outcome)
    (pods : List Pod) (node : String) :
    ((se.setPodsLoading name).foldPods outcome name pods).reference.podsOf node
      = if node = name then if outcome.succeeded then .loaded pods else .notLoaded
        else se.reference.podsOf node := by
  have hstill : (se.setPodsLoading name).reference.contains name = true :=
    (se.reference.contains_setPods name name _).trans here
  have hset : ∀ cell, ((se.setPodsLoading name).setPods name cell).reference.podsOf node
      = if node = name then cell else se.reference.podsOf node := by
    intro cell
    show ((se.setPodsLoading name).reference.setPods name cell).podsOf node = _
    rw [ReferenceData.podsOf_setPods]
    by_cases hname : node = name
    · subst hname
      rw [if_pos ⟨rfl, hstill⟩, if_pos rfl]
    · rw [if_neg (fun h => hname h.1), if_neg hname]
      show (se.reference.setPods name .loading).podsOf node = _
      rw [ReferenceData.podsOf_setPods, if_neg (fun h => hname h.1)]
  rw [foldPods, if_pos hstill]
  split
  · exact hset _
  · exact hset _

/-- The pods that a session holds are those that an operation listed, and those
    that it held before. -/
theorem Begins.podsAsListed {s : Settings} {before exchanges : List Exchange}
    {result : Except OperationFault Response} (begins : se.Begins i q between)
    (leads : (Operation.ofRequest s q).Leads exchanges result) (listed : PodsAsListed before se) :
    PodsAsListed (exchanges ++ before) (between.fold (Orchestrator.responseOf q result)) := by
  have answers := Station.answers_of_leads leads
  have others : q.kind ≠ .listNodes → q.kind ≠ .listPods →
      PodsAsListed (exchanges ++ before) (between.fold (Orchestrator.responseOf q result)) := by
    intro hnodes hpods node pods
    rw [listsPods_append, or_iff_right (Operation.not_listsPods hpods leads node pods),
      reference_fold_of_other (answers.kind ▸ hnodes) (answers.kind ▸ hpods),
      begins.reference_of_other hnodes hpods]
    exact listed node pods
  cases begins with
  | listNodes idle =>
      -- before the nodes are listed, nothing is known of their pods
      intro node pods
      rw [listsPods_append, or_iff_right (Operation.not_listsPods (by rintro ⟨⟩) leads node pods),
        listed node pods, ReferenceData.podsOf_of_notLoaded _ _ idle]
      generalize Orchestrator.responseOf _ result = response at answers
      cases response with
      | nodesListed outcome names =>
          rw [fold, podsOf_foldNodes (fun _ => rfl)]
      | _ => exact answers.elim
  | listPods here idle =>
      rename_i name item
      have hcontains : se.reference.contains name = true := by
        rw [ReferenceData.contains, here]
        rfl
      have hbefore : se.reference.podsOf name = .notLoaded := by
        rw [ReferenceData.podsOf, here]
        cases hpods : item.pods with
        | notLoaded => exact hpods
        | _ =>
            rw [hpods] at idle
            cases idle
      rw [Operation.ofRequest, Operation.listPods] at leads
      rcases Operation.leads_attempt leads with
        ⟨r, rest, hr, rfl, hrest⟩ | ⟨reply, bad, rfl, hfails⟩
      · -- the pods on this node are listed for the first time
        cases hrest
        intro node pods
        show _ ↔ ((se.setPodsLoading name).foldPods .success name _).reference.podsOf node = _
        rw [podsOf_foldPods hcontains, List.nil_append, listsPods_append, listsPods_singleton,
          listed node pods]
        by_cases hname : node = name
        · subst hname
          simp [hbefore, hr, Outcome.success]
        · simp [hname, Ne.symm hname]
      · obtain ⟨outcome, hfailed, hresponse⟩ : ∃ outcome : Outcome, outcome.succeeded = false
            ∧ Orchestrator.responseOf (.listPods name) result = .podsListed outcome name [] := by
          rcases hfails with ⟨text, rfl⟩ | ⟨fault, rfl⟩
          · exact ⟨_, rfl, rfl⟩
          · exact ⟨_, rfl, rfl⟩
        intro node pods
        rw [hresponse, fold, podsOf_foldPods hcontains, hfailed, listsPods_append,
          listsPods_singleton, listed node pods]
        by_cases hname : node = name
        · subst hname
          rw [hbefore]
          refine iff_of_false ?_ (by simp)
          rintro (⟨-, r, hreply, hr, -⟩ | hloaded)
          · rw [bad r hreply] at hr
            cases hr
          · cases hloaded
        · simp [hname, Ne.symm hname]
  | _ => exact others (by rintro ⟨⟩) (by rintro ⟨⟩)

end Session

/-- Carrying an intent out keeps what a session holds to what was listed. -/
theorem Station.Takes.podsAsListed {st st' : Station} {i : Intent}
    {before exchanges : List Exchange} (h : st.Takes i st') (follows : st.Follows exchanges st')
    (listed : PodsAsListed before st.session) : PodsAsListed (exchanges ++ before) st'.session := by
  cases h with
  | stayed declined session follows' =>
      obtain rfl := follows.unique follows'
      have hreference : st'.session.reference = st.session.reference := by
        rcases session with session | adjusts
        · rw [session]
        · exact adjusts.reference
      intro node pods
      rw [hreference]
      exact listed node pods
  | carried begins leads session follows' =>
      obtain rfl := follows.unique follows'
      rw [session]
      exact begins.podsAsListed leads listed

/-! ## Pods by their names -/

/-- Kubectl listed a pod with a name and an address among those on a node. -/
def AddressOf (exchanges : List Exchange) (node pod address : String) : Prop :=
  ∃ pods p, ListsPods exchanges node pods ∧ pods.find? (fun p => p.name == pod) = some p
    ∧ p.address = address

/-- An address that was listed was listed, whatever comes later. -/
theorem AddressOf.append {before : List Exchange} {node pod address : String}
    (h : AddressOf before node pod address) (later : List Exchange) :
    AddressOf (later ++ before) node pod address := by
  obtain ⟨pods, p, listed, found, haddress⟩ := h
  exact ⟨pods, p, listed.append later, found, haddress⟩

/-- A pod has one address while its node is listed once. -/
theorem AddressOf.unique {exchanges : List Exchange} {session : Session}
    (listed : PodsAsListed exchanges session) {node pod address address' : String}
    (h : AddressOf exchanges node pod address) (h' : AddressOf exchanges node pod address') :
    address = address' := by
  obtain ⟨pods, p, hpods, found, rfl⟩ := h
  obtain ⟨pods', p', hpods', found', rfl⟩ := h'
  obtain rfl := listed.unique hpods hpods'
  rw [Option.some.inj (found.symm.trans found')]

/-- Pods are listed with an address only. -/
theorem AddressOf.ne_empty {exchanges : List Exchange} {node pod address : String}
    (h : AddressOf exchanges node pod address) : address ≠ "" := by
  obtain ⟨pods, p, ⟨r, -, -, rfl⟩, found, rfl⟩ := h
  obtain ⟨line, -, hread⟩ := List.mem_filterMap.mp (List.mem_of_find?_eq_some found)
  rw [readPod] at hread
  split at hread
  · split at hread
    · cases hread
    · next hcond =>
        cases hread
        intro hempty
        have hnil := String.ofList_eq_empty_iff.mp hempty
        simp [hnil] at hcond
  · cases hread

/-- Where no pod is asked for, there is no address. -/
theorem addresses_none {exchanges : List Exchange} {node : String} {pod : Option String}
    (asked : pod = none) : Option.Rel (AddressOf exchanges node) pod none := by
  rw [asked]
  exact .none

/-- At most one address is found for a pod that may be asked for. -/
theorem addresses_unique {exchanges : List Exchange} {session : Session}
    (listed : PodsAsListed exchanges session) {node : String} {pod address address' : Option String}
    (h : Option.Rel (AddressOf exchanges node) pod address)
    (h' : Option.Rel (AddressOf exchanges node) pod address') : address = address' := by
  cases h with
  | none =>
      cases h'
      rfl
  | some h =>
      cases h' with
      | some h' => rw [h.unique listed h']

/-- A pod that may be asked for has no empty address. -/
theorem addresses_ne_empty {exchanges : List Exchange} {node : String} {pod address : Option String}
    (h : Option.Rel (AddressOf exchanges node) pod address) : address ≠ some "" := by
  cases h with
  | none => rintro ⟨⟩
  | some h => exact fun hempty => h.ne_empty (Option.some.inj hempty)

/-- Addresses that were listed were listed, whatever comes later. -/
theorem addresses_append {before : List Exchange} {node : String} {pod address : Option String}
    (h : Option.Rel (AddressOf before node) pod address) (later : List Exchange) :
    Option.Rel (AddressOf (later ++ before) node) pod address := by
  cases h with
  | none => exact .none
  | some h => exact .some (h.append later)

end NodeCapture
