import NodeCapture.Proofs.CaptureListings
import NodeCapture.Proofs.CleanUp
import NodeCapture.Proofs.Decimals
import NodeCapture.Proofs.Edits
import NodeCapture.Proofs.Previews

/-! # Filters that were previewed

    A preview makes its selection at once, while the run of a capture finds the
    pods, changes the filters of the node step by step, and derives the text
    again with each step and at the start.  Both come to the same filter.

    `Faithful` is what a run keeps: whatever capture it starts is started as
    previewed, with the pods that were listed until then.  The rules for its
    errands lead from the empty selection to the one of a preview; behind the
    start nothing else starts a capture. -/

namespace NodeCapture

/-! ## Starts of captures -/

/-- A call starts a capture in the debug pod of a node. -/
def Call.StartsCapture (s : Settings) (c : Call) : Prop :=
  ∃ node capture filters, c = s.exec node (s.startCommand capture filters)

/-- No number ends in an ampersand. -/
theorem Settings.getLast?_killCommand (pid : Int) :
    (killCommand pid).toList.getLast? ≠ some '&' := by
  have digits : ∀ n, '&' ∉ decimalChars n := by
    intro n hmem
    exact absurd ((writes_decimalChars n).decimal _ hmem) (by decide)
  have number : '&' ∉ integerChars pid := by
    cases pid with
    | ofNat n => exact digits n
    | negSucc n => exact List.not_mem_cons_of_ne_of_not_mem (by decide) (digits _)
  intro hlast
  rw [killCommand, String.toList_append, List.getLast?_append, integerText,
    String.toList_ofList] at hlast
  rcases Option.or_eq_some_iff.mp hlast with hnumber | ⟨-, hword⟩
  · exact number (List.mem_of_getLast? hnumber)
  · exact absurd hword (by decide)

/-- Only the start of a capture starts one. -/
theorem Request.MayCall.of_startsCapture {s : Settings} {q : Request} {c : Call}
    (h : q.MayCall s c) (starts : c.StartsCapture s) : q.kind = .startCapture := by
  obtain ⟨node, capture, filters, hcall⟩ := starts
  have background : ∀ {name command : String}, c = s.exec name command →
      command.toList.getLast? = some '&' := by
    intro name command hexec
    have hlast := congrArg (·.args.getLast?) (hcall.symm.trans hexec)
    have hsame : s.startCommand capture filters = command := by simpa [Settings.exec] using hlast
    rw [← hsame]
    exact s.getLast?_startCommand capture filters
  have runs : c.args.head? = some "exec" := by
    rw [hcall]
    rfl
  cases h with
  | starts => rfl
  | looks looks =>
      cases looks with
      | processes => exact absurd (background rfl) (by decide)
      | files => exact absurd (background rfl) s.getLast?_findCommand
      | _ => simp [NodeCapture.listNodes, Settings.listDebugPods, Settings.waitReady] at runs
  | kills => exact absurd (background rfl) (Settings.getLast?_killCommand _)
  | listsFiles => exact absurd (background rfl) s.getLast?_findCommand
  | installs => exact absurd (background rfl) (by decide)
  | listsProcesses => exact absurd (background rfl) (by decide)
  | listsInterfaces => exact absurd (background rfl) (by decide)
  | _ =>
      simp [Settings.waitReady, Settings.deletePod, Settings.waitDeleted, Settings.applyManifest,
        clientVersion, Settings.copyFile, NodeCapture.listNodes, NodeCapture.listPods] at runs

/-! ## What a run keeps -/

/-- A call starts a capture with the interface that is asked for, and with the
    filter that a preview shows. -/
def Call.AsPreviewed (s : Settings) (o : RunOptions) (capture : String) (exchanges : List Exchange)
    (c : Call) : Prop :=
  ∃ t text, ByAddress exchanges o t
    ∧ Workplace.previewFilter t = { ending := .succeeded, printed := [text] }
    ∧ c = s.exec o.node (s.startCommand capture ⟨o.interface, nonEmpty (some text)⟩)

/-- A capture that was started as previewed was so, whatever comes later. -/
theorem Call.AsPreviewed.append {s : Settings} {o : RunOptions} {capture : String}
    {before : List Exchange} {c : Call} (h : c.AsPreviewed s o capture before)
    (later : List Exchange) : c.AsPreviewed s o capture (later ++ before) := by
  obtain ⟨t, text, address, hpreview, hcall⟩ := h
  exact ⟨t, text, address.append later, hpreview, hcall⟩

/-- What a run has come to: the pods are known as they were listed, captures
    were started as previewed only, and the exchanges and the state of the node
    have a property. -/
structure Faithful (s : Settings) (o : RunOptions) (capture : String)
    (φ : List Exchange → Node → Prop) (later : List Exchange) (session : Session) : Prop where
  listed : PodsAsListed later session
  starts : ∀ e ∈ later, e.call.StartsCapture s → e.call.AsPreviewed s o capture later
  state : φ later (session.stateOf o.node)

namespace Station

variable {s : Settings} {o : RunOptions} {capture node : String} {st st' : Station} {i : Intent}
  {φ ψ : List Exchange → Node → Prop}

/-- Only the start of a capture starts one. -/
theorem Takes.unstarted (h : st.Takes i st') (hi : ∀ node name, i ≠ .startCapture node name) :
    ∃ exchanges, st.Follows exchanges st'
      ∧ ∀ e ∈ exchanges, ¬e.call.StartsCapture st.settings := by
  obtain ⟨exchanges, follows, calls⟩ := h.calls
  refine ⟨exchanges, follows, ?_⟩
  intro e he starts
  obtain ⟨q, between, begins, hcall⟩ := calls e he
  have hkind := hcall.of_startsCapture starts
  cases begins <;> first | exact hi _ _ rfl | cases hkind

/-- A capture is started with the filters of its node. -/
theorem Takes.startFilters (h : st.Takes (.startCapture node capture) st') :
    ∃ exchanges, st.Follows exchanges st' ∧ ∀ e ∈ exchanges,
      e.call = st.settings.exec node (st.settings.startCommand capture
        (Orchestrator.startFilters (st.session.stateOf node))) := by
  obtain ⟨exchanges, follows, calls⟩ := h.calls
  refine ⟨exchanges, follows, ?_⟩
  intro e he
  obtain ⟨q, between, begins, hcall⟩ := calls e he
  cases begins with
  | startCapture here =>
      rw [Session.stateOf_of_some _ _ here]
      generalize e.call = c at hcall
      cases hcall
      rfl

/-- Only changes of the filters of a node change them. -/
theorem Takes.selection (h : st.Takes i st') (hi : i.edit? = none) (node : String) :
    (st'.session.stateOf node).selection = (st.session.stateOf node).selection := by
  cases h with
  | stayed declined session follows =>
      rcases session with session | adjusts
      · rw [session]
      · generalize st'.session = after at adjusts
        cases adjusts with
        | select => rw [Session.stateOf_select]
        | edit edits => cases hi.symm.trans edits
  | carried begins leads session follows =>
      rw [session, Session.selection_fold, begins.selection]

/-- An intent that starts no capture. -/
theorem Stands.faithful (hst : st.Stands s [] (Faithful s o capture φ)) (takes : st.Takes i st')
    (hi : ∀ node name, i ≠ .startCapture node name)
    (hφ : ∀ later exchanges, φ later (st.session.stateOf o.node) →
      ψ (exchanges ++ later) (st'.session.stateOf o.node)) :
    st'.Stands s [] (Faithful s o capture ψ) := by
  obtain ⟨exchanges, follows, hnew⟩ := takes.unstarted hi
  rw [hst.settings] at hnew
  refine hst.follows follows ?_
  intro later hlater
  refine ⟨takes.podsAsListed follows hlater.listed, ?_, hφ later exchanges hlater.state⟩
  intro e he starts
  rcases List.mem_append.mp he with he | he
  · exact absurd starts (hnew e he)
  · exact (hlater.starts e he starts).append exchanges

/-- A change of the filters of the node. -/
theorem Stands.edited {f : Node → Node} (hst : st.Stands s [] (Faithful s o capture φ))
    (edited : st.Edited o.node f st') (here : st.session.hasNode o.node)
    (hψ : ∀ later n, φ later n → ψ later (f n)) : st'.Stands s [] (Faithful s o capture ψ) := by
  obtain ⟨later, hlater, hsince⟩ := hst.since
  refine ⟨edited.settings.trans hst.settings, edited.outstanding.trans hst.idle, later,
    edited.bench ▸ hlater, ?_⟩
  show Faithful s o capture ψ later st'.session
  rw [edited.session]
  refine ⟨hsince.listed, hsince.starts, ?_⟩
  obtain ⟨n, hn⟩ := (Session.hasNode_iff _ _).mp here
  have hstate := hsince.state
  rw [Session.stateOf_of_some _ _ hn] at hstate
  rw [Session.stateOf, Session.node?_updateNode, if_pos rfl, hn]
  exact hψ later n hstate

/-- A property of the node may be replaced by one that it implies. -/
theorem Stands.faithful_weaken (hst : st.Stands s [] (Faithful s o capture φ))
    (hφ : ∀ later, φ later (st.session.stateOf o.node) → ψ later (st.session.stateOf o.node)) :
    st.Stands s [] (Faithful s o capture ψ) :=
  hst.mono fun later h => ⟨h.listed, h.starts, hφ later h.state⟩

end Station

namespace Errand

variable {kubectl : Kubectl} {s : Settings} {o : RunOptions} {capture : String} {st : Station}
  {φ ψ : List Exchange → Node → Prop}

/-- A property of the exchanges, and of the status and the filters of a node,
    that more exchanges do not change. -/
def Steady (φ : List Exchange → Node → Prop) : Prop :=
  ∀ later exchanges n n', n'.status = n.status → n'.selection = n.selection → φ later n →
    φ (exchanges ++ later) n'

/-- A steady property stays so with one of the exchanges that lasts. -/
theorem Steady.and (h : Steady φ) {P : List Exchange → Prop}
    (hP : ∀ later exchanges, P later → P (exchanges ++ later)) :
    Steady fun later n => φ later n ∧ P later :=
  fun _ _ _ _ status selection hn => ⟨h _ _ _ _ status selection hn.1, hP _ _ hn.2⟩

/-- What a node selects is steady. -/
theorem steady_selects {interface : Option String} {endpoints : List String} {port : Option Int}
    {transports : TransportSet} :
    Steady fun _ n => n.Selects interface endpoints port transports :=
  fun _ _ _ _ status selection h => h.congr status selection

/-- A run may end here: what it started it started as previewed. -/
abbrev Ended (s : Settings) (o : RunOptions) (capture : String) : Station → Prop :=
  Station.Stands s [] (Faithful s o capture fun _ _ => True)

theorem may_end (hst : st.Stands s [] (Faithful s o capture φ)) : Ended s o capture st :=
  hst.faithful_weaken fun _ _ => trivial

/-- Asking for something aside keeps what is steady. -/
theorem after_steady {i : Intent} (steady : Steady φ)
    (hst : st.Stands s [] (Faithful s o capture φ)) (aside : i.isAside) (hi : i.edit? = none) :
    (carryOut kubectl i).After st (fun _ => Station.Stands s [] (Faithful s o capture φ))
      (Ended s o capture) := by
  refine after_carryOut hst.idle (fun _ => may_end hst) ?_
  intro st' takes
  refine hst.faithful takes (by rintro _ _ rfl; cases aside) ?_
  intro later exchanges
  exact steady _ _ _ _ (takes.alike aside o.node).status (takes.selection hi o.node)

/-- A pod that is found was listed. -/
theorem after_findPod (steady : Steady φ) (hst : st.Stands s [] (Faithful s o capture φ))
    (name pod : String) :
    (findPod kubectl name pod).After st
      (fun p => Station.Stands s [] (Faithful s o capture fun later n =>
        φ later n ∧ AddressOf later name pod p.address))
      (Ended s o capture) := by
  refine after_bind ((after_steady steady hst rfl rfl).mono ?_ fun _ h => h)
  intro _ st₁ h₁
  refine after_bind ((after_steady steady h₁ rfl rfl).mono ?_ fun _ h => h)
  intro _ st₂ h₂
  refine after_bind (after_session ?_)
  split
  · exact after_fail (may_end h₂)
  · next item here =>
      split
      · next p found =>
          refine after_pure (h₂.mono ?_)
          intro later hlater
          refine ⟨hlater.listed, hlater.starts, hlater.state, ?_⟩
          cases hpods : item.pods with
          | loaded pods =>
              rw [hpods] at found
              refine ⟨pods, p, (hlater.listed name pods).mpr ?_, found, rfl⟩
              rw [ReferenceData.podsOf, here]
              exact hpods
          | _ =>
              rw [hpods] at found
              cases found
      · exact after_fail (may_end h₂)

/-- A pod that may be asked for is found with its address, or not asked for. -/
theorem after_findPod? (steady : Steady φ) (hst : st.Stands s [] (Faithful s o capture φ))
    (name : String) (pod : Option String) :
    (findPod? kubectl name pod).After st
      (fun p => Station.Stands s [] (Faithful s o capture fun later n =>
        φ later n ∧ Option.Rel (AddressOf later name) pod (p.map Pod.address)))
      (Ended s o capture) := by
  cases pod with
  | none => exact after_pure (hst.faithful_weaken fun _ h => ⟨h, .none⟩)
  | some pod =>
      refine after_bind ((after_findPod steady hst name pod).mono ?_ fun _ h => h)
      intro p st' h
      exact after_pure (h.faithful_weaken fun _ h => ⟨h.1, .some h.2⟩)

/-- The filters of a ready node can be changed. -/
theorem after_edit {i : Intent} {f : Node → Node} {failed : Station → Prop}
    (edits : i.edit? = some (o.node, f)) (hst : st.Stands s [] (Faithful s o capture φ))
    (ready : ∀ later n, φ later n → n.Ready) (hψ : ∀ later n, φ later n → ψ later (f n)) :
    (carryOut kubectl i).After st
      (fun _ => Station.Stands s [] (Faithful s o capture ψ)) failed := by
  obtain ⟨later, -, hsince⟩ := hst.since
  have running : (st.session.stateOf o.node).status = .podRunning := ready _ _ hsince.state
  have here := Session.node?_eq_some_stateOf st.session o.node (by rw [running]; decide)
  have editable : st.Editable o.node := ⟨_, here, by rw [running]; rfl⟩
  obtain ⟨st', hrun, edited⟩ := Station.runIntent_edit kubectl edits editable
  refine after_bind (after_get ?_)
  rintro c rfl
  rw [hrun]
  exact after_set (hst.edited edited ((Session.hasNode_iff _ _).mpr ⟨_, here⟩) hψ)

/-- The endpoints are selected as a preview shows them. -/
theorem after_setScenario
    (hst : st.Stands s [] (Faithful s o capture fun _ n => n.Selects none [] none {})) :
    (setScenario kubectl o).After st
      (fun _ => Station.Stands s [] (Faithful s o capture (Located o none none {})))
      (Ended s o capture) := by
  rw [setScenario]
  -- one pod goes before a pair of pods, which goes before no scenario
  cases hpod : o.traffic.pod with
  | some pod =>
      refine after_bind ((after_findPod steady_selects hst o.node pod).mono ?_ fun _ h => h)
      intro p st₁ h₁
      refine after_edit rfl h₁ (fun _ _ h => h.1.ready) ?_
      rintro later n ⟨selects, address⟩
      exact ⟨_, .of_pod hpod address, selects.setScenario _⟩
  | none =>
      dsimp only
      split
      · next hnone =>
          rw [Bool.and_eq_true, Option.isNone_iff_eq_none, Option.isNone_iff_eq_none] at hnone
          refine after_pure (hst.faithful_weaken fun later selects => ?_)
          refine ⟨_, .of_pair hpod (addresses_none hnone.1) (addresses_none hnone.2), ?_⟩
          rw [TrafficOptions.previewScenario, hpod]
          exact selects
      · refine after_bind ((after_findPod? steady_selects hst _ _).mono ?_ fun _ h => h)
        intro source st₁ h₁
        have steady : Steady fun later n => n.Selects none [] none {}
            ∧ Option.Rel (AddressOf later (o.sourceNode.getD o.node)) o.traffic.source
              (source.map Pod.address) :=
          steady_selects.and fun _ exchanges h => addresses_append h exchanges
        refine after_bind ((after_findPod? steady h₁ _ _).mono ?_ fun _ h => h)
        intro dest st₂ h₂
        refine after_edit rfl h₂ (fun _ _ h => h.1.1.ready) ?_
        rintro later n ⟨⟨selects, hsource⟩, hdest⟩
        refine ⟨_, .of_pair hpod hsource hdest, ?_⟩
        rw [TrafficOptions.endpointParts_pair hpod]
        exact selects.setScenario _

/-- The protocol that may be asked for is the last change. -/
theorem after_setProtocol {transports : TransportSet} (derived : o.filterText = none)
    (hread : readTransports o.traffic.transports = .ok transports)
    (hst : st.Stands s [] (Faithful s o capture
      (Located o o.interface (chosenPort o.traffic.port) transports))) :
    After (do
        match ← expect .protocol (AppProtocol.lookup o.traffic.protocol) with
        | some p => carryOut kubectl (.setProtocol o.node (some p))
        | none => pure ()
        match o.filterText with
        | some text => carryOut kubectl (.setFilterText o.node (some text))
        | none => pure ())
      st (fun _ => Station.Stands s [] (Faithful s o capture (Previewed o)))
      (Ended s o capture) := by
  rw [derived]
  cases hlookup : AppProtocol.lookup o.traffic.protocol with
  | error e => exact after_bind (after_fail (may_end hst))
  | ok p =>
      refine after_bind (after_pure ?_)
      cases p with
      | none => exact after_pure (hst.faithful_weaken fun _ h => h.previewed hread hlookup)
      | some p =>
          have changed : ∀ later n,
              Located o o.interface (chosenPort o.traffic.port) transports later n →
              Previewed o later (n.setAppProtocol (some p)) := by
            rintro later n ⟨t, address, selects⟩
            exact Located.previewed_of_protocol hread hlookup ⟨t, address, selects.setAppProtocol p⟩
          exact after_bind ((after_edit rfl hst (fun _ _ h => h.ready) changed).mono
            (fun _ _ h => after_pure h) fun _ h => h)

/-- Setting the filters selects the traffic of a preview. -/
theorem after_setFilters (derived : o.filterText = none)
    (hst : st.Stands s [] (Faithful s o capture fun _ n => n.Selects none [] none {})) :
    (setFilters kubectl o).After st
      (fun _ => Station.Stands s [] (Faithful s o capture (Previewed o)))
      (Ended s o capture) := by
  refine after_bind ((after_setScenario hst).mono ?_ fun _ h => h)
  intro _ st₁ h₁
  cases hread : readTransports o.traffic.transports with
  | error e => exact after_bind (after_fail (may_end h₁))
  | ok transports =>
      refine after_bind (after_pure ?_)
      have untold : o.traffic.transports.isEmpty → {} = transports := by
        intro hempty
        rw [List.isEmpty_iff.mp hempty] at hread
        exact Except.ok.inj hread
      refine after_when ?_ ?_
      · intro _
        have changed : ∀ later n, Located o none none {} later n →
            Located o o.interface (chosenPort o.traffic.port) transports later
              (n.setSelection (n.selection.change
                { interface := o.interface.map some
                  port := (chosenPort o.traffic.port).map some
                  transports :=
                    if o.traffic.transports.isEmpty then none else some transports })) := by
          rintro later n ⟨t, address, selects⟩
          refine ⟨t, address, selects.change rfl ?_ ?_ ?_⟩
          · cases o.interface <;> rfl
          · cases chosenPort o.traffic.port <;> rfl
          · dsimp only
            split
            · next hempty => exact untold hempty
            · rfl
        exact (after_edit rfl h₁ (fun _ _ h => h.ready) changed).mono
          (fun _ _ h => after_setProtocol derived hread h) fun _ h => h
      · intro hnone
        -- nothing is asked for, so that nothing is what is selected
        simp only [Bool.or_eq_true, not_or, Option.isSome_map, Bool.not_eq_true,
          Option.isSome_eq_false_iff, Option.isNone_iff_eq_none] at hnone
        obtain ⟨⟨hinterface, hport⟩, htransports⟩ := hnone
        have hempty : o.traffic.transports.isEmpty = true := by
          by_contra hsome
          rw [if_neg hsome] at htransports
          cases htransports
        refine after_setProtocol derived hread ?_
        rw [hinterface, hport, ← untold hempty]
        exact h₁

/-- What starts no capture keeps captures as they were previewed. -/
theorem keeps_other {i : Intent} (hi : ∀ node name, i ≠ .startCapture node name) :
    (carryOut kubectl i).Keeps (Ended s o capture) :=
  fun _ hst => after_carryOut hst.idle (fun _ => hst)
    fun _ takes => hst.faithful takes hi fun _ _ _ => trivial

/-- Removing the debug pod starts no capture. -/
theorem removePod_keeps (name : String) :
    (removePod kubectl name).Keeps (Ended s o capture) := by
  refine keeps_bind keeps_node fun _ => keeps_when (keeps_other (by rintro _ _ ⟨⟩)) ?_
  refine keeps_bind keeps_node fun _ => keeps_when (keeps_other (by rintro _ _ ⟨⟩)) ?_
  refine keeps_bind keeps_node fun _ => keeps_when (keeps_other (by rintro _ _ ⟨⟩)) ?_
  exact keeps_other (by rintro _ _ ⟨⟩)

/-- The capture that is taken is started as previewed. -/
theorem after_capture {now : Moment} {wakes : Binary64 → Bool}
    (hst : st.Stands s [] (Faithful s o now.captureName (Previewed o))) :
    (Errand.capture kubectl now wakes o).After st
      (fun _ => Ended s o now.captureName) (Ended s o now.captureName) := by
  refine after_bind (after_node ?_)
  refine after_bind (after_say ?_)
  refine after_bind (after_carryOut hst.idle (fun _ => may_end hst) ?_)
  intro st₁ started
  have h₁ : Ended s o now.captureName st₁ := by
    obtain ⟨exchanges, follows, hstart⟩ := started.startFilters
    rw [hst.settings] at hstart
    refine hst.follows follows ?_
    intro later hlater
    refine ⟨started.podsAsListed follows hlater.listed, ?_, trivial⟩
    intro e he starts
    rcases List.mem_append.mp he with he | he
    · obtain ⟨t, text, address, hpreview, hfilters⟩ := hlater.state
      refine ⟨t, text, address.append exchanges, hpreview, ?_⟩
      rw [hstart e he, hfilters]
    · exact (hlater.starts e he starts).append exchanges
  -- whatever comes after the start, no other capture is started
  refine (?_ : Keeps _ _) st₁ h₁
  refine keeps_bind keeps_node fun n => keeps_when (keeps_fail _) ?_
  refine keeps_bind keeps_say fun _ => ?_
  refine keeps_bind keeps_wait fun _ => ?_
  refine keeps_bind (keeps_other (by rintro _ _ ⟨⟩)) fun _ => ?_
  refine keeps_bind keeps_node fun n => keeps_when (keeps_fail _) ?_
  refine keeps_bind (keeps_forM fun _ => keeps_say) fun _ => ?_
  refine keeps_bind keeps_get fun c => ?_
  refine keeps_bind (keeps_other (by rintro _ _ ⟨⟩)) fun _ => ?_
  refine keeps_bind keeps_node fun n => ?_
  split
  · exact keeps_say
  · exact keeps_fail _

/-- The run of a capture without a filter text of its own. -/
theorem runCapture_faithful (kubectl : Kubectl) (now : Moment) (wakes : Binary64 → Bool)
    {o : RunOptions} (derived : o.filterText = none)
    (hst : st.Stands s [] (Faithful s o now.captureName fun _ n => n.selection = {})) :
    (runCapture kubectl now wakes o).After st
      (fun _ => Ended s o now.captureName) (Ended s o now.captureName) := by
  have takes : ∀ {st st' : Station} {i : Intent}, (∀ node name, i ≠ .startCapture node name) →
      i.edit? = none →
      st.Stands s [] (Faithful s o now.captureName fun _ n => n.selection = {}) → st.Takes i st' →
      st'.Stands s [] (Faithful s o now.captureName fun _ n => n.selection = {}) := by
    intro st st' i hi hedit h takes
    exact h.faithful takes hi fun _ _ fresh => (takes.selection hedit o.node).trans fresh
  have prepared := @after_preparePod s o.node kubectl st _ _ _
    (Ended s o now.captureName) (Ended s o now.captureName) hst
    (takes (by rintro _ _ ⟨⟩) rfl) (takes (by rintro _ _ ⟨⟩) rfl)
    (fun h _ => takes (by rintro _ _ ⟨⟩) rfl h) (fun h => h) may_end (fun h _ => may_end h)
  refine after_bind (prepared.mono ?_ fun _ h => h)
  rintro _ st₁ ⟨h₁, ready⟩
  have h₁ : st₁.Stands s [] (Faithful s o now.captureName fun _ n => n.Selects none [] none {}) :=
    h₁.faithful_weaken fun _ fresh => .of_ready ready fresh
  refine after_bind ((after_steady steady_selects h₁ rfl rfl).mono ?_ fun _ h => h)
  intro _ st₂ h₂
  have captured : (setFilters kubectl o >>= fun _ => Errand.capture kubectl now wakes o).After st₂
      (fun _ => Ended s o now.captureName) (Ended s o now.captureName) :=
    after_bind ((after_setFilters derived h₂).mono (fun _ _ h => after_capture h) fun _ h => h)
  dsimp only
  split
  · exact captured
  · have removed : (say ("🧹 Removing debug pod from " ++ o.node ++ "...") >>= fun _ =>
        removePod kubectl o.node).Keeps (Ended s o now.captureName) :=
      keeps_bind keeps_say fun _ => removePod_keeps o.node
    exact after_withLast captured (fun _ => removed) removed fun _ h => h

end Errand

/-! ## The commands -/

/-- The environment does not change how tcpdump is called. -/
theorem Settings.tcpdumpBase_ofEnvironment {env : Environment} {s : Settings}
    (h : ofEnvironment env = .ok s) : s.tcpdumpBase = defaults.tcpdumpBase := by
  -- whichever variables there are, it is not one of them
  simp only [ofEnvironment, bind, Except.bind] at h
  repeat' split at h
  all_goals cases h <;> rfl

/-- A filter that is not empty is one more word. -/
theorem captureWords_nonEmpty (s : Settings) (capture : String) (interface : Option String)
    (text : String) :
    captureWords s capture interface (nonEmpty (some text))
      = captureWords s capture interface none ++ if text = "" then [] else [text.toList] := by
  by_cases hempty : text = ""
  · rw [if_pos hempty, List.append_nil, hempty]
    rfl
  · have hsame : nonEmpty (some text) = some text := if_neg (mt String.isEmpty_iff.mp hempty)
    rw [if_neg hempty, captureWords, captureWords, hsame, hsame]
    simp [nonEmpty]

/-- Whatever a run without a filter text of its own starts, it starts as
    previewed. -/
theorem Workplace.run_faithful (w : Workplace) (kubeconfig : Option String) {o : RunOptions}
    {s : Settings} (hs : Settings.ofEnvironment w.machine.env = .ok s)
    (derived : o.filterText = none) :
    ∃ session, Faithful s o w.now.captureName (fun _ _ => True)
      (w.run (.atCluster kubeconfig (.runCapture o))).exchanges session := by
  have nothing : ∀ (s : Settings) (cluster : String), Faithful s o w.now.captureName
      (fun _ n => n.selection = {}) [] (Session.create cluster []) :=
    fun s cluster => ⟨podsAsListed_create cluster [], fun e he => absurd he List.not_mem_nil, rfl⟩
  rcases w.runErrand_ends kubeconfig nothing
    (fun s kubectl st stands => Errand.runCapture_faithful kubectl w.now w.wakes derived
      stands) with
    ⟨-, -, hnothing⟩ | ⟨s', st, hs', hexchanges, ends⟩
  · obtain ⟨listed, starts, -⟩ := nothing s ""
    refine ⟨Session.create "" [], ?_⟩
    have hrun : (w.run (.atCluster kubeconfig (.runCapture o))).exchanges = [] := hnothing
    rw [hrun]
    exact ⟨listed, starts, trivial⟩
  · obtain rfl := Except.ok.inj (hs.symm.trans hs')
    obtain ⟨later, hlater, faithful⟩ :=
    (ends.elim And.right fun ends => ends.elim And.right And.right).since
    rw [List.append_nil] at hlater
    exact ⟨_, (hexchanges.trans hlater) ▸ faithful⟩

/-- A preview shows the filter of the capture that is started, whatever traffic
    is asked for: wherever the run of a capture without a filter text of its own
    starts one, each pod was listed with an address, and with these addresses in
    the place of the pods the preview prints a text that is the last word of the
    command, or is empty where there is no such word. -/
theorem preview_shows_started_filter (w : Workplace) (kubeconfig : Option String) (o : RunOptions)
    (s : Settings) (hs : Settings.ofEnvironment w.machine.env = .ok s)
    (derived : o.filterText = none) (e : Exchange)
    (made : e ∈ (w.run (.atCluster kubeconfig (.runCapture o))).exchanges)
    (starts : e.call.StartsCapture s) :
    let exchanges := (w.run (.atCluster kubeconfig (.runCapture o))).exchanges
    (∃ t, ByAddress exchanges o t ∧ t.Given)
      ∧ ∀ t, ByAddress exchanges o t → ∃ text line,
        w.run (.previewFilter t) = { ending := .succeeded, printed := [text] }
          ∧ e.call = s.exec o.node (line ++ " 1>/dev/null 2>&1 &")
          ∧ shellWords? line.toList = some (baseWords
              ++ (captureWords s w.now.captureName o.interface none
                ++ if text = "" then [] else [text.toList])) := by
  intro exchanges
  obtain ⟨session, faithful⟩ := w.run_faithful kubeconfig hs derived
  obtain ⟨t₀, text, address₀, hpreview, hcall⟩ := faithful.starts e made starts
  refine ⟨address₀.given, ?_⟩
  intro t address
  refine ⟨text, _, ?_, hcall, ?_⟩
  · exact (address.previewFilter_unique faithful.listed address₀).trans hpreview
  · have hbase : shellWords? s.tcpdumpBase.toList = some baseWords := by
      rw [Settings.tcpdumpBase_ofEnvironment hs]
      decide
    rw [shellWords?_tcpdumpCommand hbase, captureWords_nonEmpty]

/-- The options of a run for what a pod sends on a port. -/
def senderOptions : RunOptions :=
  { plainRun with
    traffic := { plainRun.traffic with pod := some "web", direction := .sent, port := some 80 } }

/-- A run with them, in which the pod is listed and kubectl then replies no
    more. -/
def senderRun : CommandReport :=
  (labWorkplace (applyingReplies
      ++ [.exited {}, .exited {}, .exited { stdout := "web\t10.0.0.1\t\n" }])).run
    (.atCluster none (.runCapture senderOptions))

/-- The capture in that run is started for the address of the pod. -/
theorem preview_shows_started_filter_of_sender :
    ∃ e ∈ senderRun.exchanges, ∃ line,
      e.call = Settings.exec {} "n" (line ++ " 1>/dev/null 2>&1 &")
        ∧ shellWords? line.toList = some (baseWords
            ++ (captureWords {} (labWorkplace []).now.captureName none none
              ++ ["port 80 and src 10.0.0.1".toList])) := by
  have made : (⟨Settings.exec {} "n" (Settings.startCommand {} (labWorkplace []).now.captureName
      ⟨none, some "port 80 and src 10.0.0.1"⟩), .transportError "no reply"⟩ : Exchange)
        ∈ senderRun.exchanges := by decide +kernel
  have listed : ListsPods senderRun.exchanges "n" [⟨"web", "10.0.0.1"⟩] :=
    ⟨{ stdout := "web\t10.0.0.1\t\n" }, rfl, by decide +kernel, by decide +kernel⟩
  have address : ByAddress senderRun.exchanges senderOptions
      { senderOptions.traffic with pod := some "10.0.0.1" } :=
    ⟨.some ⟨_, _, listed, rfl, rfl⟩, nofun, nofun, rfl, rfl, rfl, rfl, rfl⟩
  obtain ⟨text, line, hpreview, hcall, hwords⟩ := (preview_shows_started_filter (labWorkplace _)
    none senderOptions {} rfl rfl _ made ⟨_, _, _, rfl⟩).2 _ address
  have printed : (Workplace.previewFilter { senderOptions.traffic with
      pod := some "10.0.0.1" }).printed = ["port 80 and src 10.0.0.1"] := by decide +kernel
  obtain rfl := (List.cons.inj (printed.symm.trans (congrArg CommandReport.printed hpreview))).1
  exact ⟨_, made, line, hcall, hwords⟩

end NodeCapture
