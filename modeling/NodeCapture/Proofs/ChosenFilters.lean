import NodeCapture.Proofs.Events

/-! # Chosen filters

    The filter text of a selection is one field with several meanings: it was
    derived from the selection, or entered by a user, or, before anything was
    changed and after an entered text was cleared, it is yet to be derived.
    `Selection.Holds` relates the field to the last change of the filters that
    was accepted; it holds throughout every run, so that a capture starts with
    what was chosen last.

    A run here is a sequence of turns: intents, responses and payloads that
    nobody need have asked for, and ends of operations with any response. -/

namespace NodeCapture

/-- What may happen next in a run: an event, or the end of an operation. -/
inductive Turn where
  | event (e : Event)
  | ended (operation : Nat) (r : Response)

/-- The node whose filters a turn asks to change. -/
def Turn.edited? : Turn → Option String
  | event (.intent i) => i.edit?.map Prod.fst
  | _ => none

/-- The filter text that an intent enters, if it enters one. -/
def Intent.entered? : Intent → Option String
  | setFilterText _ text => nonEmpty text
  | _ => none

namespace Orchestrator

/-- What becomes of an orchestrator in a turn. -/
def turn (o : Orchestrator) : Turn → Orchestrator
  | .event e => o.handle e
  | .ended operation r => o.complete operation r

/-- What becomes of an orchestrator in some turns. -/
def after (o : Orchestrator) (turns : List Turn) : Orchestrator := turns.foldl turn o

/-- The intent by which a turn changes the filters of a node, where it is
    accepted. -/
def acceptedEdit? (o : Orchestrator) (node : String) : Turn → Option Intent
  | .event (.intent i) =>
      match i.edit?, o.perform i with
      | some (name, _), .ok (_, .done) => if name = node then some i else none
      | _, _ => none
  | _ => none

/-- The last change of the filters of a node that was accepted in some turns or,
    where none was, the one before them. -/
def lastEdit (node : String) : Orchestrator → Option Intent → List Turn → Option Intent
  | _, last, [] => last
  | o, last, t :: turns => lastEdit node (o.turn t) ((o.acceptedEdit? node t).or last) turns

end Orchestrator

namespace Selection

/-- The filters that a capture should start with: the interface, and the text
    that was entered or else is derived, if it says anything. -/
def chosen (sel : Selection) (entered : Option String) : CaptureFilters where
  interface := sel.interface
  filterText := entered.or (nonEmpty (some (derivedFilter sel)))

/-- The filter text of a selection is the one that was entered; where none was,
    it is the derived one, or there is none yet. -/
inductive Holds (sel : Selection) : Option String → Prop where
  | entered {text : String} (field : sel.filterText = some text)
      (sound : nonEmpty (some text) = some text) : Holds sel (some text)
  | derived (field : sel.filterText = some (derivedFilter sel)) : Holds sel none
  | unset (field : sel.filterText = none) : Holds sel none

end Selection

/-- What is left of a text is not empty. -/
theorem nonEmpty_of_nonEmpty {text : Option String} {s : String} (h : nonEmpty text = some s) :
    nonEmpty (some s) = some s := by
  cases text with
  | none => cases h
  | some t =>
      have hsame : t = s := by
        rw [nonEmpty] at h
        split at h
        · cases h
        · exact Option.some.inj h
      subst hsame
      exact h

/-- A capture starts with the chosen filters. -/
theorem Selection.Holds.startFilters {n : Node} {entered : Option String}
    (h : n.selection.Holds entered) :
    Orchestrator.startFilters n = n.selection.chosen entered := by
  rw [Orchestrator.startFilters, Selection.chosen]
  cases h with
  | entered field sound =>
      rw [field, Option.getD_some, sound]
      rfl
  | derived field =>
      rw [field]
      rfl
  | unset field =>
      rw [field]
      rfl

/-- A change of the filters leaves the text that it enters, or the derived
    one. -/
theorem Intent.edit?_holds {i : Intent} {node : String} {f : Node → Node}
    (h : i.edit? = some (node, f)) (n : Node) : (f n).selection.Holds i.entered? := by
  cases i <;> simp only [Intent.edit?, Option.some.injEq, Prod.mk.injEq, reduceCtorEq] at h
  case setFilterText name text =>
    obtain ⟨-, rfl⟩ := h
    show Selection.Holds { n.selection with filterText := nonEmpty text } (nonEmpty text)
    cases htext : nonEmpty text with
    | none => exact .unset rfl
    | some entered => exact .entered rfl (nonEmpty_of_nonEmpty htext)
  all_goals
    obtain ⟨-, rfl⟩ := h
    exact .derived rfl

/-! ## What leaves a selection alone -/

/-- Marking a request leaves the choices of a node as they are. -/
theorem Request.mark_selection (r : Request) (n : Node) : (r.mark n).selection = n.selection := by
  cases r <;> rfl

/-- So does settling a response. -/
theorem Response.update_selection (r : Response) (n : Node) :
    (r.update n).selection = n.selection := by
  cases r with
  | nodeChecked o node podRunning running completed =>
      simp only [update, Node.settleCheck]
      split <;> rfl
  | podCreated o node =>
      simp only [update, Node.settleCreation]
      split <;> rfl
  | podDeleted o node =>
      simp only [update, Node.settleDeletion]
      split <;> rfl
  | captureStarted o node =>
      simp only [update, Node.settleStart]
      split <;> rfl
  | captureStopped o node capture =>
      simp only [update, Node.settleStop]
      split
      · split
        · split <;> rfl
        · rfl
      · rfl
  | downloaded o node capture path =>
      simp only [update, Node.settleDownload]
      split <;> rfl
  | interfacesListed o node names =>
      simp only [update, Node.settleInterfaces]
      split <;> rfl
  | nodesListed => rfl
  | podsListed o node pods =>
      simp only [update]
      split <;> rfl

/-- A response leaves the choices of its node as they are, awaited or not. -/
theorem Response.effect_selection (r : Response) (node : String) (n : Node) :
    (r.effect node n).selection = n.selection := by
  rw [effect]
  rcases Node.awaiting_cases r.kind node r.update n with
    ⟨hsame, -⟩ | ⟨awaited, text, -, -, herror⟩
  · rw [hsame, update_selection]
  · rw [herror]
    rfl

/-- So does a response that cannot be read. -/
theorem OperationKind.failureEffect_selection (kind : OperationKind) (capture : Option String)
    (error : String) (n : Node) : (kind.failureEffect capture error n).selection = n.selection := by
  have waited : ∀ awaited : NodeStatus,
      (if n.status = awaited then n.fail error else n.withError error).selection
        = n.selection := by
    intro awaited
    split <;> rfl
  cases kind <;> first | rfl | exact waited _

namespace Session

variable {s s' : Session} {node : String}

/-- Folding a response leaves the choices of every node as they are. -/
theorem selection_fold (s : Session) (r : Response) (node : String) :
    ((s.fold r).stateOf node).selection = (s.stateOf node).selection := by
  rcases node?_fold_cases s r node with hsame | ⟨-, n, hn, hset⟩ | ⟨-, hnone, hnew⟩
  · rw [stateOf, hsame, stateOf]
  · rw [stateOf_of_some _ _ hset, stateOf_of_some _ _ hn, Response.effect_selection]
  · rw [stateOf_of_some _ _ hnew, stateOf_of_none _ _ hnone]

/-- So does folding the content of a response. -/
theorem selection_foldRaw (s : Session) (name : String) (content : Json) (node : String) :
    ((s.foldRaw name content).stateOf node).selection = (s.stateOf node).selection := by
  rcases foldRaw_cases s name content with ⟨-, hunknown⟩ | ⟨kind, -, ⟨r, -, hread⟩ | hinvalid⟩
  · rw [hunknown]
    rfl
  · rw [hread, selection_fold]
  · rw [hinvalid]
    rcases node?_recordInvalid_cases s kind (payloadText? "node" content)
      (payloadText? "capture_name" content) (invalidText name) node with
      hsame | ⟨-, -, n, hn, hset⟩
    · rw [stateOf, hsame, stateOf]
    · rw [stateOf_of_some _ _ hset, stateOf_of_some _ _ hn,
        OperationKind.failureEffect_selection]

/-- Beginning a request leaves the choices of every node as they are. -/
theorem Begins.selection {i : Intent} {r : Request} (h : s.Begins i r s') (node : String) :
    (s'.stateOf node).selection = (s.stateOf node).selection := by
  rcases h.node?_cases node with ⟨hsame, -⟩ | ⟨-, -, hset⟩
  · rw [stateOf, hsame, stateOf]
  · rw [stateOf_of_some _ _ hset, Request.mark_selection]

/-- Which node is shown changes the state of none. -/
theorem stateOf_select (s : Session) (chosen : Option String) (node : String) :
    (s.select chosen).stateOf node = s.stateOf node := by
  cases chosen with
  | none => rfl
  | some name =>
      rw [stateOf, node?_select_some, stateOf]
      cases s.node? node with
      | some n => rfl
      | none => split <;> rfl

end Session

/-! ## Turns -/

namespace Orchestrator

variable {o : Orchestrator} {node : String}

/-- A turn changes the filters of a node by an accepted intent that asks for
    it, and else leaves them alone. -/
theorem turn_selection (o : Orchestrator) (node : String) (t : Turn) :
    (o.acceptedEdit? node t = none
        ∧ ((o.turn t).session.stateOf node).selection = (o.session.stateOf node).selection)
      ∨ ∃ i f, t = .event (.intent i) ∧ o.acceptedEdit? node t = some i
        ∧ i.edit? = some (node, f)
        ∧ ((o.turn t).session.stateOf node).selection
            = (f (o.session.stateOf node)).selection := by
  cases t with
  | ended operation r => exact Or.inl ⟨rfl, o.session.selection_fold r node⟩
  | event e =>
      cases e with
      | response r => exact Or.inl ⟨rfl, o.session.selection_fold r node⟩
      | payload name content => exact Or.inl ⟨rfl, o.session.selection_foldRaw name content node⟩
      | intent i =>
          simp only [turn, handle, acceptedEdit?]
          cases hp : o.perform i with
          | error e =>
              refine Or.inl ⟨?_, rfl⟩
              cases i.edit? <;> rfl
          | ok result =>
              obtain ⟨o', a⟩ := result
              dsimp only
              -- only an edit that is done changes filters, and those of its own node only
              cases performs_of_perform hp with
              | refused session =>
                  refine Or.inl ⟨?_, by rw [session]⟩
                  cases i.edit? <;> rfl
              | begun begins =>
                  refine Or.inl ⟨?_, begins.selection node⟩
                  cases i.edit? <;> rfl
              | done adjusts =>
                  generalize o'.session = after at adjusts
                  cases adjusts with
                  | select =>
                      refine Or.inl ⟨rfl, ?_⟩
                      rw [Session.stateOf_select]
                  | edit edits here fits =>
                      rename_i name f n
                      by_cases hname : name = node
                      · subst hname
                        refine Or.inr ⟨i, f, rfl, ?_, edits, ?_⟩
                        · rw [edits]
                          exact if_pos rfl
                        · rw [Session.stateOf, Session.node?_updateNode, if_pos rfl,
                            Session.stateOf, here]
                          rfl
                      · refine Or.inl ⟨?_, ?_⟩
                        · rw [edits]
                          exact if_neg hname
                        · rw [Session.stateOf, Session.node?_updateNode,
                            if_neg (Ne.symm hname), Session.stateOf]

/-- A run keeps the filter text of a node to the last change. -/
theorem after_holds (node : String) (turns : List Turn) {o : Orchestrator} {last : Option Intent}
    (h : (o.session.stateOf node).selection.Holds (last.bind Intent.entered?)) :
    ((o.after turns).session.stateOf node).selection.Holds
      ((lastEdit node o last turns).bind Intent.entered?) := by
  -- by induction on the turns, from any last change on
  induction turns generalizing o last with
  | nil => exact h
  | cons t turns ih =>
      refine ih (o := o.turn t) ?_
      rcases o.turn_selection node t with ⟨hnone, hsame⟩ | ⟨i, f, -, hsome, edits, hset⟩
      · rw [hnone, Option.none_or, hsame]
        exact h
      · rw [hsome, Option.some_or, hset]
        exact Intent.edit?_holds edits _

/-! ## While a capture runs -/

/-- The filters of a node with a capture cannot be changed. -/
theorem edit_refused {i : Intent} {f : Node → Node} (edits : i.edit? = some (node, f))
    (capturing : (o.session.stateOf node).status.hasCapture) :
    o.perform i = .ok (o, .refused) := by
  have hnone : o.nodeIn? node NodeStatus.isEditable = none := by
    refine Option.eq_none_iff_forall_ne_some.mpr ?_
    intro n hn
    obtain ⟨here, editable⟩ := nodeIn?_eq_some.mp hn
    rw [Session.stateOf_of_some _ _ here] at capturing
    rw [NodeStatus.isEditable, capturing] at editable
    cases editable
  have hrefused : ∀ g : Node → Node, o.edit node g = (o, .refused) := by
    intro g
    rw [edit, hnone]
  cases i <;> simp only [Intent.edit?, Option.some.injEq, Prod.mk.injEq, reduceCtorEq] at edits
  all_goals
    obtain ⟨rfl, -⟩ := edits
    exact congrArg Except.ok (hrefused _)

/-- A node has a capture throughout some turns. -/
def Capturing (o : Orchestrator) (node : String) (turns : List Turn) : Prop :=
  ∀ earlier, earlier <+: turns → ((o.after earlier).session.stateOf node).status.hasCapture

/-- As long as a node has a capture its filters stay. -/
theorem Capturing.selection {turns : List Turn} (h : o.Capturing node turns) :
    ((o.after turns).session.stateOf node).selection = (o.session.stateOf node).selection := by
  induction turns generalizing o with
  | nil => rfl
  | cons t turns ih =>
      have hcapture : (o.session.stateOf node).status.hasCapture := h [] List.nil_prefix
      have hrest := ih (o := o.turn t)
        (fun earlier hearlier => h (t :: earlier) ((List.prefix_cons_inj t).mpr hearlier))
      refine hrest.trans ?_
      rcases o.turn_selection node t with ⟨-, hsame⟩ | ⟨i, f, rfl, haccepted, edits, -⟩
      · exact hsame
      · -- a change would have to be accepted
        rw [acceptedEdit?, edits, edit_refused edits hcapture] at haccepted
        cases haccepted

/-- An operation starts a capture with some filters, which cannot be changed any
    more until the node leaves the statuses of a capture. -/
structure StartsWith (o o' : Orchestrator) (operation : Nat) (node capture : String)
    (filters : CaptureFilters) : Prop where
  request : o'.outstanding = o.outstanding ++ [(operation, .startCapture node capture filters)]
  starting : (o'.session.stateOf node).status = .captureStarting
  kept : ∀ turns, o'.Capturing node turns →
    ((o'.after turns).session.stateOf node).selection = (o.session.stateOf node).selection
  locked : ∀ turns, o'.Capturing node turns → ∀ i, i.edit?.map Prod.fst = some node →
    (o'.after turns).perform i = .ok (o'.after turns, .refused)

/-- A start that is accepted takes the filters of its node. -/
theorem startsWith_of_perform {capture : String} {o' : Orchestrator} {operation : Nat}
    (accepted : o.perform (.startCapture node capture) = .ok (o', .begun operation)) :
    o.StartsWith o' operation node capture (startFilters (o.session.stateOf node)) := by
  cases performs_of_perform accepted with
  | begun begins outstanding =>
      have hselection := begins.selection node
      refine ⟨?_, ?_, fun turns h => h.selection.trans hselection, ?_⟩
      · generalize o'.session = after at begins
        cases begins with
        | startCapture here fits named =>
            rw [outstanding, Session.stateOf_of_some _ _ here]
      · rcases begins.node?_cases node with ⟨-, other⟩ | ⟨-, -, hset⟩
        · generalize o'.session = after at begins
          cases begins
          cases other rfl
        · rw [Session.stateOf_of_some _ _ hset]
          generalize o'.session = after at begins
          cases begins
          rfl
      · intro turns h i hi
        obtain ⟨⟨name, f⟩, edits, rfl⟩ := Option.map_eq_some_iff.mp hi
        exact edit_refused edits (h turns List.prefix_rfl)

end Orchestrator

/-- In every run, whatever is asked for and whatever responses come in, a
    capture starts with the interface that is selected and the filter text that
    was chosen last; nothing but an accepted change of the filters of a node
    changes them, and none is accepted while the node has a capture. -/
theorem captures_start_as_chosen (cluster : String) (initialNodes : List String)
    (turns : List Turn) (node : String) :
    let start := Orchestrator.create cluster initialNodes
    let o := start.after turns
    (∀ capture o' operation, o.perform (.startCapture node capture) = .ok (o', .begun operation) →
        o.StartsWith o' operation node capture
          ((o.session.stateOf node).selection.chosen
            ((Orchestrator.lastEdit node start none turns).bind Intent.entered?)))
      ∧ ∀ t : Turn, t.edited? ≠ some node →
        ((o.turn t).session.stateOf node).selection = (o.session.stateOf node).selection := by
  intro start o
  constructor
  · intro capture o' operation accepted
    have holds := @Orchestrator.after_holds node turns start none (.unset rfl)
    rw [← holds.startFilters]
    exact Orchestrator.startsWith_of_perform accepted
  · intro t ht
    rcases o.turn_selection node t with ⟨-, hsame⟩ | ⟨i, f, rfl, -, edits, -⟩
    · exact hsame
    · refine absurd ?_ ht
      rw [Turn.edited?, edits]
      rfl

/-- A node turns out to have a debug pod, and its filters are changed three
    times. -/
def threeChanges : List Turn :=
  [.event (.intent (.checkNode "n")), .ended 0 (.nodeChecked .success "n" true none []),
    .event (.intent (.setFilterText "n" (some "icmp"))),
    .event (.intent (.setProtocol "n" (some .ssh))),
    .event (.intent (.setFilters "n" { interface := some (some "eth0") }))]

/-- The entered text is gone with the next change, and a text that is entered
    afterwards is used. -/
theorem captures_start_as_chosen_after_changes :
    (∃ o', ((Orchestrator.create "lab" ["n"]).after threeChanges).StartsWith o' 1 "n" "web"
        ⟨some "eth0", some "tcp port 22"⟩)
      ∧ ∃ o', ((Orchestrator.create "lab" ["n"]).after
          (threeChanges ++ [.event (.intent (.setFilterText "n" (some "udp")))])).StartsWith o' 1
            "n" "web" ⟨some "eth0", some "udp"⟩ := by
  have started : ∀ (turns : List Turn) (filters : CaptureFilters),
      ((((Orchestrator.create "lab" ["n"]).after turns).session.stateOf "n").selection.chosen
        ((Orchestrator.lastEdit "n" (.create "lab" ["n"]) none turns).bind Intent.entered?))
          = filters →
      ∀ o', ((Orchestrator.create "lab" ["n"]).after turns).perform (.startCapture "n" "web")
          = .ok (o', .begun 1) →
        ((Orchestrator.create "lab" ["n"]).after turns).StartsWith o' 1 "n" "web" filters := by
    rintro turns _ rfl o' accepted
    exact (captures_start_as_chosen "lab" ["n"] turns "n").1 "web" o' 1 accepted
  exact ⟨⟨_, started threeChanges _ (by decide +kernel) _ rfl⟩,
    ⟨_, started (threeChanges ++ _) _ (by decide +kernel) _ rfl⟩⟩

end NodeCapture
