import NodeCapture.Proofs.Folding
import NodeCapture.Proofs.Intents
import NodeCapture.Station

/-! # Edits

    A change of filters is made at once, where the status of the node allows
    it, and changes nothing but the state of that node.  It may then be
    followed by another one (`Station.perform_edit`). -/

namespace NodeCapture

/-- A node is changed at a station, and nothing else is done. -/
structure Station.Edited (st : Station) (node : String) (f : Node → Node) (st' : Station) :
    Prop where
  session : st'.session = st.session.updateNode node f
  outstanding : st'.orchestrator.outstanding = st.orchestrator.outstanding
  submitted : st'.orchestrator.submitted = st.orchestrator.submitted
  settings : st'.settings = st.settings
  bench : st'.bench = st.bench

/-- The filters of a node can be changed. -/
def Station.Editable (st : Station) (node : String) : Prop :=
  ∃ n, st.node? node = some n ∧ n.status.isEditable

namespace Station

variable {st st' : Station} {i : Intent}

/-- A change of filters is made where the status of the node allows it, which
    it then still does. -/
theorem perform_edit {node : String} {f : Node → Node} (edits : i.edit? = some (node, f)) :
    (st.Editable node ∧ ∃ st', st.perform i = .ok (st', .done) ∧ st.Edited node f st'
        ∧ st'.Editable node)
      ∨ (¬ st.Editable node ∧ st.perform i = .ok (st, .refused)) := by
  rw [perform, Orchestrator.perform_eq_edit edits]
  cases hn : st.orchestrator.nodeIn? node NodeStatus.isEditable with
  | some n =>
      obtain ⟨here, fits⟩ := Orchestrator.nodeIn?_eq_some.mp hn
      rw [Orchestrator.edit_of_editable here fits]
      refine Or.inl ⟨⟨n, here, fits⟩, _, rfl, ⟨rfl, rfl, rfl, rfl, rfl⟩, f n, ?_, ?_⟩
      · show (st.orchestrator.session.updateNode node f).node? node = _
        rw [Session.node?_updateNode, if_pos rfl, here]
        rfl
      · obtain ⟨selection, hf⟩ := Intent.edit?_selection edits n
        rw [hf]
        exact fits
  | none =>
      refine Or.inr ⟨?_, ?_⟩
      · rintro ⟨n, here, fits⟩
        exact nomatch hn.symm.trans (Orchestrator.nodeIn?_eq_some.mpr ⟨here, fits⟩)
      · rw [Orchestrator.edit, hn]
        rfl

/-- An accepted change is all that becomes of its intent. -/
theorem runIntent_edit (kubectl : Kubectl) {node : String} {f : Node → Node}
    (edits : i.edit? = some (node, f)) (editable : st.Editable node) :
    ∃ st', st.runIntent kubectl i = .ok (st', none) ∧ st.Edited node f st' := by
  rcases @perform_edit st i node f edits with ⟨-, st', hdone, edited, -⟩ | ⟨locked, -⟩
  · refine ⟨st', ?_, edited⟩
    rw [runIntent, hdone]
    rfl
  · exact absurd editable locked

/-- One change after another is one change. -/
theorem Edited.trans {node : String} {f g : Node → Node} {st'' : Station}
    (h : st.Edited node f st') (h' : st'.Edited node g st'') :
    st.Edited node (fun n => g (f n)) st'' where
  session := by rw [h'.session, h.session, Session.updateNode_updateNode]
  outstanding := h'.outstanding.trans h.outstanding
  submitted := h'.submitted.trans h.submitted
  settings := h'.settings.trans h.settings
  bench := h'.bench.trans h.bench

end Station

end NodeCapture
