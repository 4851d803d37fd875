import Mathlib.Data.List.Forall2
import NodeCapture.Proofs.CheckedObjects

/-! # Folding objects that were not checked

    Whatever the attributes of a response object hold, and whichever of them
    are absent, folding it yields a session, with one exception: an array or an
    object in the place of the node is found in no table, neither in reading
    nor in recording the fault of it.

    An object that cannot be read leaves everything as it was but the state of
    the node that it names, the cell of the reference data that it would have
    filled, and the error of the session (`LooseSession.DiffersAtMost`). -/

namespace NodeCapture

namespace ResponseObject

/-- A response to an operation on a node holds an array or an object in the
    place of the node.  Lists of nodes name no node, and lists of pods are
    dropped where their node is not listed. -/
def HasUnusableNode (r : ResponseObject) : Prop :=
  ∃ kind value, r.kind = some kind ∧ kind ≠ .listNodes ∧ kind ≠ .listPods
    ∧ r.field? "node" = some value ∧ value.key? = none

/-- The key of the node that a response object addresses. -/
def addressed? (r : ResponseObject) : Option Key :=
  match r.kind with
  | none | some .listNodes => none
  | some _ => (r.field? "node").bind Json.key?

end ResponseObject

/-- A session differs from another one at most in what a response object
    concerns: the state of its node, the cell that it fills, and the error. -/
structure LooseSession.DiffersAtMost (s s' : LooseSession) (r : ResponseObject) : Prop where
  cluster : s'.cluster = s.cluster
  initialNodes : s'.initialNodes = s.initialNodes
  selected : s'.selected = s.selected
  states : List.Forall₂ (fun old new => new.1 = old.1
      ∧ (new.2 = old.2 ∨ ∃ key, r.addressed? = some key ∧ old.1.key? = some key)) s.nodes s'.nodes
  cell : s'.listed = s.listed ∨ r.kind = some .listNodes
      ∨ (r.kind = some .listPods ∧ ∃ node pods, r.field? "node" = some node
          ∧ s'.listed = (s.setPods node pods).listed)

/-- Changing an entry leaves the others. -/
theorem modifyEntry_forall₂ {P : Json × LooseNode → Prop} (key : Key) (f : LooseNode → LooseNode)
    (entries : List (Json × LooseNode)) (h : ∀ entry : Json × LooseNode,
      entry.1.key? = some key → P entry) :
    List.Forall₂ (fun old new => new.1 = old.1 ∧ (new.2 = old.2 ∨ P old)) entries
      (modifyEntry key f entries) := by
  induction entries with
  | nil => exact .nil
  | cons entry rest ih =>
      rw [modifyEntry]
      split
      · next hkey =>
          refine .cons ⟨rfl, Or.inr (h entry hkey)⟩ (List.forall₂_same.mpr ?_)
          intro other _
          exact ⟨rfl, Or.inl rfl⟩
      · exact .cons ⟨rfl, Or.inl rfl⟩ ih

namespace LooseSession

variable {s s' : LooseSession} {r : ResponseObject} {kind : OperationKind} {error : Json}

/-- A session differs from itself in nothing. -/
theorem differsAtMost_refl : s.DiffersAtMost s r where
  cluster := rfl
  initialNodes := rfl
  selected := rfl
  states := List.forall₂_same.mpr fun _ _ => ⟨rfl, Or.inl rfl⟩
  cell := Or.inl rfl

/-- The session error is all that may change where no node is addressed. -/
theorem differsAtMost_withError : s.DiffersAtMost { s with error := error } r where
  cluster := rfl
  initialNodes := rfl
  selected := rfl
  states := List.forall₂_same.mpr fun _ _ => ⟨rfl, Or.inl rfl⟩
  cell := Or.inl rfl

/-- Failing to list nodes is about the node list. -/
theorem differsAtMost_failNodes (hkind : r.kind = some .listNodes) :
    s.DiffersAtMost (s.failNodes error) r where
  cluster := rfl
  initialNodes := rfl
  selected := rfl
  states := List.forall₂_same.mpr fun _ _ => ⟨rfl, Or.inl rfl⟩
  cell := Or.inr (Or.inl hkind)

/-- Changing the addressed node is about this node. -/
theorem differsAtMost_updateNode {key : Key} {f : LooseNode → LooseNode}
    (hkey : r.addressed? = some key) : s.DiffersAtMost (s.updateNode key f) r where
  cluster := rfl
  initialNodes := rfl
  selected := rfl
  states := modifyEntry_forall₂ key f s.nodes fun _ hentry => ⟨key, hkey, hentry⟩
  cell := Or.inl rfl

/-- Setting the pods on the addressed node is about this node. -/
theorem differsAtMost_setPods {node : Json} {pods : Cell (List Pod)}
    (hkind : r.kind = some .listPods) (hnode : r.field? "node" = some node) :
    s.DiffersAtMost (s.setPods node pods) r where
  cluster := rfl
  initialNodes := rfl
  selected := rfl
  states := List.forall₂_same.mpr fun _ _ => ⟨rfl, Or.inl rfl⟩
  cell := Or.inr (Or.inr ⟨hkind, node, pods, hnode, rfl⟩)

/-- Failing to list them is about this node. -/
theorem differsAtMost_failPods {node : Json} {key : Key} (hkind : r.kind = some .listPods)
    (hnode : r.field? "node" = some node) (hkey : node.key? = some key) :
    s.DiffersAtMost (s.failPods node key error) r where
  cluster := rfl
  initialNodes := rfl
  selected := rfl
  states := by
    refine modifyEntry_forall₂ key _ s.nodes fun _ hentry => ⟨key, ?_, hentry⟩
    rw [ResponseObject.addressed?, hkind, hnode]
    exact hkey
  cell := Or.inr (Or.inr ⟨hkind, node, .notLoaded, hnode, rfl⟩)

/-- A response addresses the node that its attribute names. -/
theorem addressed?_eq_some {node : Json} {key : Key} (hkind : r.kind = some kind)
    (hnodes : kind ≠ .listNodes) (hnode : r.field? "node" = some node)
    (hkey : node.key? = some key) : r.addressed? = some key := by
  rw [ResponseObject.addressed?, hkind, hnode]
  cases kind <;> first | exact hkey | exact absurd rfl hnodes

/-! ## Recording a fault -/

/-- A fault is recorded for lists of nodes, and wherever the node is a key. -/
theorem recordFault_eq_ok_iff {node : Json} :
    (∃ s', s.recordFault kind node error = .ok s') ↔ kind = .listNodes ∨ node.key? ≠ none := by
  rw [recordFault]
  by_cases hkind : kind = .listNodes
  · rw [if_pos hkind]
    exact iff_of_true ⟨_, rfl⟩ (Or.inl hkind)
  · rw [if_neg hkind]
    split
    · next hkey => exact iff_of_false (fun ⟨_, h⟩ => (nomatch h)) (by simp [hkind, hkey])
    · next hkey => exact iff_of_true ⟨_, rfl⟩ (Or.inr (by simp [hkey]))
    · next key _ hkey =>
        refine iff_of_true ?_ (Or.inr (by simp [hkey]))
        split
        · split <;> exact ⟨_, rfl⟩
        · exact ⟨_, rfl⟩

/-- What recording a fault changes. -/
theorem recordFault_differsAtMost (hkind : r.kind = some kind)
    (h : s.recordFault kind ((r.field? "node").getD .null) error = .ok s') :
    s.DiffersAtMost s' r := by
  rw [recordFault] at h
  by_cases hnodes : kind = .listNodes
  · rw [if_pos hnodes] at h
    cases h
    exact differsAtMost_failNodes (hnodes ▸ hkind)
  · rw [if_neg hnodes] at h
    cases hnode : r.field? "node" with
    | none =>
        rw [hnode] at h
        cases h
        exact differsAtMost_withError
    | some node =>
        rw [hnode, Option.getD_some] at h
        split at h
        · cases h
        · cases h
          exact differsAtMost_withError
        · next key _ hkey =>
            split at h
            · split at h
              · next hpods =>
                  cases h
                  exact differsAtMost_failPods (hpods ▸ hkind) hnode hkey
              · cases h
                exact differsAtMost_updateNode (addressed?_eq_some hkind hnodes hnode hkey)
            · cases h
              exact differsAtMost_withError

end LooseSession

/-! ## Reading and recording together -/

namespace ResponseObject

variable {s : LooseSession} {r : ResponseObject} {kind : OperationKind} {fault : FieldFault}

/-- Two attributes are read one after the other. -/
theorem bind_eq_ok {α β : Type} {x : FieldRead α} {f : α → FieldRead β} {b : β}
    (h : (x >>= f) = .ok b) : ∃ a, x = .ok a ∧ f a = .ok b := by
  cases x with
  | ok a => exact ⟨a, rfl, h⟩
  | error fault => cases h

/-- An attribute is read if it is there. -/
theorem field_eq_ok_iff {name : String} {value : Json} :
    r.field kind name = .ok value ↔ r.field? name = some value := by
  rw [field]
  cases r.field? name <;> simp

/-- A pod list is read only where its node is listed, and then that is a key. -/
theorem key?_of_applyPods_error (h : r.applyPods kind s = .error fault) {node : Json}
    (hnode : r.field? "node" = some node) : node.key? ≠ none := by
  intro hkey
  have hlists : s.lists node = false := by
    rw [LooseSession.lists, List.any_eq_false]
    intro item _
    simp [Json.equalsKey, hkey]
  rw [applyPods, field_eq_ok_iff.mpr hnode] at h
  change (if s.lists node then _ else _) = _ at h
  rw [hlists] at h
  cases h

/-- An array or an object in the place of the node is a fault. -/
theorem applyNode_of_unusable {node : Json} (hnode : r.field? "node" = some node)
    (hkey : node.key? = none) : r.applyNode kind s = .error (.noKey node) := by
  rw [applyNode, field_eq_ok_iff.mpr hnode]
  dsimp only [bind, Except.bind]
  rw [hkey]

/-- All but the listings of nodes and pods change a node. -/
theorem apply_eq_applyNode (hnodes : kind ≠ .listNodes) (hpods : kind ≠ .listPods) :
    r.apply kind s = r.applyNode kind s := by
  cases kind <;> first | rfl | exact absurd rfl hnodes | exact absurd rfl hpods

/-- What a response changes that could be read, node lists apart. -/
theorem applyNode_differsAtMost {s' : LooseSession} (hkind : r.kind = some kind)
    (hnodes : kind ≠ .listNodes) (h : r.applyNode kind s = .ok s') : s.DiffersAtMost s' r := by
  obtain ⟨node, hfield, h⟩ := bind_eq_ok h
  split at h
  · cases h
  · next key hkey =>
      have hupdate : ∀ f, s.DiffersAtMost (s.updateNode key f) r := fun f =>
        LooseSession.differsAtMost_updateNode
          (LooseSession.addressed?_eq_some hkind hnodes (field_eq_ok_iff.mp hfield) hkey)
      split at h
      · cases h
        exact LooseSession.differsAtMost_refl
      · next n _ =>
          split at h
          · obtain ⟨n', -, h⟩ := bind_eq_ok h
            cases h
            exact hupdate _
          · cases h
            exact hupdate _

/-- A list of pods changes the addressed node only. -/
theorem applyPods_differsAtMost {s' : LooseSession} (hkind : r.kind = some .listPods)
    (h : r.applyPods .listPods s = .ok s') : s.DiffersAtMost s' r := by
  obtain ⟨node, hfield, h⟩ := bind_eq_ok h
  have hnode := field_eq_ok_iff.mp hfield
  split at h
  · obtain ⟨succeeded, -, h⟩ := bind_eq_ok h
    split at h
    · obtain ⟨pods, -, h⟩ := bind_eq_ok h
      cases h
      exact LooseSession.differsAtMost_setPods hkind hnode
    · obtain ⟨error, -, h⟩ := bind_eq_ok h
      split at h
      · next key hkey =>
          cases h
          exact LooseSession.differsAtMost_failPods hkind hnode hkey
      · cases h
  · cases h
    exact LooseSession.differsAtMost_refl

/-- A node that is absent is recorded like null. -/
theorem key?_getD_ne_none :
    ((r.field? "node").getD .null).key? ≠ none
      ↔ ∀ node, r.field? "node" = some node → node.key? ≠ none := by
  cases r.field? "node" with
  | none => exact iff_of_true (by decide) (fun _ h => (nomatch h))
  | some node => exact ⟨by rintro h _ ⟨⟩; exact h, fun h => h node rfl⟩

/-- Only the node decides whether folding an object yields a session. -/
theorem foldObject_eq_ok_iff : (∃ s', s.foldObject r = .ok s') ↔ ¬r.HasUnusableNode := by
  rw [LooseSession.foldObject]
  cases hkind : r.kind with
  | none =>
      refine iff_of_true ⟨s, rfl⟩ ?_
      rintro ⟨kind, node, hkind', -⟩
      rw [hkind] at hkind'
      cases hkind'
  | some kind =>
      have hunusable : r.HasUnusableNode ↔ kind ≠ .listNodes ∧ kind ≠ .listPods
          ∧ ∃ node, r.field? "node" = some node ∧ node.key? = none := by
        constructor
        · rintro ⟨kind', node, hkind', hnodes, hpods, hnode, hkey⟩
          obtain rfl := Option.some.inj (hkind.symm.trans hkind')
          exact ⟨hnodes, hpods, node, hnode, hkey⟩
        · rintro ⟨hnodes, hpods, node, hnode, hkey⟩
          exact ⟨kind, node, hkind, hnodes, hpods, hnode, hkey⟩
      rw [hunusable]
      dsimp only
      cases happly : r.apply kind s with
      | ok t =>
          -- what could be read has no such node, or it would be the fault
          refine iff_of_true ⟨t, rfl⟩ ?_
          rintro ⟨hnodes, hpods, node, hnode, hkey⟩
          rw [apply_eq_applyNode hnodes hpods, applyNode_of_unusable hnode hkey] at happly
          cases happly
      | error fault =>
          dsimp only
          rw [LooseSession.recordFault_eq_ok_iff, key?_getD_ne_none]
          by_cases hnodes : kind = .listNodes
          · exact iff_of_true (Or.inl hnodes) (fun h => h.1 hnodes)
          by_cases hpods : kind = .listPods
          · -- a node that is not listed is dropped before it can be a fault
            subst hpods
            exact iff_of_true (Or.inr fun node hnode => key?_of_applyPods_error happly hnode)
              (fun h => h.2.1 rfl)
          · constructor
            · rintro (h | h) ⟨-, -, node, hnode, hkey⟩
              · exact hnodes h
              · exact h node hnode hkey
            · intro h
              exact Or.inr fun node hnode hkey => h ⟨hnodes, hpods, node, hnode, hkey⟩

end ResponseObject

/-- What folding an object changes, unless it is a node list that could be
    read. -/
theorem LooseSession.foldObject_differsAtMost {s s' : LooseSession} {r : ResponseObject}
    (hlist : r.kind = some .listNodes → ∃ fault, r.apply .listNodes s = .error fault)
    (h : s.foldObject r = .ok s') : s.DiffersAtMost s' r := by
  rw [foldObject] at h
  cases hkind : r.kind with
  | none =>
      rw [hkind] at h
      cases h
      exact differsAtMost_refl
  | some kind =>
      rw [hkind] at h
      dsimp only at h
      cases happly : r.apply kind s with
      | error fault =>
          rw [happly] at h
          exact recordFault_differsAtMost hkind h
      | ok t =>
          rw [happly] at h
          cases h
          by_cases hnodes : kind = .listNodes
          · obtain ⟨fault, hfault⟩ := hlist (hnodes ▸ hkind)
            rw [hnodes, hfault] at happly
            cases happly
          by_cases hpods : kind = .listPods
          · subst hpods
            exact ResponseObject.applyPods_differsAtMost hkind happly
          · rw [ResponseObject.apply_eq_applyNode hnodes hpods] at happly
            exact ResponseObject.applyNode_differsAtMost hkind hnodes happly

/-- Folding a response object, whatever its attributes hold, yields a session
    exactly if it is no response to an operation on a node with an array or an
    object in the place of the node.  Unless it is a node list that can be
    read, the object differs the session at most in what it concerns.  And an
    object that was checked is folded like the response that it is. -/
theorem unchecked_fold_total_and_local (s : LooseSession) (r : ResponseObject) :
    ((∃ s', s.foldObject r = .ok s') ↔ ¬r.HasUnusableNode)
      ∧ (∀ s', s.foldObject r = .ok s' →
          (r.kind = some .listNodes → ∃ fault, r.apply .listNodes s = .error fault) →
            s.DiffersAtMost s' r)
      ∧ ∀ (t : Session) (q : Response), s = t.loose → r = q.object →
          s.foldObject r = .ok (t.fold q).loose := by
  refine ⟨ResponseObject.foldObject_eq_ok_iff, ?_, ?_⟩
  · intro s' hfold hlist
    exact LooseSession.foldObject_differsAtMost hlist hfold
  · rintro t q rfl rfl
    exact foldObject_object t q

/-- A response to the creation of a debug pod with some fields. -/
def createdObject (fields : List (String × Json)) : ResponseObject :=
  .construct (some .createPod) fields

/-- A session in which a debug pod is being created. -/
def creatingSession : LooseSession :=
  { cluster := "c", nodes := [(.string "n", { status := .creatingPod }), (.string "m", {})] }

/-- Where it is not said how the creation went, the fault is recorded for the
    node, and the session differs in nothing else. -/
theorem unchecked_fold_without_outcome :
    let r := createdObject [("node", .string "n")]
    (∃ fault, r.apply .createPod creatingSession = .error fault)
      ∧ ∃ s', creatingSession.foldObject r = .ok s' ∧ creatingSession.DiffersAtMost s' r := by
  intro r
  have hfault : r.apply .createPod creatingSession
      = .error (.absent "StartDebugPodResponse" "succeeded") := rfl
  obtain ⟨htotal, hlocal, -⟩ := unchecked_fold_total_and_local creatingSession r
  have husable : ¬r.HasUnusableNode := by
    rintro ⟨kind, value, -, -, -, hnode, hkey⟩
    cases hnode
    cases hkey
  obtain ⟨s', hs'⟩ := htotal.mpr husable
  exact ⟨⟨_, hfault⟩, s', hs', hlocal s' hs' (fun hkind => nomatch hkind)⟩

/-- A list in the place of the node is not recorded but escapes. -/
theorem not_unchecked_fold_total :
    ¬∀ (s : LooseSession) (r : ResponseObject), ∃ s', s.foldObject r = .ok s' := by
  intro h
  obtain ⟨s', hs'⟩ := h creatingSession
    (createdObject [("succeeded", .bool true), ("node", .array [.string "n"])])
  cases hs'

end NodeCapture
