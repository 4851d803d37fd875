import NodeCapture.Session

/-! # What a valid payload says

    A payload that passes the check of a response is an object whose members
    are the fields of the response.  In particular it names the node that the
    response concerns, so that a payload is for the same node whether it
    passes or not. -/

namespace NodeCapture

namespace Checked

variable {α β : Type}

/-- A changed value is there if the value is. -/
@[simp]
theorem map_eq_ok {f : α → β} {a : Checked α} {b : β} :
    a.map f = .ok b ↔ ∃ x, a = .ok x ∧ f x = b := by
  cases a with
  | ok x => simp [map]
  | error issues => simp [map]

/-- Two values are there together if each is. -/
@[simp]
theorem apply_eq_ok {f : Checked (α → β)} {a : Checked α} {b : β} :
    f.apply a = .ok b ↔ ∃ g, f = .ok g ∧ ∃ x, a = .ok x ∧ g x = b := by
  cases f with
  | ok g =>
      cases a with
      | ok x => simp [apply]
      | error issues => simp [apply]
  | error issues =>
      cases a with
      | ok x => simp [apply]
      | error more => simp [apply]

/-- Naming the place of an error changes no value. -/
@[simp]
theorem under_eq_ok {step : PathStep} {a : Checked α} {x : α} :
    a.under step = .ok x ↔ a = .ok x := by
  cases a with
  | ok y => simp [under]
  | error issues => simp [under]

/-- Naming what is checked changes no value. -/
@[simp]
theorem titled_eq_ok {title : String} {a : Checked α} {x : α} :
    a.titled title = .ok x ↔ a = .ok x := by
  cases a with
  | ok y => simp [titled]
  | error issues => simp [titled]

/-- An error is no value. -/
@[simp]
theorem issue_ne_ok {cause : IssueCause} {x : α} : ¬ (issue cause : Checked α) = .ok x := by
  simp [issue]

end Checked

namespace Check

variable {α : Type}

/-- A text is read from a text only. -/
@[simp]
theorem text_eq_ok {value : Json} {s : String} : text value = .ok s ↔ value = .string s := by
  cases value <;> simp [text]

/-- A required member is read if it is there and passes its check. -/
@[simp]
theorem required_eq_ok {name : String} {check : Json → Checked α}
    {members : List (String × Json)} {x : α} :
    required name check members = .ok x
      ↔ ∃ value, Json.lookup? name members = some value ∧ check value = .ok x := by
  rw [required]
  rw [Checked.under_eq_ok]
  cases Json.lookup? name members with
  | none => simp
  | some value => simp

/-- A record is read from an object only. -/
@[simp]
theorem record_eq_ok {otherwise : IssueCause} {check : List (String × Json) → Checked α}
    {payload : Json} {x : α} :
    record otherwise check payload = .ok x
      ↔ ∃ members, payload = .object members ∧ check members = .ok x := by
  cases payload <;> simp [record]

end Check

namespace Response

/-- A response that was read answers the operation that it was read for, and
    concerns the node that the payload names. -/
theorem kind_node?_of_checkMembers {kind : OperationKind} {members : List (String × Json)}
    {r : Response} (h : checkMembers kind members = .ok r) :
    r.kind = kind
      ∧ (kind ≠ .listNodes →
          ∃ node, Json.lookup? "node" members = some (.string node) ∧ r.node? = some node) := by
  cases kind <;> simp only [checkMembers, Checked.map_eq_ok, Checked.apply_eq_ok,
    Check.required_eq_ok, Check.text_eq_ok, exists_eq_right] at h
  case checkNode =>
      obtain ⟨_, ⟨_, ⟨_, ⟨_, ⟨_, _, rfl⟩, node, hnode, rfl⟩, _, _, rfl⟩, _, _, rfl⟩, _, _, rfl⟩ := h
      exact ⟨rfl, fun _ => ⟨node, hnode, rfl⟩⟩
  case createPod | deletePod | startCapture =>
      obtain ⟨_, ⟨_, _, rfl⟩, node, hnode, rfl⟩ := h
      exact ⟨rfl, fun _ => ⟨node, hnode, rfl⟩⟩
  case stopCapture | listInterfaces | listPods =>
      obtain ⟨_, ⟨_, ⟨_, _, rfl⟩, node, hnode, rfl⟩, _, _, rfl⟩ := h
      exact ⟨rfl, fun _ => ⟨node, hnode, rfl⟩⟩
  case download =>
      obtain ⟨_, ⟨_, ⟨_, ⟨_, _, rfl⟩, node, hnode, rfl⟩, _, _, rfl⟩, _, _, rfl⟩ := h
      exact ⟨rfl, fun _ => ⟨node, hnode, rfl⟩⟩
  case listNodes =>
      obtain ⟨_, ⟨_, _, rfl⟩, _, _, rfl⟩ := h
      exact ⟨rfl, fun hne => absurd rfl hne⟩

/-- A response that concerns a node is no node list. -/
theorem kind_ne_listNodes {r : Response} {node : String} (h : r.node? = some node) :
    r.kind ≠ .listNodes := by
  cases r with
  | nodesListed => cases h
  | _ => exact fun hkind => nomatch hkind

/-- What is read is a response of the kind that was asked for. -/
theorem kind_of_ofJson {kind : OperationKind} {payload : Json} {r : Response}
    (h : ofJson kind payload = .ok r) : r.kind = kind := by
  rw [ofJson, Checked.titled_eq_ok, Check.record_eq_ok] at h
  obtain ⟨members, -, h⟩ := h
  exact (kind_node?_of_checkMembers h).1

/-- A valid payload is for the node that it names. -/
theorem node?_of_ofJson {kind : OperationKind} {payload : Json} {r : Response}
    (h : ofJson kind payload = .ok r) (hkind : kind ≠ .listNodes) :
    r.node? = Session.payloadText? "node" payload := by
  rw [ofJson, Checked.titled_eq_ok, Check.record_eq_ok] at h
  obtain ⟨members, rfl, h⟩ := h
  obtain ⟨node, hlookup, hnode⟩ := (kind_node?_of_checkMembers h).2 hkind
  rw [hnode]
  simp [Session.payloadText?, Json.get?, hlookup]

end Response

end NodeCapture
