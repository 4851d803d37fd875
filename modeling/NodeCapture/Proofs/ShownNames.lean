import NodeCapture.Proofs.CaptureNames
import NodeCapture.Proofs.Marks
import NodeCapture.Proofs.Runs

/-! # Where names come from

    The names that a node shows are those of its completed captures and that of
    its current one.  `Moves.renames` says how an act may change them: a name
    comes in by a start that is accepted or by a check, a stop moves the current
    name behind the others, and everything else keeps the names or drops
    them. -/

namespace NodeCapture

/-- The names of the completed captures of a node. -/
def Node.names (n : Node) : List String := n.captures.map Capture.name

/-- A change that keeps the names of captures keeps those of the node. -/
theorem Node.names_updateCapture (n : Node) (capture : String) {f : Capture → Capture}
    (hf : ∀ c, (f c).name = c.name) : (n.updateCapture capture f).names = n.names := by
  show (n.captures.map _).map Capture.name = n.captures.map Capture.name
  rw [List.map_map]
  refine List.map_congr_left fun c _ => ?_
  show (if c.name = capture then f c else c).name = c.name
  split
  · exact hf c
  · rfl

/-- A failure keeps the name of the current capture or drops it. -/
theorem Node.captureName_fail (n : Node) (error : String) :
    (n.fail error).captureName = n.captureName ∨ (n.fail error).captureName = none := by
  show (if n.status.rollback.hasCapture then n.captureName else none) = n.captureName
    ∨ (if n.status.rollback.hasCapture then n.captureName else none) = none
  split
  · exact Or.inl rfl
  · exact Or.inr rfl

/-- A request changes the names of a node by a start only. -/
theorem Request.mark_names {r : Request} (h : r.kind ≠ .startCapture) (n : Node) :
    (r.mark n).names = n.names ∧ (r.mark n).captureName = n.captureName := by
  cases r with
  | startCapture => exact absurd rfl h
  | download node capture path => exact ⟨n.names_updateCapture capture (fun _ => rfl), rfl⟩
  | _ => exact ⟨rfl, rfl⟩

/-- What a check of a node finds where it ends well: the capture that runs and
    the completed ones. -/
def Response.found? (node : String) : Response → Option (Option String × List CaptureFile)
  | .nodeChecked outcome checked _ running completed =>
      if checked = node ∧ outcome.succeeded then some (running, completed) else none
  | _ => none

/-- What an act finds on a node has a property. -/
def Act.Finds (node : String) (P : Option String → List CaptureFile → Prop) : Act → Prop
  | .asked _ => True
  | .ended _ _ r => ∀ found, r.found? node = some found → P found.1 found.2

instance (node : String) (P : Option String → List CaptureFile → Prop)
    [∀ running completed, Decidable (P running completed)] : ∀ act, Decidable (Act.Finds node P act)
  | .asked _ => inferInstanceAs (Decidable True)
  | .ended _ _ r => inferInstanceAs (Decidable (∀ found ∈ r.found? node, P found.1 found.2))

namespace Orchestrator

/-- An intent is accepted: an operation begins. -/
def Accepts (o : Orchestrator) (i : Intent) : Prop :=
  ∃ o' operation, o.perform i = .ok (o', .begun operation)

instance (o : Orchestrator) (i : Intent) : Decidable (o.Accepts i) :=
  match hp : o.perform i with
  | .ok (o', .begun operation) => isTrue ⟨o', operation, hp⟩
  | .ok (_, .done) => isFalse fun ⟨_, _, h⟩ => nomatch hp.symm.trans h
  | .ok (_, .refused) => isFalse fun ⟨_, _, h⟩ => nomatch hp.symm.trans h
  | .error _ => isFalse fun ⟨_, _, h⟩ => nomatch hp.symm.trans h

/-- An intent ends in an error. -/
def Raises (o : Orchestrator) (i : Intent) : Prop := ∃ e, o.perform i = .error e

/-- How an act may change the names on a node. -/
inductive Renames (o : Orchestrator) (node : String) (n : Node) : Act → Node → Prop where
  | kept {act : Act} {n' : Node} (names : n'.names = n.names ∨ n'.names = [])
      (current : n'.captureName = n.captureName ∨ n'.captureName = none) :
      Renames o node n act n'
  | started {capture : String} {n' : Node} (accepted : o.Accepts (.startCapture node capture))
      (named : isCaptureName capture) (names : n'.names = n.names)
      (current : n'.captureName = some capture) :
      Renames o node n (.asked (.startCapture node capture)) n'
  | stopped {act : Act} {capture : String} {n' : Node} (before : n.captureName = some capture)
      (names : n'.names = n.names ++ [capture]) (current : n'.captureName = none) :
      Renames o node n act n'
  | checked {operation : Nat} {q : Request} {r : Response} {running : Option String}
      {completed : List CaptureFile} {n' : Node} (found : r.found? node = some (running, completed))
      (names : n'.names = completed.map CaptureFile.name)
      (current : n'.captureName = none ∨ n'.captureName = running) :
      Renames o node n (.ended operation q r) n'

variable {o : Orchestrator} {node : String} {n : Node}

/-- A failure keeps the names, or drops the current one. -/
theorem Renames.fail {act : Act} (error : String) : o.Renames node n act (n.fail error) :=
  .kept (Or.inl rfl) (n.captureName_fail error)

/-- A change of the completed captures of a name keeps the names. -/
theorem Renames.updateCapture {act : Act} {n' : Node} {capture : String} {f : Capture → Capture}
    (hcaptures : n'.captures = (n.updateCapture capture f).captures)
    (hcurrent : n'.captureName = n.captureName) (hf : ∀ c, (f c).name = c.name) :
    o.Renames node n act n' := by
  refine .kept (Or.inl ?_) (Or.inl hcurrent)
  rw [Node.names, hcaptures]
  exact n.names_updateCapture capture hf

/-- A response changes the names of a node by a check or a stop only. -/
theorem renames_update {operation : Nat} {q : Request} {r : Response} (mine : r.node? = some node) :
    o.Renames node n (.ended operation q r) (r.update n) := by
  cases r with
  | nodeChecked outcome name podRunning running completed =>
      obtain rfl : name = node := Option.some.inj mine
      simp only [Response.update, Node.settleCheck]
      split
      · next hok =>
          refine .checked (if_pos ⟨rfl, hok⟩) ?_ ?_
          · show (completed.map _).map Capture.name = _
            rw [List.map_map]
            rfl
          · show (if podRunning then running else none) = none ∨ _ = running
            cases podRunning
            · exact Or.inl rfl
            · exact Or.inr rfl
      · exact .fail _
  | podCreated outcome name =>
      simp only [Response.update, Node.settleCreation]
      split
      · exact .kept (Or.inl rfl) (Or.inl rfl)
      · exact .fail _
  | podDeleted outcome name =>
      -- the captures are given up even where the deletion failed
      simp only [Response.update, Node.settleDeletion]
      split
      · exact .kept (Or.inr rfl) (Or.inr rfl)
      · exact .kept (Or.inr rfl)
          (n.captureName_fail (Node.errorOr outcome "Failed to delete debug pod"))
  | captureStarted outcome name =>
      simp only [Response.update, Node.settleStart]
      split
      · exact .kept (Or.inl rfl) (Or.inl rfl)
      · exact .fail _
  | captureStopped outcome name capture =>
      simp only [Response.update, Node.settleStop]
      split
      · split
        · next file =>
            split
            · next hcurrent =>
                refine .stopped hcurrent.symm ?_ rfl
                show (n.captures ++ [_]).map Capture.name = _
                rw [List.map_append]
                rfl
            · exact .fail _
        · exact .fail _
      · exact .fail _
  | downloaded outcome name capture path =>
      simp only [Response.update, Node.settleDownload]
      split
      · exact .updateCapture rfl rfl (fun _ => rfl)
      · exact .updateCapture rfl rfl (fun _ => rfl)
  | interfacesListed outcome name names =>
      simp only [Response.update, Node.settleInterfaces]
      split
      · exact .kept (Or.inl rfl) (Or.inl rfl)
      · exact .kept (Or.inl rfl) (Or.inl rfl)
  | nodesListed => cases mine
  | podsListed outcome name pods =>
      simp only [Response.update]
      split
      · exact .kept (Or.inl rfl) (Or.inl rfl)
      · exact .kept (Or.inl rfl) (Or.inl rfl)

/-- An operation that begins is that of the intent that was carried out. -/
theorem begins_of_advance {i : Intent} {r : Request}
    (outstanding : (o.advance (.asked i)).outstanding = o.outstanding ++ [(o.submitted, r)]) :
    ∃ o' operation, o.perform i = .ok (o', .begun operation) ∧ o.session.Begins i r o'.session := by
  -- an act that begins nothing leaves the outstanding operations as they are
  have hgrows : ∀ {entries : List (Nat × Request)}, entries = o.outstanding →
      entries ≠ o.outstanding ++ [(o.submitted, r)] := by
    rintro entries rfl hsame
    exact absurd (congrArg List.length hsame) (by simp)
  rw [advance, handle] at outstanding
  cases hp : o.perform i with
  | error e =>
      rw [hp] at outstanding
      exact absurd outstanding (hgrows rfl)
  | ok result =>
      obtain ⟨o', a⟩ := result
      rw [hp] at outstanding
      cases performs_of_perform hp with
      | refused _ unchanged => exact absurd outstanding (hgrows unchanged)
      | done _ unchanged => exact absurd outstanding (hgrows unchanged)
      | begun begins added =>
          rw [added] at outstanding
          obtain ⟨-, rfl⟩ := Prod.mk.inj (List.cons.inj (List.append_cancel_left outstanding)).1
          exact ⟨o', _, rfl, begins⟩

/-- Each act changes the names of each node in one of these ways. -/
theorem Moves.renames {act : Act} (moves : o.Moves node act) :
    o.Renames node (o.session.stateOf node) act ((o.advance act).session.stateOf node) := by
  cases moves with
  | stayed selection outstanding state =>
      rw [state]
      exact .kept (Or.inl rfl) (Or.inl rfl)
  | begunElsewhere outstanding other state =>
      rw [state]
      exact .kept (Or.inl rfl) (Or.inl rfl)
  | begun outstanding mine fits state =>
      rename_i i r
      rw [state]
      by_cases hstart : r.kind = .startCapture
      · obtain ⟨o', operation, hp, begins⟩ := begins_of_advance outstanding
        generalize o'.session = after at begins
        cases begins with
        | startCapture here fits' named =>
            obtain rfl := Option.some.inj mine
            exact .started ⟨o', operation, hp⟩ named rfl rfl
        | _ => cases hstart
      · obtain ⟨names, current⟩ := Request.mark_names hstart (o.session.stateOf node)
        exact .kept (Or.inl names) (Or.inl current)
  | endedElsewhere outstanding answers other state =>
      rw [state]
      exact .kept (Or.inl rfl) (Or.inl rfl)
  | ended outstanding answers mine state =>
      rename_i operation q r
      rw [state, Response.effect]
      rcases Node.awaiting_cases r.kind node r.update (o.session.stateOf node) with
        ⟨hsame, -⟩ | ⟨_, _, -, -, herror⟩
      · rw [hsame]
        exact renames_update (answers.node?.trans mine)
      · rw [herror]
        exact .kept (Or.inl rfl) (Or.inl rfl)

end Orchestrator

end NodeCapture
