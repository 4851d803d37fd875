import NodeCapture.Proofs.Folding
import NodeCapture.Proofs.LooseSessions
import NodeCapture.Session.Unchecked

/-! # Checked responses as objects

    A response that was checked is an object as well, whose attributes are all
    there and of their kinds.  Folding it as an object is folding it
    (`foldObject_object`): reading never fails, and each change of the session
    commutes with `loose`. -/

namespace NodeCapture

open ResponseObject

variable {kind : OperationKind}

/-! ## Reading a checked response -/

namespace Response

/-- Whether the operation succeeded is an attribute. -/
theorem field_succeeded (r : Response) :
    r.object.field kind "succeeded" = .ok (.bool r.outcome.succeeded) := by
  cases r with
  | captureStopped o node capture => cases capture <;> rfl
  | _ => rfl

/-- It is read as it was checked. -/
theorem succeeded_object (r : Response) :
    r.object.succeeded kind = .ok r.outcome.succeeded := by
  rw [succeeded, field_succeeded]
  rfl

/-- The error message is an attribute, if only an empty one. -/
theorem field_error (r : Response) :
    r.object.field kind "error_message" = .ok (.ofText? r.outcome.error) := by
  cases r with
  | captureStopped o node capture => cases capture <;> rfl
  | _ => rfl

/-- The error text is that of the checked response. -/
theorem errorOr_object (r : Response) (text : String) :
    r.object.errorOr kind text = .ok (.string (Node.errorOr r.outcome text)) := by
  rw [errorOr, field_error, Node.errorOr]
  cases herror : r.outcome.error with
  | none => rfl
  | some error =>
      show Except.ok (if !error.isEmpty then Json.string error else .string text) = _
      rw [nonEmpty]
      cases error.isEmpty <;> rfl

/-- The node of a response is an attribute. -/
theorem field_node {r : Response} {node : String} (h : r.node? = some node) :
    r.object.field kind "node" = .ok (.string node) := by
  cases r with
  | captureStopped o name capture =>
      obtain rfl := Option.some.inj h
      cases capture <;> rfl
  | nodesListed o names => cases h
  | _ =>
      obtain rfl := Option.some.inj h
      rfl

end Response

/-! ## Settling -/

/-- The files of a check become completed captures. -/
theorem loose_files (completed : List CaptureFile) :
    (completed.map (fun c => ({ name := c.name, sizeKb := c.sizeKb } : Capture))).map Capture.loose
      = completed.map (fun file => ⟨file.name, file.sizeKb, .completed, .null⟩) := by
  rw [List.map_map]
  rfl

/-- The name of a capture in a message. -/
theorem inMessage_ofText? (text : Option String) :
    (Json.ofText? text).inMessage = text.getD "None" := by
  cases text <;> rfl

/-- The error for a file of another capture. -/
theorem loose_fail_mismatch (n : Node) :
    n.loose.fail (.string ("Stop capture response does not match running capture "
      ++ n.loose.captureName.inMessage)) = (n.fail (Node.settleStop.mismatch n)).loose := by
  have htext : "Stop capture response does not match running capture "
      ++ n.loose.captureName.inMessage = Node.settleStop.mismatch n :=
    congrArg _ (inMessage_ofText? n.captureName)
  rw [htext, Node.loose_fail]

/-- A failure is settled as that of the checked response. -/
theorem settleFailure_object {r : Response} (hnodes : r.kind ≠ .listNodes)
    (hpods : r.kind ≠ .listPods) (hfails : r.outcome.succeeded = false) (n : Node) :
    r.object.settleFailure r.kind n.loose = .ok (r.update n).loose := by
  rw [settleFailure, r.errorOr_object]
  cases r with
  | nodeChecked o node podRunning running completed =>
      obtain ⟨_, error⟩ := o
      cases hfails
      exact congrArg Except.ok (n.loose_fail _).symm
  | podCreated o node =>
      obtain ⟨_, error⟩ := o
      cases hfails
      exact congrArg Except.ok (n.loose_fail _).symm
  | podDeleted o node =>
      obtain ⟨_, error⟩ := o
      cases hfails
      exact congrArg (fun m : LooseNode => Except.ok { m with captures := [] })
        (n.loose_fail _).symm
  | captureStarted o node =>
      obtain ⟨_, error⟩ := o
      cases hfails
      exact congrArg Except.ok (n.loose_fail _).symm
  | captureStopped o node capture =>
      obtain ⟨_, error⟩ := o
      cases hfails
      exact congrArg Except.ok (n.loose_fail _).symm
  | downloaded o node capture path =>
      obtain ⟨_, error⟩ := o
      cases hfails
      have hupdate := n.loose_updateCapture capture
        (f := fun c => { c with status := .completed, localPath := none })
        (g := fun c => { c with status := .completed, localPath := .null }) (fun _ => rfl)
      let text := Node.errorOr ⟨false, error⟩ "Download failed"
      exact congrArg (fun m : LooseNode => Except.ok { m with error := .string text }) hupdate.symm
  | interfacesListed o node names =>
      obtain ⟨_, error⟩ := o
      cases hfails
      rfl
  | nodesListed => exact absurd rfl hnodes
  | podsListed => exact absurd rfl hpods

/-- A check that succeeded is settled as the checked response is. -/
theorem settleCheck_object (error : Option String) (node : String) (podRunning : Bool)
    (running : Option String) (completed : List CaptureFile) (n : Node) :
    (Response.nodeChecked ⟨true, error⟩ node podRunning running completed).object.settleCheck
        .checkNode n.loose
      = .ok (n.settleCheck ⟨true, error⟩ podRunning running completed).loose := by
  have hfound : ∀ status captureName, (⟨status, .null, captureName, n.selection,
      completed.map (fun file => ⟨file.name, file.sizeKb, .completed, .null⟩),
      n.loose.interfaces⟩ : LooseNode)
      = ⟨status, .null, captureName, n.selection,
        (completed.map (fun c => { name := c.name, sizeKb := c.sizeKb })).map Capture.loose,
        n.loose.interfaces⟩ :=
    fun _ _ => congrArg (LooseNode.mk _ _ _ _ · _) (loose_files completed).symm
  cases podRunning with
  | false => exact congrArg Except.ok (hfound .clean .null)
  | true =>
      cases running with
      | none => exact congrArg Except.ok (hfound .podRunning .null)
      | some name => exact congrArg Except.ok (hfound .captureRunning (.string name))

/-- A stop that succeeded is settled as the checked response is. -/
theorem settleStop_object (error : Option String) (node : String) (capture : Option CaptureFile)
    (n : Node) :
    (Response.captureStopped ⟨true, error⟩ node capture).object.settleStop .stopCapture n.loose
      = .ok (n.settleStop ⟨true, error⟩ capture).loose := by
  cases capture with
  | none => exact congrArg Except.ok (loose_fail_mismatch n)
  | some file =>
      show (if n.loose.captureName.key? = some (.text file.name) then _ else _)
        = Except.ok (if some file.name = n.captureName then _ else _ : Node).loose
      by_cases hname : some file.name = n.captureName
      · have hkey : n.loose.captureName.key? = some (.text file.name) :=
          Json.key?_ofText?_eq.mpr hname
        have hcaptures :
            (n.captures ++ [({ name := file.name, sizeKb := file.sizeKb } : Capture)]).map
              Capture.loose
            = n.loose.captures ++ [⟨file.name, file.sizeKb, .completed, .null⟩] := List.map_append
        rw [if_pos hname, if_pos hkey]
        exact congrArg (fun captures => Except.ok
          (⟨.podRunning, .null, .null, n.selection, captures, n.loose.interfaces⟩ : LooseNode))
          hcaptures.symm
      · have hkey : ¬n.loose.captureName.key? = some (.text file.name) :=
          mt Json.key?_ofText?_eq.mp hname
        rw [if_neg hname, if_neg hkey]
        exact congrArg Except.ok (loose_fail_mismatch n)

/-- A success is settled as that of the checked response. -/
theorem settleSuccess_object {r : Response} (hnodes : r.kind ≠ .listNodes)
    (hpods : r.kind ≠ .listPods) (hsucceeds : r.outcome.succeeded = true) (n : Node) :
    r.object.settleSuccess r.kind n.loose = .ok (r.update n).loose := by
  cases r with
  | nodeChecked o node podRunning running completed =>
      obtain ⟨_, error⟩ := o
      cases hsucceeds
      exact settleCheck_object error node podRunning running completed n
  | podCreated o node =>
      obtain ⟨_, error⟩ := o
      cases hsucceeds
      rfl
  | podDeleted o node =>
      obtain ⟨_, error⟩ := o
      cases hsucceeds
      rfl
  | captureStarted o node =>
      obtain ⟨_, error⟩ := o
      cases hsucceeds
      rfl
  | captureStopped o node capture =>
      obtain ⟨_, error⟩ := o
      cases hsucceeds
      exact settleStop_object error node capture n
  | downloaded o node capture path =>
      obtain ⟨_, error⟩ := o
      cases hsucceeds
      have hupdate := n.loose_updateCapture capture
        (f := fun c => { c with status := .downloaded, localPath := path })
        (g := fun c => { c with status := .downloaded, localPath := .ofText? path }) (fun _ => rfl)
      exact congrArg (fun m : LooseNode => Except.ok { m with error := .null }) hupdate.symm
  | interfacesListed o node names =>
      obtain ⟨_, error⟩ := o
      cases hsucceeds
      rfl
  | nodesListed => exact absurd rfl hnodes
  | podsListed => exact absurd rfl hpods

/-- What a checked response does to the state of its node. -/
theorem settle_object {r : Response} (hnodes : r.kind ≠ .listNodes) (hpods : r.kind ≠ .listPods)
    (n : Node) : r.object.settle r.kind n.loose = .ok (r.update n).loose := by
  rw [settle, r.succeeded_object]
  show (if r.outcome.succeeded then _ else _) = _
  cases hsucceeded : r.outcome.succeeded with
  | true => exact settleSuccess_object hnodes hpods hsucceeded n
  | false => exact settleFailure_object hnodes hpods hsucceeded n

/-! ## Folding -/

/-- A node is awaited by the same test. -/
theorem awaiting_of_all {kind : OperationKind} {node : String} {f : Node → Node} {n : Node} :
    Node.awaiting kind node f n
      = if kind.awaitedStatus?.all (fun awaited => n.status = awaited) then f n
        else n.withError (Session.unexpectedText kind node n.status) := by
  rw [Node.awaiting]
  cases kind.awaitedStatus? with
  | none => rfl
  | some awaited => by_cases h : n.status = awaited <;> simp [h]

/-- A response about a node changes the session as the checked one does. -/
theorem applyNode_object (s : Session) {r : Response} {node : String} (hnode : r.node? = some node)
    (hpods : r.kind ≠ .listPods) :
    r.object.applyNode r.kind s.loose = .ok (s.fold r).loose := by
  have hnodes : r.kind ≠ .listNodes := by
    intro hkind
    cases r with
    | nodesListed => cases hnode
    | _ => cases hkind
  have hfield : r.object.field r.kind "node" = .ok (.string node) := Response.field_node hnode
  rw [applyNode, hfield, s.fold_eq_updateNode hnode hpods]
  dsimp only [bind, Except.bind]
  rw [Json.key?_string]
  dsimp only
  rw [Session.loose_node?]
  cases hstate : s.node? node with
  | none =>
      rw [s.updateNode_of_absent hstate]
      rfl
  | some n =>
      have heffect : r.effect node n = _ := awaiting_of_all
      show (if r.kind.awaitedStatus?.all (fun awaited => n.status = awaited) then _ else _) = _
      split
      · next hawaited =>
          rw [settle_object hnodes hpods]
          rw [if_pos hawaited] at heffect
          refine congrArg Except.ok (s.loose_updateNode ?_)
          intro m hm
          rw [hstate] at hm
          cases hm
          rw [heffect]
      · next hother =>
          rw [if_neg hother] at heffect
          refine congrArg Except.ok (s.loose_updateNode ?_)
          intro m hm
          rw [hstate] at hm
          cases hm
          rw [heffect]
          rfl

/-- A list of texts lists keys. -/
theorem iteratedKeys_ofTexts (names : List String) :
    (Json.ofTexts names).iteratedKeys = .ok (names.map .string) := by
  have hnone : (names.map Json.string).find? (fun item => item.key?.isNone) = none := by
    rw [List.find?_eq_none]
    intro item hitem
    obtain ⟨name, -, rfl⟩ := List.mem_map.mp hitem
    simp
  rw [Json.iteratedKeys, Json.ofTexts, Json.iterated]
  dsimp only [bind, Except.bind]
  rw [hnone]
  rfl

/-- A list of nodes changes the session as the checked one does. -/
theorem applyNodes_object (s : Session) (o : Outcome) (names : List String) :
    (Response.nodesListed o names).object.applyNodes .listNodes s.loose
      = .ok (s.fold (.nodesListed o names)).loose := by
  rw [applyNodes, Response.succeeded_object]
  obtain ⟨_ | _, error⟩ := o
  · show ((Response.nodesListed ⟨false, error⟩ names).object.errorOr .listNodes
      "Failed to list nodes" >>= fun error => pure (s.loose.failNodes error)) = _
    rw [Response.errorOr_object]
    exact congrArg Except.ok (s.loose_failNodes _)
  · show ((Json.ofTexts names).iteratedKeys >>= fun keys => pure (s.loose.setNodes keys)) = _
    rw [iteratedKeys_ofTexts]
    exact congrArg Except.ok (s.loose_setNodes names)

/-- A list of pods changes the session as the checked one does. -/
theorem applyPods_object (s : Session) (o : Outcome) (node : String) (pods : List Pod) :
    (Response.podsListed o node pods).object.applyPods .listPods s.loose
      = .ok (s.fold (.podsListed o node pods)).loose := by
  rw [applyPods, Response.field_node rfl]
  show (if s.loose.lists (.string node) then _ else _) = _
  rw [s.loose_lists, Session.fold, Session.foldPods]
  cases s.reference.contains node with
  | false => rfl
  | true =>
      rw [if_pos rfl, if_pos rfl, Response.succeeded_object]
      obtain ⟨_ | _, error⟩ := o
      · show ((Response.podsListed ⟨false, error⟩ node pods).object.errorOr .listPods
          ("Failed to list pods on " ++ node)
            >>= fun error => pure (s.loose.failPods (.string node) (.text node) error)) = _
        rw [Response.errorOr_object]
        exact congrArg Except.ok (s.loose_failPods node _)
      · exact congrArg Except.ok (s.loose_setPods node (.loaded pods))

/-- A response that was checked is folded as an object like any other, and
    reading it never fails. -/
theorem foldObject_object (s : Session) (r : Response) :
    s.loose.foldObject r.object = .ok (s.fold r).loose := by
  have hkind : r.object.kind = some r.kind := by
    cases r with
    | captureStopped o node capture => cases capture <;> rfl
    | _ => rfl
  have happly : r.object.apply r.kind s.loose = .ok (s.fold r).loose := by
    cases r with
    | nodesListed o names => exact applyNodes_object s o names
    | podsListed o node pods => exact applyPods_object s o node pods
    | _ => exact applyNode_object s rfl nofun
  rw [LooseSession.foldObject, hkind]
  dsimp only
  rw [happly]

end NodeCapture
