import Mathlib.Data.List.Forall2
import NodeCapture.Proofs.Folding

/-! # Responses through their serialized form

    A response that is written as an object and read again is the response
    itself, also where the objects of its payload have members that no check
    asks for.  `Json.Enriched` relates a value to those with further members,
    and a check `Reads` what is written if it reads it through all of them:
    the rules for fields, lists and options lift this from texts and numbers
    to whole responses. -/

namespace NodeCapture

/-! ## Values with further members -/

namespace Json

/-- A value with further members in its objects, at any depth and in any
    order. -/
inductive Enriched : Json → Json → Prop
  | same (value : Json) : Enriched value value
  | array {values richer : List Json} (items : List.Forall₂ Enriched values richer) :
      Enriched (.array values) (.array richer)
  | object {members richer : List (String × Json)}
      (kept : ∀ name, lookup? name members ≠ none → lookup? name richer ≠ none)
      (deep : ∀ name value rich, lookup? name members = some value →
        lookup? name richer = some rich → Enriched value rich) :
      Enriched (.object members) (.object richer)

/-- Members that are all there among others, with their values enriched. -/
def Holds (members richer : List (String × Json)) : Prop :=
  ∀ name value, lookup? name members = some value →
    ∃ rich, lookup? name richer = some rich ∧ Enriched value rich

namespace Enriched

variable {members richer : List (String × Json)} {value payload : Json}

/-- An enriched object holds the members of the object. -/
theorem holds (h : Enriched (.object members) payload) :
    ∃ richer, payload = .object richer ∧ Holds members richer := by
  cases h with
  | same => exact ⟨members, rfl, fun name value found => ⟨value, found, .same value⟩⟩
  | object kept deep =>
      rename_i richer
      refine ⟨richer, rfl, fun name value found => ?_⟩
      cases present : lookup? name richer with
      | none => exact absurd present (kept name (by simp [found]))
      | some rich => exact ⟨rich, rfl, deep name value rich found present⟩

/-- An enriched array has enriched items, one for each. -/
theorem items {values : List Json} (h : Enriched (.array values) payload) :
    ∃ richer, payload = .array richer ∧ List.Forall₂ Enriched values richer := by
  cases h with
  | same => exact ⟨values, rfl, List.forall₂_same.mpr fun value _ => .same value⟩
  | array items => exact ⟨_, rfl, items⟩

/-- What is there is not taken away. -/
theorem ne_null (h : Enriched value payload) (hvalue : value ≠ .null) : payload ≠ .null := by
  rintro rfl
  cases h with
  | same => exact hvalue rfl

/-- Members may be enriched in their places, and others may follow. -/
theorem of_members
    (h : List.Forall₂ (fun old new => old.1 = new.1 ∧ Enriched old.2 new.2) members richer)
    (more : List (String × Json)) : Enriched (.object members) (.object (richer ++ more)) := by
  have found : ∀ name value, lookup? name members = some value →
      ∃ rich, lookup? name (richer ++ more) = some rich ∧ Enriched value rich := by
    intro name value found
    induction h with
    | nil => cases found
    | cons head _ ih =>
        rename_i old new _ _ _
        obtain ⟨named, deep⟩ := head
        by_cases hname : new.1 = name
        · have here : old.2 = value := by simpa [lookup?, named, hname] using found
          exact ⟨new.2, by simp [lookup?, hname], here ▸ deep⟩
        · simpa [lookup?, hname] using ih (by simpa [lookup?, named, hname] using found)
  refine .object (fun name present => ?_) (fun name value rich hvalue hrich => ?_)
  · obtain ⟨value, hvalue⟩ := Option.ne_none_iff_exists'.mp present
    obtain ⟨rich, hrich, -⟩ := found name value hvalue
    simp [hrich]
  · obtain ⟨other, hother, deep⟩ := found name value hvalue
    obtain rfl := Option.some.inj (hother.symm.trans hrich)
    exact deep

end Enriched

/-- A text that may be there is written as itself or as nothing. -/
theorem ofText?_eq_getD : ofText? = fun text => (text.map string).getD null := by
  funext text
  cases text <;> rfl

end Json

/-! ## Checks that read what is written -/

namespace Check

open Json

variable {α : Type} {check : Json → Checked α} {write : α → Json}

/-- A check reads back what is written, whatever members are added to it. -/
def Reads (check : Json → Checked α) (write : α → Json) : Prop :=
  ∀ a payload, Enriched (write a) payload → check payload = .ok a

/-- Texts are read back. -/
theorem text_reads : Reads text .string := by
  intro s payload h
  cases h with
  | same => rfl

/-- Truth values are read back. -/
theorem bool_reads : Reads bool .bool := by
  intro b payload h
  cases h with
  | same => rfl

/-- Whole numbers are read back. -/
theorem int_reads : Reads int .int := by
  intro n payload h
  cases h with
  | same => rfl

/-- An option is read if nothing else is written as null. -/
theorem optional_reads (h : Reads check write) (hwrite : ∀ a, write a ≠ .null) :
    Reads (optional check) (fun a => (a.map write).getD .null) := by
  intro a payload enriched
  cases a with
  | none =>
      cases enriched with
      | same => rfl
  | some a =>
      have read := h a payload enriched
      cases payload with
      | null => exact absurd rfl (enriched.ne_null (hwrite a))
      | _ => simp [optional, read]

/-- Texts that may be there are read back. -/
theorem optional_text_reads : Reads (optional text) .ofText? := by
  rw [ofText?_eq_getD]
  exact optional_reads text_reads fun _ => nofun

/-- Items that are read back each are read back together. -/
theorem items_of_reads (h : Reads check write) {as : List α} {values : List Json}
    (each : List.Forall₂ Enriched (as.map write) values) (index : Nat) :
    items check index values = .ok as := by
  induction as generalizing values index with
  | nil =>
      obtain rfl := List.forall₂_nil_left_iff.mp each
      rfl
  | cons a rest ih =>
      obtain ⟨value, more, first, others, rfl⟩ := List.forall₂_cons_left_iff.mp each
      simp [items, h a value first, ih others]

/-- Lists are read back if their items are. -/
theorem list_reads (h : Reads check write) :
    Reads (list check) (fun as => .array (as.map write)) := by
  intro as payload enriched
  obtain ⟨values, rfl, each⟩ := enriched.items
  exact items_of_reads h each 0

variable {members richer : List (String × Json)} {name : String} {a default : α}

/-- A member that was written is there to be read. -/
theorem required_of_holds (h : Reads check write) (holds : Holds members richer)
    (written : lookup? name members = some (write a)) : required name check richer = .ok a := by
  obtain ⟨rich, found, enriched⟩ := holds name _ written
  exact required_eq_ok.mpr ⟨rich, found, h a rich enriched⟩

/-- A field that is written is read, whatever it defaults to. -/
theorem withDefault_of_holds (h : Reads check write) (holds : Holds members richer)
    (written : lookup? name members = some (write a)) :
    withDefault name check default richer = .ok a := by
  obtain ⟨rich, found, enriched⟩ := holds name _ written
  simp [withDefault, found, h a rich enriched]

end Check

open Check Json

/-- Pods are read back. -/
theorem Pod.check_reads : Reads Pod.check Pod.toJson := by
  intro p payload h
  obtain ⟨richer, rfl, holds⟩ := h.holds
  have name : required "name" text richer = .ok p.name := required_of_holds text_reads holds rfl
  have address : required "ip_address" text richer = .ok p.address :=
    required_of_holds text_reads holds rfl
  simp only [Pod.check, record, name, address]
  rfl

/-- Capture files are read back. -/
theorem CaptureFile.check_reads : Reads CaptureFile.check CaptureFile.toJson := by
  intro c payload h
  obtain ⟨richer, rfl, holds⟩ := h.holds
  have name : required "name" text richer = .ok c.name := required_of_holds text_reads holds rfl
  have size : required "size_in_kb" int richer = .ok c.sizeKb :=
    required_of_holds int_reads holds rfl
  simp only [CaptureFile.check, record, name, size]
  rfl

/-- The outcome is read wherever it is written. -/
theorem Outcome.check_of_holds {members richer : List (String × Json)} {o : Outcome}
    (holds : Holds members richer)
    (succeeded : lookup? "succeeded" members = some (.bool o.succeeded))
    (error : lookup? "error_message" members = some (.ofText? o.error)) :
    Outcome.check richer = .ok o := by
  rw [Outcome.check, required_of_holds bool_reads holds succeeded,
    withDefault_of_holds optional_text_reads holds error]
  rfl

namespace Response

/-- A response that is written, with whatever members are added, is read as
    itself. -/
theorem ofJson_of_enriched (r : Response) {payload : Json}
    (h : Enriched (.object r.fields) payload) : ofJson r.kind payload = .ok r := by
  obtain ⟨richer, rfl, holds⟩ := h.holds
  rw [ofJson, Checked.titled_eq_ok]
  show checkMembers r.kind richer = .ok r
  -- all responses have an outcome, and all but one a node
  have outcome : Outcome.check richer = .ok r.outcome := by
    cases r <;> exact Outcome.check_of_holds holds rfl rfl
  have node : ∀ {name}, lookup? "node" r.fields = some (.string name) →
      required "node" text richer = .ok name := required_of_holds text_reads holds
  cases r with
  | podCreated | podDeleted | captureStarted =>
      rw [kind, checkMembers, outcome, node rfl]
      rfl
  | nodeChecked o n podRunning running completed =>
      rw [kind, checkMembers, outcome, node rfl,
        withDefault_of_holds (a := podRunning) bool_reads holds rfl,
        withDefault_of_holds (a := running) optional_text_reads holds rfl,
        withDefault_of_holds (a := completed) (list_reads CaptureFile.check_reads) holds rfl]
      rfl
  | captureStopped o n capture =>
      rw [kind, checkMembers, outcome, node rfl, withDefault_of_holds (a := capture)
        (optional_reads CaptureFile.check_reads (by rintro _ ⟨⟩)) holds rfl]
      rfl
  | downloaded o n capture path =>
      rw [kind, checkMembers, outcome, node rfl,
        required_of_holds (a := capture) text_reads holds rfl,
        withDefault_of_holds (a := path) optional_text_reads holds rfl]
      rfl
  | interfacesListed o n names =>
      rw [kind, checkMembers, outcome, node rfl,
        withDefault_of_holds (a := names) (list_reads text_reads) holds rfl]
      rfl
  | nodesListed o names =>
      rw [kind, checkMembers, outcome,
        withDefault_of_holds (a := names) (list_reads text_reads) holds rfl]
      rfl
  | podsListed o n pods =>
      rw [kind, checkMembers, outcome, node rfl,
        withDefault_of_holds (a := pods) (list_reads Pod.check_reads) holds rfl]
      rfl

end Response

/-- Each kind of operation is found by its name. -/
theorem OperationKind.ofName?_name (kind : OperationKind) : ofName? kind.name = some kind := by
  cases kind <;> decide

/-- A response has the same effect on a session in its serialized form, under
    the name of its type and with whatever members are added, as it has
    itself. -/
theorem foldRaw_eq_fold_of_enriched (s : Session) (r : Response) {payload : Json}
    (h : Enriched (.object r.fields) payload) : s.foldRaw r.kind.name payload = s.fold r :=
  s.foldRaw_of_ok r.kind.ofName?_name (r.ofJson_of_enriched h)

/-- A node waits for the end of its capture. -/
def waitingForStop : Session :=
  { cluster := "lab"
    nodes := [("n", { status := .captureStopping, captureName := some "web" })] }

/-- The capture has ended, with more kilobytes than a word can count. -/
def longCapture : CaptureFile := ⟨"web", 36893488147419103232⟩

/-- The report of its end. -/
def longStop : Response := .captureStopped .success "n" (some longCapture)

/-- The capture with the machine that wrote it. -/
def annotatedCapture : Json :=
  .object ([("name", .string "web"), ("size_in_kb", .int 36893488147419103232)]
    ++ [("host", .string "a")])

/-- The end of the capture, and when it came. -/
def annotatedStop : Json :=
  .object ([("succeeded", .bool true), ("error_message", .null), ("node", .string "n"),
    ("capture", annotatedCapture)] ++ [("elapsed", .int 4)])

/-- The annotated end of a capture is folded as the end. -/
theorem foldRaw_annotatedStop :
    Enriched (.object longStop.fields) annotatedStop
      ∧ waitingForStop.foldRaw "stop_capture" annotatedStop = waitingForStop.fold longStop
      ∧ ((waitingForStop.fold longStop).node? "n").map Node.captures
        = some [{ name := "web", sizeKb := 36893488147419103232 }] := by
  have capture : Enriched longCapture.toJson annotatedCapture :=
    .of_members (List.forall₂_same.mpr fun member _ => ⟨rfl, .same member.2⟩) _
  have fields : List.Forall₂ (fun old new => old.1 = new.1 ∧ Enriched old.2 new.2)
      longStop.fields [("succeeded", .bool true), ("error_message", .null), ("node", .string "n"),
        ("capture", annotatedCapture)] := by
    refine .cons ⟨rfl, .same _⟩ (.cons ⟨rfl, .same _⟩ (.cons ⟨rfl, .same _⟩ (.cons ?_ .nil)))
    exact ⟨rfl, capture⟩
  have enriched : Enriched (.object longStop.fields) annotatedStop := .of_members fields _
  exact ⟨enriched, foldRaw_eq_fold_of_enriched _ longStop enriched, by decide +kernel⟩

end NodeCapture
