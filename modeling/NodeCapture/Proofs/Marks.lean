import NodeCapture.Proofs.Folding
import NodeCapture.Proofs.Intents

/-! # Marks of downloads

    A capture that is being downloaded is marked in the list of its node.
    Names need not be unique there; the capture that goes by a name is the
    first one that has it.  Of what may happen to a node, only the end of its
    own download, a check that ends well and the deletion of the debug pod
    take a mark away. -/

namespace NodeCapture

namespace Node

/-- The capture that goes by a name is marked as being downloaded. -/
def Marks (n : Node) (capture : String) : Prop :=
  ∃ c, n.captures.find? (fun c => c.name == capture) = some c ∧ c.status = .downloading

variable {n n' : Node} {capture other : String}

/-- A new node marks no download. -/
theorem not_marks_empty : ¬ Marks {} capture := by
  rintro ⟨c, hfound, -⟩
  cases hfound

/-- What a node marks is told by its captures. -/
theorem Marks.of_captures (h : n.Marks capture) (hcaptures : n'.captures = n.captures) :
    n'.Marks capture := by
  rw [Marks, hcaptures]
  exact h

/-- A capture that is found idle is not marked. -/
theorem not_marks_of_found {c : Capture}
    (hfound : n.captures.find? (fun c => c.name == capture) = some c)
    (hidle : c.status ≠ .downloading) : ¬ n.Marks capture := by
  rintro ⟨c', hfound', hstatus⟩
  rw [hfound] at hfound'
  exact hidle (Option.some.inj hfound' ▸ hstatus)

/-- Where no capture is being downloaded, none is marked. -/
theorem not_marks_of_idle (idle : ∀ c ∈ n.captures, c.status ≠ .downloading) :
    ¬ n.Marks capture := by
  rintro ⟨c, hfound, hstatus⟩
  exact idle c (List.mem_of_find?_eq_some hfound) hstatus

/-- A new capture at the end of the list does not take a name over. -/
theorem Marks.append (h : n.Marks capture) {more : List Capture}
    (hcaptures : n'.captures = n.captures ++ more) : n'.Marks capture := by
  obtain ⟨c, hfound, hstatus⟩ := h
  refine ⟨c, ?_, hstatus⟩
  rw [hcaptures, List.find?_append, hfound]
  rfl

/-- A change of the captures of a name, seen at any name. -/
theorem find?_updateCapture (n : Node) {f : Capture → Capture} (hf : ∀ c, (f c).name = c.name)
    (capture other : String) :
    (n.updateCapture capture f).captures.find? (fun c => c.name == other)
      = (n.captures.find? (fun c => c.name == other)).map
          (fun c => if other = capture then f c else c) := by
  have hname : ∀ c : Capture, (if c.name = capture then f c else c).name = c.name := by
    intro c
    split
    · exact hf c
    · rfl
  show (n.captures.map _).find? _ = _
  induction n.captures with
  | nil => rfl
  | cons c rest ih =>
      rw [List.map_cons, List.find?_cons, List.find?_cons, hname]
      by_cases hc : c.name = other
      · simp [hc]
      · have hne : (c.name == other) = false := by simpa using hc
        simp only [hne]
        exact ih

/-- A change of the captures of another name leaves a mark alone. -/
theorem Marks.updateCapture {f : Capture → Capture} (h : n.Marks other)
    (hf : ∀ c, (f c).name = c.name) (hother : other ≠ capture) :
    (n.updateCapture capture f).Marks other := by
  obtain ⟨c, hfound, hstatus⟩ := h
  refine ⟨c, ?_, hstatus⟩
  rw [find?_updateCapture n hf, hfound, Option.map_some, if_neg hother]

/-- A download marks its capture. -/
theorem marks_markDownloading {c : Capture}
    (hfound : n.captures.find? (fun c => c.name == capture) = some c) :
    (n.markDownloading capture).Marks capture := by
  refine ⟨{ c with status := .downloading }, ?_, rfl⟩
  rw [markDownloading, find?_updateCapture, hfound, Option.map_some, if_pos rfl]
  intro _
  rfl

end Node

open Node

/-- A request leaves marks alone, and a download adds one. -/
theorem Request.mark_marks {q : Request} {n : Node} {capture : String} (h : n.Marks capture) :
    (q.mark n).Marks capture := by
  cases q with
  | download node downloaded path =>
      by_cases hcapture : capture = downloaded
      · subst hcapture
        obtain ⟨c, hfound, -⟩ := h
        exact marks_markDownloading hfound
      · exact h.updateCapture (fun _ => rfl) hcapture
  | _ => exact h.of_captures rfl

/-- Settling another operation than a download leaves marks alone, except where
    a check ends well and where the debug pod was deleted. -/
theorem Response.update_marks {r : Response} {n : Node} {capture : String}
    (h : n.Marks capture) (hdownload : r.kind ≠ .download)
    (hcheck : ¬ (r.kind = .checkNode ∧ r.outcome.succeeded = true))
    (hdelete : r.kind ≠ .deletePod) : (r.update n).Marks capture := by
  cases r with
  | nodeChecked o node podRunning running completed =>
      have hfailed : o.succeeded = false := Bool.eq_false_iff.mpr (fun hok => hcheck ⟨rfl, hok⟩)
      simp only [update, settleCheck, hfailed]
      exact h.of_captures rfl
  | podCreated o node =>
      simp only [update, settleCreation]
      split <;> exact h.of_captures rfl
  | podDeleted => exact absurd rfl hdelete
  | captureStarted o node =>
      simp only [update, settleStart]
      split <;> exact h.of_captures rfl
  | captureStopped o node capture =>
      simp only [update, settleStop]
      split
      · split
        · split
          · exact h.append rfl
          · exact h.of_captures rfl
        · exact h.of_captures rfl
      · exact h.of_captures rfl
  | downloaded => exact absurd rfl hdownload
  | interfacesListed o node names =>
      simp only [update, settleInterfaces]
      split <;> exact h.of_captures rfl
  | nodesListed o names => exact h
  | podsListed o node pods =>
      simp only [update]
      split
      · exact h
      · exact h.of_captures rfl

/-- A response to another operation than a download leaves marks alone, except
    where a check ends well and where the debug pod was deleted. -/
theorem Response.effect_marks {r : Response} {node : String} {n : Node} {capture : String}
    (h : n.Marks capture) (hdownload : r.kind ≠ .download)
    (hcheck : ¬ (r.kind = .checkNode ∧ r.outcome.succeeded = true))
    (hstatus : n.status ≠ .deletingPod) : (r.effect node n).Marks capture := by
  rw [effect]
  rcases awaiting_cases r.kind node r.update n with ⟨hsame, hwaits⟩ | ⟨awaited, text, -, -, herror⟩
  · rw [hsame]
    exact update_marks h hdownload hcheck (fun hdeletes => hstatus (hwaits _ (hdeletes ▸ rfl)))
  · rw [herror]
    exact h.of_captures rfl

/-- The end of a download leaves the marks of other captures alone. -/
theorem Response.effect_downloaded_marks {o : Outcome} {node capture other : String}
    {path : Option String} {n : Node} (h : n.Marks other) (hother : other ≠ capture) :
    ((Response.downloaded o node capture path).effect node n).Marks other := by
  show (n.settleDownload o capture path).Marks other
  rw [settleDownload]
  split
  · refine (h.updateCapture ?_ hother).of_captures rfl
    exact fun _ => rfl
  · refine (h.updateCapture ?_ hother).of_captures rfl
    exact fun _ => rfl

/-- A capture that a node has after an operation was settled was there before
    and is none whose download ended, or it is completed, or it was
    downloaded. -/
theorem Response.mem_captures_update {r : Response} {n : Node} {c : Capture}
    (hc : c ∈ (r.update n).captures) :
    (c ∈ n.captures ∧ ∀ o node path, r ≠ .downloaded o node c.name path)
      ∨ c.status = .completed
      ∨ (c.status = .downloaded
          ∧ ∃ o node path, r = .downloaded o node c.name path ∧ o.succeeded = true) := by
  cases r with
  | nodeChecked o node podRunning running completed =>
      simp only [update, settleCheck] at hc
      split at hc
      · obtain ⟨file, -, rfl⟩ := List.mem_map.mp hc
        exact Or.inr (Or.inl rfl)
      · exact Or.inl ⟨hc, by rintro _ _ _ ⟨⟩⟩
  | podCreated o node =>
      simp only [update, settleCreation] at hc
      split at hc <;> exact Or.inl ⟨hc, by rintro _ _ _ ⟨⟩⟩
  | podDeleted o node =>
      simp only [update, settleDeletion] at hc
      split at hc <;> exact absurd hc List.not_mem_nil
  | captureStarted o node =>
      simp only [update, settleStart] at hc
      split at hc <;> exact Or.inl ⟨hc, by rintro _ _ _ ⟨⟩⟩
  | captureStopped o node capture =>
      simp only [update, settleStop] at hc
      split at hc
      · split at hc
        · split at hc
          · rcases List.mem_append.mp hc with hc | hc
            · exact Or.inl ⟨hc, by rintro _ _ _ ⟨⟩⟩
            · obtain rfl := List.mem_singleton.mp hc
              exact Or.inr (Or.inl rfl)
          · exact Or.inl ⟨hc, by rintro _ _ _ ⟨⟩⟩
        · exact Or.inl ⟨hc, by rintro _ _ _ ⟨⟩⟩
      · exact Or.inl ⟨hc, by rintro _ _ _ ⟨⟩⟩
  | downloaded o node capture path =>
      -- a download does not touch the captures of other names
      have other : ∀ {before : Capture}, before ∈ n.captures → before.name ≠ capture →
          (before ∈ n.captures ∧ ∀ o' node' path', Response.downloaded o node capture path
            ≠ .downloaded o' node' before.name path') :=
        fun hbefore hname => ⟨hbefore, fun _ _ _ h => hname (Response.downloaded.inj h).2.2.1.symm⟩
      cases hok : o.succeeded with
      | true =>
          simp only [update, settleDownload, hok, if_true] at hc
          obtain ⟨before, hbefore, rfl⟩ := List.mem_map.mp hc
          split
          · next hname => exact Or.inr (Or.inr ⟨rfl, o, node, path, by rw [← hname], hok⟩)
          · next hname => exact Or.inl (other hbefore hname)
      | false =>
          simp only [update, settleDownload, hok, Bool.false_eq_true, if_false] at hc
          obtain ⟨before, hbefore, rfl⟩ := List.mem_map.mp hc
          split
          · exact Or.inr (Or.inl rfl)
          · next hname => exact Or.inl (other hbefore hname)
  | interfacesListed o node names =>
      simp only [update, settleInterfaces] at hc
      split at hc <;> exact Or.inl ⟨hc, by rintro _ _ _ ⟨⟩⟩
  | nodesListed o names => exact Or.inl ⟨hc, by rintro _ _ _ ⟨⟩⟩
  | podsListed o node pods =>
      simp only [update] at hc
      split at hc <;> exact Or.inl ⟨hc, by rintro _ _ _ ⟨⟩⟩

/-- A capture behind a response was there before, or is completed, or downloaded
    by it. -/
theorem Response.mem_captures_effect {r : Response} {node : String} {n : Node} {c : Capture}
    (hc : c ∈ (r.effect node n).captures) :
    (c ∈ n.captures ∧ ∀ o name path, r ≠ .downloaded o name c.name path)
      ∨ c.status = .completed
      ∨ (c.status = .downloaded
          ∧ ∃ o name path, r = .downloaded o name c.name path ∧ o.succeeded = true) := by
  rw [effect] at hc
  rcases awaiting_cases r.kind node r.update n with ⟨hsame, -⟩ | ⟨awaited, text, hkind, -, herror⟩
  · rw [hsame] at hc
    exact mem_captures_update hc
  · rw [herror] at hc
    refine Or.inl ⟨hc, ?_⟩
    rintro o name path rfl
    cases hkind

end NodeCapture
