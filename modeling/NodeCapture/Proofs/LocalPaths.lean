import NodeCapture.System

/-! # Which texts name a local path

    Where there are no links and the working directory is the root, a local path
    is resolved without looking at what is there, but for two things: the text
    may hold no zero character, and the home directory that it starts with, if
    it does, must be known (`LocalPath.resolve_eq_ok_iff`). -/

namespace NodeCapture

/-- The characters of a part are characters of the joined text. -/
theorem mem_intercalate {c : Char} {separator part : List Char} {parts : List (List Char)}
    (h : part ∈ parts) (hc : c ∈ part) : c ∈ separator.intercalate parts := by
  induction parts with
  | nil => cases h
  | cons first rest ih =>
      cases hrest : rest with
      | nil =>
          rw [hrest] at h
          rw [List.intercalate_singleton, ← List.mem_singleton.mp h]
          exact hc
      | cons second more =>
          rw [List.intercalate_cons_cons, ← hrest]
          rcases List.mem_cons.mp h with rfl | hmem
          · exact List.mem_append_left _ (List.mem_append_left _ hc)
          · exact List.mem_append_right _ (ih hmem)

namespace LocalPath

/-- The characters of a component are characters of the path. -/
theorem mem_of_mem_components {text : List Char} {name : String} {c : Char}
    (h : name ∈ components text) (hc : c ∈ name.toList) : c ∈ text := by
  obtain ⟨part, hpart, rfl⟩ := List.mem_map.mp h
  rw [String.toList_ofList] at hc
  have hjoined : ['/'].intercalate (text.splitOn '/') = text := List.intercalate_splitOn '/'
  rw [← hjoined]
  exact mem_intercalate (List.mem_filter.mp hpart).1 hc

/-- A text starts with the home directory of a user. -/
def StartsAtHome (text : String) (user : List Char) : Prop :=
  text.toList.head? ≠ some '/'
    ∧ ∃ first rest, components text.toList = first :: rest ∧ first.toList = '~' :: user

/-- A text names a path: it holds no zero character, and if it starts with a
    home directory, that is known. -/
structure NamesPath (homes : List (String × LocalPath)) (text : String) : Prop where
  noZero : Char.ofNat 0 ∉ text.toList
  home : ∀ user, StartsAtHome text user → ∃ home, (String.ofList user, home) ∈ homes

variable {homes : List (String × LocalPath)} {text : String}

/-- The characters of the user are characters of the text. -/
theorem StartsAtHome.mem {user : List Char} (h : StartsAtHome text user) {c : Char}
    (hc : c ∈ user) : c ∈ text.toList := by
  obtain ⟨-, first, rest, hnames, huser⟩ := h
  have hfirst : first ∈ components text.toList := by
    rw [hnames]
    exact List.mem_cons_self
  refine mem_of_mem_components hfirst ?_
  rw [huser]
  exact List.mem_cons_of_mem _ hc

/-- A text starts at one home at most. -/
theorem StartsAtHome.unique {user user' : List Char} (h : StartsAtHome text user)
    (h' : StartsAtHome text user') : user = user' := by
  obtain ⟨-, first, rest, hnames, huser⟩ := h
  obtain ⟨-, first', rest', hnames', huser'⟩ := h'
  obtain ⟨rfl, -⟩ := List.cons.inj (hnames.symm.trans hnames')
  exact (List.cons.inj (huser.symm.trans huser')).2

/-- Without a home in front, only a zero character is in the way. -/
theorem namesPath_iff_of_not_home (h : ∀ user, ¬StartsAtHome text user) :
    NamesPath homes text ↔ Char.ofNat 0 ∉ text.toList :=
  ⟨fun hpath => hpath.noZero, fun hzero => ⟨hzero, fun user huser => absurd huser (h user)⟩⟩

/-- The home directory of a user is found exactly if it is known. -/
theorem find?_homes_isSome_iff {user : List Char} :
    (∃ found, homes.find? (fun h => h.1 == String.ofList user) = some found)
      ↔ ∃ home, (String.ofList user, home) ∈ homes := by
  constructor
  · rintro ⟨found, hfound⟩
    have hname := List.find?_some hfound
    rw [beq_iff_eq] at hname
    exact ⟨found.2, by rw [← hname]; exact List.mem_of_find?_eq_some hfound⟩
  · rintro ⟨home, hhome⟩
    rw [← Option.isSome_iff_exists, List.find?_isSome]
    exact ⟨_, hhome, beq_self_eq_true _⟩

/-- A text without a zero character keeps what its head stands for. -/
theorem checked_eq_ok_iff {expanded : Except PathFault LocalPath} :
    (∃ found : LocalPath, (match expanded with
      | .error fault => (.error fault : Except PathFault LocalPath)
      | .ok path => if text.toList.contains (Char.ofNat 0) then .error .nullByte else .ok path)
        = .ok found)
      ↔ Char.ofNat 0 ∉ text.toList ∧ ∃ path, expanded = .ok path := by
  cases expanded with
  | error fault => simp
  | ok path => by_cases hzero : Char.ofNat 0 ∈ text.toList <;> simp [hzero]

/-- Of a machine without links it is known which texts can be resolved. -/
theorem resolve_eq_ok_iff : (∃ path, resolve homes text = .ok path) ↔ NamesPath homes text := by
  rw [resolve]
  refine Iff.trans checked_eq_ok_iff ?_
  cases hnames : components text.toList with
  | nil =>
      have hno : ∀ user, ¬StartsAtHome text user := by
        rintro user ⟨-, first, rest, hfirst, -⟩
        rw [hnames] at hfirst
        cases hfirst
      rw [namesPath_iff_of_not_home hno]
      exact and_iff_left ⟨_, rfl⟩
  | cons first rest =>
      dsimp only
      split
      · next hroot =>
          rw [namesPath_iff_of_not_home (fun _ huser => huser.1 hroot)]
          exact and_iff_left ⟨_, rfl⟩
      · next user huser hrelative =>
          have hstarts : StartsAtHome text user := ⟨hrelative, first, rest, hnames, huser⟩
          have hhome : NamesPath homes text
              ↔ Char.ofNat 0 ∉ text.toList ∧ ∃ home, (String.ofList user, home) ∈ homes := by
            constructor
            · intro hpath
              exact ⟨hpath.noZero, hpath.home user hstarts⟩
            · rintro ⟨hzero, hknown⟩
              refine ⟨hzero, ?_⟩
              intro user' hstarts'
              rw [← hstarts.unique hstarts']
              exact hknown
          rw [hhome]
          -- the user is looked up as written only because its name holds no zero character
          refine and_congr_right fun hzero => ?_
          rw [if_neg (mt (fun h => hstarts.mem (List.contains_iff_mem.mp h)) hzero),
            ← find?_homes_isSome_iff]
          cases homes.find? (fun h => h.1 == String.ofList user) with
          | none => simp
          | some home => simp
      · next hother =>
          have hno : ∀ user, ¬StartsAtHome text user := by
            rintro user ⟨-, first', rest', hnames', huser'⟩
            obtain ⟨rfl, -⟩ := List.cons.inj (hnames.symm.trans hnames')
            exact hother user huser'
          rw [namesPath_iff_of_not_home hno]
          exact and_iff_left ⟨_, rfl⟩

end LocalPath

end NodeCapture
