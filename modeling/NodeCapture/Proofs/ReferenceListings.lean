import Mathlib.Data.List.DropRight
import Mathlib.Data.List.TakeDrop
import NodeCapture.Proofs.Lines

/-! # Listings of pods and interfaces

    What can be chosen for a filter is read from two listings, with one line for
    each pod and for each interface.  A line of pods has three columns, of which
    the last two may be empty; as each line is stripped before it is cut apart,
    the empty columns at its end are missing then (`strip_columns`).  A line of
    interfaces has a number in front of the name, and possibly more behind it.

    `PodLine` and `InterfaceLine` are what such a line can show.  Each of them
    is read back from its text, and so are the listings
    (`reference_listings_read_back`): the pods that a filter can tell apart, and
    all interfaces, in their order. -/

namespace NodeCapture

/-! ## Printed lines -/

/-- A text of lines with a line feed behind each, or behind each but the last. -/
inductive PrintsLines : List (List Char) → List Char → Prop where
  | none : PrintsLines [] []
  | unended (line : List Char) : PrintsLines [line] line
  | ended (line : List Char) {lines : List (List Char)} {text : List Char}
      (more : PrintsLines lines text) : PrintsLines (line :: lines) (line ++ '\n' :: text)

/-- Lines are printed with a line feed behind each. -/
theorem printsLines_flatMap (lines : List (List Char)) :
    PrintsLines lines (lines.flatMap (fun line => line ++ ['\n'])) := by
  induction lines with
  | nil => exact .none
  | cons line lines ih =>
      rw [List.flatMap_cons, List.append_assoc]
      exact .ended line ih

/-- A text that no line ends in. -/
def IsUnbroken (text : List Char) : Prop := ∀ c ∈ text, isLineBoundary c = false

instance (text : List Char) : Decidable (IsUnbroken text) :=
  decidable_of_iff (text.any isLineBoundary = false) (by simp [IsUnbroken])

/-- A line with something in it. -/
def IsLine (line : List Char) : Prop := line ≠ [] ∧ IsUnbroken line

/-- What ends a line is a blank. -/
theorem isBlank_of_isLineBoundary {c : Char} (h : isLineBoundary c = true) : isBlank c = true := by
  simp only [isLineBoundary, Bool.or_eq_true, Bool.and_eq_true, decide_eq_true_eq, beq_iff_eq] at h
  simp only [isBlank, isWhiteSpace, Bool.or_eq_true, Bool.and_eq_true, decide_eq_true_eq,
    beq_iff_eq]
  omega

/-- No line ends in a text without blanks. -/
theorem IsSolid.isUnbroken {text : List Char} (h : IsSolid text) : IsUnbroken text := by
  intro c hc
  rw [Bool.eq_false_iff]
  intro hboundary
  cases (h c hc).symm.trans (isBlank_of_isLineBoundary hboundary)

/-- A line feed ends the line in front of it. -/
theorem splitLines_append_feed {line : List Char} (h : IsUnbroken line) (text : List Char) :
    splitLines (line ++ '\n' :: text) = line :: splitLines text := by
  induction line with
  | nil =>
      rw [List.nil_append, splitLines.eq_3 _ _ (by simp)]
      exact if_pos (by decide)
  | cons c line ih =>
      rw [List.cons_append, splitLines_other (h c List.mem_cons_self),
        ih (fun d hd => h d (List.mem_cons_of_mem _ hd))]
      rfl

/-- One line is split into itself. -/
theorem splitLines_of_isLine {line : List Char} (h : IsLine line) : splitLines line = [line] := by
  obtain ⟨hne, hline⟩ := h
  induction line with
  | nil => exact absurd rfl hne
  | cons c line ih =>
      rw [splitLines_other (hline c List.mem_cons_self)]
      cases line with
      | nil => simp [splitLines]
      | cons d line =>
          rw [ih (List.cons_ne_nil d line) (fun e he => hline e (List.mem_cons_of_mem _ he))]
          rfl

/-- Printed lines are cut apart again. -/
theorem PrintsLines.splitLines_eq {lines : List (List Char)} {text : List Char}
    (h : PrintsLines lines text) (hlines : ∀ line ∈ lines, IsLine line) :
    splitLines text = lines := by
  induction h with
  | none => simp [splitLines]
  | unended line => exact splitLines_of_isLine (hlines line List.mem_cons_self)
  | ended line more ih =>
      rw [splitLines_append_feed (hlines line List.mem_cons_self).2,
        ih (fun line' hline' => hlines line' (List.mem_cons_of_mem _ hline'))]

/-- What is read from printed lines is what is read from each of them. -/
theorem filterMap_recordLines {α : Type} {read : List Char → Option α} {lines : List (List Char)}
    {output : String} (h : PrintsLines lines output.toList) (hlines : ∀ line ∈ lines, IsLine line)
    (hheld : ∀ line ∈ lines, strip line ≠ []) :
    (recordLines output.toList).filterMap read
      = lines.filterMap (fun line => read (strip line)) := by
  have hall : (lines.map strip).filter (fun line => !line.isEmpty) = lines.map strip := by
    rw [List.filter_eq_self]
    intro line hline
    obtain ⟨text, htext, rfl⟩ := List.mem_map.mp hline
    simpa using hheld text htext
  rw [recordLines_eq, h.splitLines_eq hlines, heldLines, hall, List.filterMap_map]
  rfl

/-! ## Columns -/

/-- A text that has no blanks at its ends is kept. -/
theorem strip_of_ends {text : List Char} (hne : text ≠ [])
    (hfirst : ∀ c, text.head? = some c → isBlank c = false)
    (hlast : ∀ c, text.getLast? = some c → isBlank c = false) : strip text = text := by
  obtain ⟨kept, hkept, hstrip⟩ := strip_append_of_ends hne hfirst hlast []
  rw [List.prefix_nil.mp hkept, List.append_nil] at hstrip
  exact hstrip

/-- The last column stands behind the others. -/
theorem intercalate_concat (sep first : List Char) (more : List (List Char)) (last : List Char) :
    sep.intercalate (first :: (more ++ [last]))
      = sep.intercalate (first :: more) ++ (sep ++ last) := by
  induction more generalizing first with
  | nil => simp
  | cons next more ih =>
      rw [List.cons_append, List.intercalate_cons_cons, ih, List.intercalate_cons_cons]
      simp [List.append_assoc]

/-- The first column stands in front. -/
theorem prefix_intercalate (sep first : List Char) (more : List (List Char)) :
    first <+: sep.intercalate (first :: more) := by
  cases more with
  | nil => exact ⟨[], by rw [List.append_nil, List.intercalate_singleton]⟩
  | cons next more =>
      rw [List.intercalate_cons_cons, List.append_assoc]
      exact List.prefix_append _ _

/-- A character of joined columns is one of the separator or of a column. -/
theorem mem_of_mem_intercalate {sep : List Char} {columns : List (List Char)} {c : Char}
    (h : c ∈ sep.intercalate columns) : c ∈ sep ∨ ∃ column ∈ columns, c ∈ column := by
  induction columns with
  | nil => exact absurd h (by simp)
  | cons first more ih =>
      cases more with
      | nil =>
          rw [List.intercalate_singleton] at h
          exact Or.inr ⟨first, List.mem_cons_self, h⟩
      | cons next more =>
          rw [List.intercalate_cons_cons, List.append_assoc, List.mem_append, List.mem_append] at h
          rcases h with h | h | h
          · exact Or.inr ⟨first, List.mem_cons_self, h⟩
          · exact Or.inl h
          · refine (ih h).imp_right ?_
            rintro ⟨column, hcolumn, hc⟩
            exact ⟨column, List.mem_cons_of_mem _ hcolumn, hc⟩

/-- The empty columns at the end of a line are stripped from it. -/
theorem strip_columns {first : List Char} (hne : first ≠ []) {more : List (List Char)}
    (hsolid : ∀ column ∈ first :: more, IsSolid column) :
    strip (['\t'].intercalate (first :: more))
      = ['\t'].intercalate (first :: more.rdropWhile List.isEmpty) := by
  -- the columns are taken off at the end, one after another
  induction more using List.reverseRecOn with
  | nil =>
      rw [List.rdropWhile_nil, List.intercalate_singleton]
      exact trim_eq_self (hsolid first List.mem_cons_self)
  | append_singleton more last ih =>
      rw [intercalate_concat]
      by_cases hlast : last = []
      · subst hlast
        rw [List.append_nil, strip_append_right (by decide), List.rdropWhile_concat_pos _ _ _ rfl]
        refine ih fun column hcolumn => hsolid column ?_
        rw [← List.cons_append]
        exact List.mem_append_left _ hcolumn
      · rw [List.rdropWhile_concat_neg _ _ _ (by simpa using hlast), intercalate_concat]
        have hends : IsSolid last := hsolid last (by simp)
        obtain ⟨rest, hrest⟩ := prefix_intercalate ['\t'] first more
        refine strip_of_ends (by simp) ?_ ?_
        · rw [← hrest, List.append_assoc]
          exact (hsolid first List.mem_cons_self).head?_append hne _
        · rw [← List.append_assoc]
          exact hends.getLast?_append hlast _

/-! ## Pods -/
/-- Whether a pod is on the network of its node, as a pod can say it. -/
inductive HostNetwork where
  | unset
  | shared
  | separate
  deriving DecidableEq

/-- How it is printed. -/
def HostNetwork.text : HostNetwork → String
  | unset => ""
  | shared => "true"
  | separate => "false"

/-- A pod in a listing. -/
structure PodLine where
  name : String
  address : String
  network : HostNetwork
  named : name ≠ ""
  name_solid : IsSolid name.toList
  address_solid : IsSolid address.toList

namespace PodLine

variable (p : PodLine)

/-- The columns behind the name. -/
def columns : List (List Char) := [p.address.toList, p.network.text.toList]

/-- The line of a pod. -/
def text : List Char := ['\t'].intercalate (p.name.toList :: p.columns)

/-- A pod can be told apart by its traffic. -/
def Traceable : Prop := p.address ≠ "" ∧ p.network ≠ .shared

instance : Decidable p.Traceable := inferInstanceAs (Decidable (_ ∧ _))

/-- What a reader of the listing should find. -/
def pod : Pod := ⟨p.name, p.address⟩

theorem toList_name_ne : p.name.toList ≠ [] := fun h => p.named (String.toList_eq_nil_iff.mp h)

/-- No column of a pod has blanks. -/
theorem isSolid_columns : ∀ column ∈ p.name.toList :: p.columns, IsSolid column := by
  intro column hcolumn
  simp only [columns, List.mem_cons, List.not_mem_nil, or_false] at hcolumn
  rcases hcolumn with rfl | rfl | rfl
  · exact p.name_solid
  · exact p.address_solid
  · cases p.network <;> decide

/-- The text of a pod is one line. -/
theorem isLine_text : IsLine p.text := by
  refine ⟨?_, ?_⟩
  · intro hempty
    have hprefix := prefix_intercalate ['\t'] p.name.toList p.columns
    rw [← text, hempty, List.prefix_nil] at hprefix
    exact p.toList_name_ne hprefix
  · intro c hc
    rcases mem_of_mem_intercalate hc with htab | ⟨column, hcolumn, hc⟩
    · rw [List.mem_singleton.mp htab]
      decide
    · exact (p.isSolid_columns column hcolumn).isUnbroken c hc

/-- The columns that are left are cut apart. -/
theorem splitOn_strip_text :
    (strip p.text).splitOn '\t' = p.name.toList :: p.columns.rdropWhile List.isEmpty := by
  rw [text, strip_columns p.toList_name_ne p.isSolid_columns,
    List.splitOn_intercalate '\t' _ (List.cons_ne_nil _ _)]
  intro column hcolumn htab
  have hmem : column ∈ p.name.toList :: p.columns := by
    rcases List.mem_cons.mp hcolumn with rfl | hcolumn
    · exact List.mem_cons_self
    · exact List.mem_cons_of_mem _ ((List.rdropWhile_prefix _ _).subset hcolumn)
  cases p.isSolid_columns column hmem '\t' htab

/-- Something is left of the line of a pod. -/
theorem strip_text_ne : strip p.text ≠ [] := by
  intro hempty
  have hcolumns := p.splitOn_strip_text
  rw [hempty] at hcolumns
  exact p.toList_name_ne (List.cons.inj hcolumns).1.symm

/-- A pod is read from its line if it can be told apart by its traffic. -/
theorem readPod_strip_text :
    readPod (strip p.text) = if p.Traceable then some p.pod else none := by
  rw [readPod, p.splitOn_strip_text]
  by_cases haddress : p.address = ""
  · cases hnetwork : p.network <;>
      simp [columns, List.rdropWhile, Traceable, haddress, hnetwork, HostNetwork.text]
  · cases hnetwork : p.network <;>
      simp [columns, List.rdropWhile, Traceable, haddress, hnetwork, HostNetwork.text, pod]

end PodLine

/-! ## Interfaces -/

/-- An interface in a listing, with its number and possibly a text behind it. -/
structure InterfaceLine where
  index : List Char
  name : String
  more : Option (List Char) := none
  numbered : index ≠ []
  index_decimal : ∀ c ∈ index, isDecimal c = true
  named : name ≠ ""
  name_solid : IsSolid name.toList
  unbroken : ∀ text, more = some text → IsUnbroken text

namespace InterfaceLine

variable (i : InterfaceLine)

/-- What stands behind the name. -/
def tail : List Char := (i.more.map (' ' :: ·)).getD []

/-- The number and the name of an interface. -/
def entry : List Char := i.index ++ '.' :: i.name.toList

/-- The line of an interface. -/
def text : List Char := i.entry ++ i.tail

theorem toList_name_ne : i.name.toList ≠ [] := fun h => i.named (String.toList_eq_nil_iff.mp h)

/-- The entry of an interface has no blanks. -/
theorem isSolid_entry : IsSolid i.entry := by
  refine IsSolid.append ?_ ?_
  · intro c hc
    refine isBlank_of_isDigitSymbol ?_
    rw [isDigitSymbol, i.index_decimal c hc]
    rfl
  · exact List.forall_mem_cons.mpr ⟨by decide, i.name_solid⟩

/-- The text of an interface is one line. -/
theorem isLine_text : IsLine i.text := by
  refine ⟨by simp [text, entry], ?_⟩
  refine List.forall_mem_append.mpr ⟨i.isSolid_entry.isUnbroken, ?_⟩
  intro c hc
  cases hmore : i.more with
  | none =>
      rw [tail, hmore] at hc
      cases hc
  | some more =>
      rw [tail, hmore] at hc
      rcases List.mem_cons.mp hc with rfl | hc
      · decide
      · exact i.unbroken more hmore c hc

/-- What stands behind the name is stripped at its end, and still begins with a
    blank unless nothing is left of it. -/
theorem strip_text : ∃ kept, (∀ c, kept.head? = some c → isBlank c = true)
    ∧ strip i.text = i.entry ++ kept := by
  have hentry : i.entry ≠ [] := by simp [entry]
  have hfirst := i.isSolid_entry.head?_append hentry []
  have hlast := i.isSolid_entry.getLast?_append hentry []
  rw [List.append_nil] at hfirst
  obtain ⟨kept, ⟨rest, hkept⟩, hstrip⟩ := strip_append_of_ends hentry hfirst hlast i.tail
  refine ⟨kept, ?_, hstrip⟩
  intro c hc
  have htail : i.tail.head? = some c := by rw [← hkept, List.head?_append, hc]; rfl
  cases hmore : i.more with
  | none =>
      rw [tail, hmore] at htail
      cases htail
  | some more =>
      rw [tail, hmore] at htail
      cases htail
      decide

/-- Something is left of the line of an interface. -/
theorem strip_text_ne : strip i.text ≠ [] := by
  obtain ⟨kept, -, hstrip⟩ := i.strip_text
  rw [hstrip]
  simp [entry]

/-- An interface is read from its line. -/
theorem readInterface_strip_text : readInterface (strip i.text) = some i.name := by
  obtain ⟨kept, hkept, hstrip⟩ := i.strip_text
  have hspan : (strip i.text).span isDecimal = (i.index, '.' :: (i.name.toList ++ kept)) := by
    have htext : strip i.text = i.index ++ '.' :: (i.name.toList ++ kept) := by
      rw [hstrip, entry, List.append_assoc, List.cons_append]
    have hpoint : isDecimal '.' = false := by decide
    rw [htext, List.span_eq_takeWhile_dropWhile, List.takeWhile_append_of_pos i.index_decimal,
      List.dropWhile_append_of_pos i.index_decimal, List.takeWhile_cons_of_neg (by simp [hpoint]),
      List.dropWhile_cons_of_neg (by simp [hpoint]), List.append_nil]
  obtain ⟨digit, digits, hindex⟩ := List.exists_cons_of_ne_nil i.numbered
  obtain ⟨c, name, hname⟩ := List.exists_cons_of_ne_nil i.toList_name_ne
  rw [readInterface, hspan, hindex]
  split
  · next _ _ _ heq =>
      cases heq
      rw [(i.name_solid.takeWhile_dropWhile hkept).1]
      simp only [hname]
      rw [← hname, String.ofList_toList]
  · next hother => exact absurd rfl (hother digit digits (i.name.toList ++ kept))

end InterfaceLine

/-! ## Both listings -/

/-- The listings of the reference data are read back from what is printed.  Of
    the pods, those that can be told apart by their traffic are read, with their
    names and addresses and in their order; of the interfaces, all names are. -/
theorem reference_listings_read_back :
    (∀ (pods : List PodLine) (output : String), PrintsLines (pods.map PodLine.text) output.toList →
        readPods output = (pods.filter (fun p => p.Traceable)).map PodLine.pod)
      ∧ ∀ (interfaces : List InterfaceLine) (output : String),
        PrintsLines (interfaces.map InterfaceLine.text) output.toList →
          readInterfaces output = interfaces.map InterfaceLine.name := by
  refine ⟨?_, ?_⟩
  · intro pods output hprints
    rw [readPods, filterMap_recordLines hprints (by simp [PodLine.isLine_text])
      (by simp [PodLine.strip_text_ne]), List.filterMap_map, ← List.filterMap_eq_map,
      List.filterMap_filter]
    refine List.filterMap_congr fun p _ => ?_
    simpa using p.readPod_strip_text
  · intro interfaces output hprints
    rw [readInterfaces, filterMap_recordLines hprints (by simp [InterfaceLine.isLine_text])
      (by simp [InterfaceLine.strip_text_ne]), List.filterMap_map, ← List.filterMap_eq_map]
    exact List.filterMap_congr fun i _ => i.readInterface_strip_text

/-- Four pods, of which one has no address yet and one is on the network of its
    node. -/
def clusterPods : List PodLine :=
  [⟨"web", "10.0.0.1", .unset, by decide, by decide, by decide⟩,
    ⟨"agent", "10.0.1.7", .shared, by decide, by decide, by decide⟩,
    ⟨"pending", "", .unset, by decide, by decide, by decide⟩,
    ⟨"db", "10.0.0.2", .separate, by decide, by decide, by decide⟩]

/-- Three interfaces, of which one has a point in its name. -/
def nodeInterfaces : List InterfaceLine :=
  [⟨"1".toList, "eth0", some "[Up, Running]".toList, by decide, List.all_eq_true.mp (by decide),
      by decide, by decide, by rintro _ ⟨⟩; decide⟩,
    ⟨"2".toList, "eth0.100", none, by decide, List.all_eq_true.mp (by decide),
      by decide, by decide, by rintro _ ⟨⟩⟩,
    ⟨"10".toList, "any", some "(Pseudo-device) ".toList, by decide, List.all_eq_true.mp (by decide),
      by decide, by decide, by rintro _ ⟨⟩; decide⟩]

/-- The listings of these pods and interfaces are read back. -/
theorem reference_listings_read_back_cluster :
    readPods "web\t10.0.0.1\t\nagent\t10.0.1.7\ttrue\npending\t\t\ndb\t10.0.0.2\tfalse\n"
        = [⟨"web", "10.0.0.1"⟩, ⟨"db", "10.0.0.2"⟩]
      ∧ readInterfaces "1.eth0 [Up, Running]\n2.eth0.100\n10.any (Pseudo-device) \n"
        = ["eth0", "eth0.100", "any"] := by
  obtain ⟨hpods, hinterfaces⟩ := reference_listings_read_back
  refine ⟨hpods clusterPods _ ?_, hinterfaces nodeInterfaces _ ?_⟩
  · exact printsLines_flatMap (clusterPods.map PodLine.text)
  · exact printsLines_flatMap (nodeInterfaces.map InterfaceLine.text)

end NodeCapture
