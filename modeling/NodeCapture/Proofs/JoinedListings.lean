import NodeCapture.Proofs.Lines

/-! # Listings that stand under one another

    A line feed between two texts keeps their lines apart, whatever blanks and
    line boundaries the first one ends with and the second one begins with
    (`recordLines_append`).  A listing is read one line after another, and no
    line is looked at together with its neighbours (`readRecords_append`).

    So every listing is read in parts: two texts under one another give what
    the first one gives and then what the second one gives, and a line that is
    not recognised changes nothing about the others
    (`listings_read_in_parts`). -/

namespace NodeCapture

/-- A line feed behind a text ends its last line, and also where it makes one
    boundary with a carriage return there. -/
theorem splitLines_append_lineFeed (text more : List Char) :
    (splitLines (text ++ '\n' :: more)).headD [] = (splitLines text).headD []
      ∧ heldLines (splitLines (text ++ '\n' :: more)).tail
        = heldLines (splitLines text).tail ++ heldLines (splitLines more) := by
  -- the first line is kept apart from the others, since a character is put in front of it
  induction text with
  | nil =>
      have hfeed : splitLines ('\n' :: more) = [] :: splitLines more := by
        rw [splitLines.eq_3 _ _ (by simp)]
        exact if_pos (by decide)
      rw [List.nil_append, hfeed, splitLines]
      exact ⟨rfl, rfl⟩
  | cons c rest ih =>
      cases hboundary : isLineBoundary c with
      | true =>
          obtain ⟨lines, hlines, hheld⟩ := splitLines_boundary hboundary (rest ++ '\n' :: more)
          obtain ⟨lines', hlines', hheld'⟩ := splitLines_boundary hboundary rest
          rw [List.cons_append, hlines, hlines']
          refine ⟨rfl, ?_⟩
          calc heldLines lines
              = heldLines [(splitLines rest).headD []]
                ++ (heldLines (splitLines rest).tail ++ heldLines (splitLines more)) := by
                rw [hheld, heldLines_eq_headD_tail, ih.1, ih.2]
            _ = heldLines lines' ++ heldLines (splitLines more) := by
                rw [← List.append_assoc, ← heldLines_eq_headD_tail, hheld']
      | false =>
          rw [List.cons_append, splitLines_other hboundary, splitLines_other hboundary]
          exact ⟨congrArg (c :: ·) ih.1, ih.2⟩

/-- Two texts with a line feed between them hold the records of both. -/
theorem recordLines_append (text more : List Char) :
    recordLines (text ++ '\n' :: more) = recordLines text ++ recordLines more := by
  obtain ⟨hfirst, hrest⟩ := splitLines_append_lineFeed text more
  rw [recordLines_eq, recordLines_eq, recordLines_eq, heldLines_eq_headD_tail, hfirst, hrest,
    ← List.append_assoc, ← heldLines_eq_headD_tail]

/-- Two texts with a line feed between them, as a list of characters. -/
theorem toList_join_lineFeed (a b : String) :
    (a ++ "\n" ++ b).toList = a.toList ++ '\n' :: b.toList := by
  rw [String.toList_append, String.toList_append, List.append_assoc]
  rfl

/-- Lines are read one after another. -/
theorem readRecords_append {α ε : Type} (read : List Char → Except ε (Option α))
    (lines more : List (List Char)) :
    readRecords read (lines ++ more)
      = (do return (← readRecords read lines) ++ (← readRecords read more)) := by
  induction lines with
  | nil =>
      show readRecords read more = (readRecords read more).bind fun found => .ok found
      cases readRecords read more <;> rfl
  | cons line lines ih =>
      rw [List.cons_append, readRecords, readRecords]
      cases read line with
      | error e => rfl
      | ok found =>
          cases found with
          | none => exact ih
          | some a =>
              dsimp only
              rw [ih]
              cases readRecords read lines with
              | error e => rfl
              | ok first => cases readRecords read more <;> rfl

/-- A reading of texts goes in parts. -/
structure ReadsInParts {α ε : Type} (read : String → Except ε (List α)) : Prop where
  /-- Two texts under one another give what the first one gives and then what
      the second one gives, or the first error of the two. -/
  joined : ∀ a b, read (a ++ "\n" ++ b) = (do return (← read a) ++ (← read b))
  /-- A line that gives nothing changes nothing between two texts. -/
  unrecognised : ∀ a line b, read line = .ok [] →
    read (a ++ "\n" ++ line ++ "\n" ++ b) = read (a ++ "\n" ++ b)

/-- A parser that reads two parts behind one another reads any number of them.
    -/
theorem readsInParts_of_joined {α ε : Type} {read : String → Except ε (List α)}
    (joined : ∀ a b, read (a ++ "\n" ++ b) = (do return (← read a) ++ (← read b))) :
    ReadsInParts read where
  joined := joined
  unrecognised := by
    intro a line b hline
    have hfront : read (a ++ "\n" ++ line) = read a := by
      rw [joined, hline]
      cases read a with
      | error e => rfl
      | ok found => exact congrArg Except.ok (List.append_nil found)
    rw [joined, hfront, ← joined]

/-- What is read of each record on its own is read in parts. -/
theorem readsInParts_of_records {α ε : Type} (read : List Char → Except ε (Option α)) :
    ReadsInParts fun output => readRecords read (recordLines output.toList) := by
  refine readsInParts_of_joined fun a b => ?_
  rw [toList_join_lineFeed, recordLines_append, readRecords_append]

/-- A parser that looks at each line by itself reads in parts. -/
theorem readsInParts_of_filterMap {α : Type} (ε : Type) (read : List Char → Option α) :
    ReadsInParts fun output => (.ok ((recordLines output.toList).filterMap read) : Except ε _) := by
  refine readsInParts_of_joined fun a b => ?_
  rw [toList_join_lineFeed, recordLines_append, List.filterMap_append]
  rfl

/-- Two texts with a line feed between them hold the records of the first one
    and then those of the second one.  All listings are read in parts: those of
    interfaces and pods, which cannot fail, and those of processes and files. -/
theorem listings_read_in_parts (s : Settings) :
    (∀ a b : String,
        recordLines (a ++ "\n" ++ b).toList = recordLines a.toList ++ recordLines b.toList)
      ∧ (ReadsInParts fun output => (.ok (readInterfaces output) : Except NumberError _))
      ∧ (ReadsInParts fun output => (.ok (readPods output) : Except NumberError _))
      ∧ ReadsInParts (readProcesses s)
      ∧ ReadsInParts (readFiles s) := by
  refine ⟨fun a b => ?_, readsInParts_of_filterMap _ readInterface,
    readsInParts_of_filterMap _ readPod, readsInParts_of_records (readProcess s),
    readsInParts_of_records (readFile s)⟩
  rw [toList_join_lineFeed, recordLines_append]

/-- A carriage return at the end of the first text and blanks at the head of
    the second one belong to no record. -/
example : recordLines ("a \r" ++ "\n" ++ "\t\n b").toList = ["a".toList, "b".toList] := by
  decide

end NodeCapture
