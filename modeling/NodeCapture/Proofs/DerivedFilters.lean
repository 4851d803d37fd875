import Mathlib.Data.List.Forall2
import NodeCapture.Proofs.FilterLanguage

/-! # What derived filters mean

    The filter that is derived from a selection is a text: fragments that are
    joined by `and`.  As both connectives bind alike, its meaning hangs on each
    fragment being an operand, also where it offers alternatives
    (`PartsAccept`).

    The main statement reads the text by the grammar of filters: it is empty
    where nothing is selected, and otherwise it expresses one expression, which
    accepts the packets of the selection and no others
    (`derived_filter_accepts_selected`). -/

namespace NodeCapture

/-! ## Packets of a selection -/

/-- A packet is of one of the transports of a set; an empty set asks for none. -/
def TransportSet.Covers (s : TransportSet) (p : Packet) : Prop :=
  s ≠ .empty → ∃ t, p.transport = some t ∧ s.contains t = true

/-- A packet is of the traffic of a scenario; an end without a pod asks for
    nothing. -/
def Scenario.Covers (p : Packet) : Scenario → Prop
  | specificPod pod .sentAndReceived => ∀ a ∈ pod, p.Touches a.address
  | specificPod pod .sent => ∀ a ∈ pod, p.source = a.address
  | specificPod pod .received => ∀ a ∈ pod, p.dest = a.address
  | twoPods _ source _ dest .sourceToDestination =>
      (∀ a ∈ source, p.source = a.address) ∧ ∀ b ∈ dest, p.dest = b.address
  | twoPods _ source _ dest .bidirectional =>
      (∀ a ∈ source, p.Touches a.address) ∧ ∀ b ∈ dest, p.Touches b.address

/-- The pods that are selected in a scenario. -/
def Scenario.pods : Scenario → List Pod
  | specificPod pod _ => pod.toList
  | twoPods _ source _ dest _ => source.toList ++ dest.toList

namespace Selection

variable (s : Selection)

/-- The pods that are selected. -/
def pods : List Pod := (s.scenario.map Scenario.pods).getD []

/-- Neither a port nor a transport nor a pod is selected. -/
def SelectsNothing : Prop := s.port = none ∧ s.transports = .empty ∧ s.pods = []

/-- A packet is one of those that are selected. -/
structure Covers (p : Packet) : Prop where
  transport : s.transports.Covers p
  port : ∀ n : Nat, s.port = some n → p.HasPort n
  scenario : ∀ scenario, s.scenario = some scenario → scenario.Covers p

end Selection

/-- A packet that touches two different addresses runs between them. -/
theorem Packet.touches_both_iff {a b : String} (h : a ≠ b) (p : Packet) :
    p.Touches a ∧ p.Touches b ↔ p.RunsBetween a b := by
  constructor
  · rintro ⟨ha | ha, hb | hb⟩
    · exact absurd (ha.symm.trans hb) h
    · exact Or.inl ⟨ha, hb⟩
    · exact Or.inr ⟨hb, ha⟩
    · exact absurd (ha.symm.trans hb) h
  · rintro (⟨ha, hb⟩ | ⟨hb, ha⟩)
    · exact ⟨Or.inl ha, Or.inr hb⟩
    · exact ⟨Or.inr ha, Or.inl hb⟩

/-! ## Fragments -/

/-- A fragment is an operand. -/
def IsOperand (part : String) (e : FilterExpr) : Prop := Expresses .operand (filterTokens part) e

/-- Fragments are operands that together accept the packets of some kind. -/
def PartsAccept (parts : List String) (P : Packet → Prop) : Prop :=
  ∃ es, List.Forall₂ IsOperand parts es ∧ ∀ p, (∀ e ∈ es, e.Accepts p) ↔ P p

theorem partsAccept_nil : PartsAccept [] fun _ => True :=
  ⟨[], .nil, by simp⟩

/-- One operand accepts what its expression accepts. -/
theorem IsOperand.partsAccept {part : String} {e : FilterExpr} (h : IsOperand part e) :
    PartsAccept [part] fun p => e.Accepts p :=
  ⟨[e], .cons h .nil, by simp⟩

/-- More parts accept what both accept. -/
theorem PartsAccept.append {parts more : List String} {P Q : Packet → Prop}
    (h : PartsAccept parts P) (h' : PartsAccept more Q) :
    PartsAccept (parts ++ more) fun p => P p ∧ Q p := by
  obtain ⟨es, hes, hP⟩ := h
  obtain ⟨fs, hfs, hQ⟩ := h'
  refine ⟨es ++ fs, List.rel_append hes hfs, fun p => ?_⟩
  rw [List.forall_mem_append, hP, hQ]

/-- What parts accept may be said in other words. -/
theorem PartsAccept.congr {parts : List String} {P Q : Packet → Prop} (h : PartsAccept parts P)
    (hPQ : ∀ p, P p ↔ Q p) : PartsAccept parts Q := by
  obtain ⟨es, hes, hP⟩ := h
  exact ⟨es, hes, fun p => (hP p).trans (hPQ p)⟩

/-- An operand is not empty. -/
theorem IsOperand.ne_empty {part : String} {e : FilterExpr} (h : IsOperand part e) : part ≠ "" := by
  rintro rfl
  exact Expresses.ne_nil h rfl

/-- What is joined to a text goes on behind everything in it. -/
theorem isFilter_intercalate (c : Connective) {parts : List String} {es : List FilterExpr}
    (h : List.Forall₂ IsOperand parts es) {front : String} {e : FilterExpr}
    (hfront : IsFilter front e) :
    IsFilter (String.intercalate (" " ++ c.word ++ " ") (front :: parts))
      (es.foldl (.joined c) e) := by
  -- on the fragments, with what was joined before them in front
  induction h generalizing front e with
  | nil =>
      rw [String.intercalate_singleton]
      exact hfront
  | @cons part f parts es hpart _ ih =>
      have hword : filterTokens c.word = [.word c.word] := by cases c <;> decide
      have hjoined : IsFilter (front ++ (" " ++ c.word ++ " ") ++ part) (.joined c e f) := by
        have hspaces : front ++ (" " ++ c.word ++ " ") ++ part
            = front ++ " " ++ (c.word ++ " " ++ part) := by
          simp only [String.append_assoc]
        rw [hspaces, IsFilter, filterTokens_spaced, filterTokens_spaced, hword]
        exact .joined c hfront hpart
      have hlist : String.intercalate (" " ++ c.word ++ " ") (front :: part :: parts)
          = String.intercalate (" " ++ c.word ++ " ")
            ((front ++ (" " ++ c.word ++ " ") ++ part) :: parts) := by
        cases parts with
        | nil =>
            rw [String.intercalate_cons_cons, String.intercalate_singleton,
              String.intercalate_singleton]
        | cons next others =>
            simp only [String.intercalate_cons_cons, String.append_assoc]
      rw [hlist]
      exact ih hjoined

/-- Fragments that are joined by `and` are a filter for what they accept
    together. -/
theorem PartsAccept.isFilter {parts : List String} {P : Packet → Prop} (h : PartsAccept parts P)
    (hne : parts ≠ []) :
    ∃ e, IsFilter (String.intercalate " and " parts) e ∧ ∀ p, e.Accepts p ↔ P p := by
  obtain ⟨es, hes, hP⟩ := h
  cases hes with
  | nil => exact absurd rfl hne
  | @cons part e parts es hpart hparts =>
      refine ⟨_, isFilter_intercalate .and hparts (Expresses.operand hpart), fun p => ?_⟩
      rw [FilterExpr.accepts_foldl_and, ← hP, List.forall_mem_cons]

/-- Alternatives are one operand, which accepts what any of them does. -/
theorem partsAccept_alternatives {parts : List String} {es : List FilterExpr}
    (h : List.Forall₂ IsOperand parts es) :
    PartsAccept (alternatives parts) fun p => es ≠ [] → ∃ e ∈ es, e.Accepts p := by
  cases h with
  | nil => exact partsAccept_nil.congr (by simp)
  | @cons part e parts es hpart hparts =>
      cases hparts with
      | nil => exact hpart.partsAccept.congr (by simp)
      | @cons next f parts es hnext hothers =>
          have hgroup : IsOperand ("(" ++ String.intercalate " or " (part :: next :: parts) ++ ")")
              ((f :: es).foldl (.joined .or) e) := by
            rw [IsOperand, filterTokens_group]
            exact .group (isFilter_intercalate .or (.cons hnext hothers) (Expresses.operand hpart))
          refine hgroup.partsAccept.congr fun p => ?_
          rw [FilterExpr.accepts_foldl_or, ← exists_eq_or_imp]
          simp

/-! ## Ports and transports -/

/-- The digits of a number are one word, and are read as that number. -/
theorem portNumber?_integerText (n : Nat) :
    IsFilterWord (integerText n) ∧ portNumber? (integerText n) = some n := by
  have hchars : (integerText n).toList = decimalChars n := String.toList_ofList
  have hwrites := writes_decimalChars n
  have hne : integerText n ≠ "" := by
    rw [Ne, ← String.toList_eq_nil_iff, hchars]
    exact hwrites.nonempty
  refine ⟨⟨hne, ?_⟩, ?_⟩
  · intro c hc
    rw [hchars] at hc
    have hdigit := isDigit_of_mem_decimalChars c hc
    have hother : ∀ {d : Char}, d.isDigit = false → c ≠ d := by
      rintro d hd rfl
      rw [hdigit] at hd
      cases hd
    refine ⟨isBlank_of_isDigitSymbol (hwrites.isDigitSymbol c hc), ?_⟩
    rw [signToken?, if_neg (hother (by decide)), if_neg (hother (by decide))]
  · have hdigits : (integerText n).toList.all Char.isDigit = true := by
      rw [hchars, List.all_eq_true]
      exact isDigit_of_mem_decimalChars
    rw [portNumber?, if_pos ⟨hne, hdigits⟩, hchars, hwrites.value]

/-- The name of a transport is a word of a filter. -/
theorem isFilterWord_name (t : Transport) : IsFilterWord (Named.name t) := by
  cases t <;> decide

/-- A transport is an operand. -/
theorem isOperand_transport (t : Transport) :
    IsOperand (Named.name t) (.primitive (.transport t)) := by
  rw [IsOperand, filterTokens_word (isFilterWord_name t)]
  exact .primitive (.transport t)

/-- A port is an operand. -/
theorem isOperand_port (n : Nat) :
    IsOperand ("port " ++ integerText n) (.primitive (.port n)) := by
  obtain ⟨hword, hnumber⟩ := portNumber?_integerText n
  rw [show "port " = "port" ++ " " by decide, IsOperand, filterTokens_spaced,
    filterTokens_word (by decide), filterTokens_word hword]
  exact .primitive (.port hnumber)

/-- A port of a transport is an operand. -/
theorem isOperand_transportPort (t : Transport) (n : Nat) :
    IsOperand (Named.name t ++ " port " ++ integerText n) (.primitive (.transportPort t n)) := by
  obtain ⟨hword, hnumber⟩ := portNumber?_integerText n
  have hspaces : Named.name t ++ " port " ++ integerText n
      = Named.name t ++ " " ++ ("port" ++ " " ++ integerText n) := by
    rw [show " port " = " " ++ ("port" ++ " ") by decide]
    simp only [String.append_assoc]
  rw [hspaces, IsOperand, filterTokens_spaced, filterTokens_spaced,
    filterTokens_word (isFilterWord_name t), filterTokens_word (by decide), filterTokens_word hword]
  exact .primitive (.transportPort t hnumber)

/-- The names of a set are those of its transports. -/
theorem TransportSet.names_eq_map (s : TransportSet) :
    ∃ ts : List Transport, s.names = ts.map Named.name ∧ (∀ t, t ∈ ts ↔ s.contains t = true)
      ∧ (ts = [] ↔ s = .empty) := by
  obtain ⟨tcp, udp⟩ := s
  refine ⟨(if tcp then [.tcp] else []) ++ (if udp then [.udp] else []), ?_, ?_, ?_⟩
  · cases tcp <;> cases udp <;> rfl
  · intro t
    cases tcp <;> cases udp <;> cases t <;> decide
  · cases tcp <;> cases udp <;> decide

/-- The fragment for a port and transports accepts packets of such a port and of
    one of the transports. -/
theorem partsAccept_transportParts {port : Option Int} (hport : ∀ n, port = some n → 0 < n)
    (transports : TransportSet) :
    PartsAccept (transportParts port transports)
      fun p => transports.Covers p ∧ ∀ n : Nat, port = some n → p.HasPort n := by
  obtain ⟨ts, hnames, hmem, hempty⟩ := transports.names_eq_map
  cases port with
  | none =>
      have hparts : List.Forall₂ IsOperand transports.names
          (ts.map fun t => .primitive (.transport t)) := by
        rw [hnames, List.forall₂_map_left_iff, List.forall₂_map_right_iff, List.forall₂_same]
        exact fun t _ => isOperand_transport t
      refine (partsAccept_alternatives hparts).congr fun p => ?_
      simp [TransportSet.Covers, hempty, hmem, FilterExpr.Accepts, FilterPrimitive.Accepts,
        and_comm]
  | some n =>
      have hpos := hport n rfl
      obtain ⟨m, rfl⟩ := Int.eq_ofNat_of_zero_le (Int.le_of_lt hpos)
      have hchosen : chosenPort (some (m : Int)) = some (m : Int) := if_neg (by omega)
      -- a positive port is a natural number
      suffices h : PartsAccept (transportParts (some (m : Int)) transports)
          fun p => transports.Covers p ∧ p.HasPort m by
        refine h.congr fun p => and_congr_right fun _ => ?_
        exact ⟨fun hm n hn => Int.ofNat_inj.mp (Option.some.inj hn) ▸ hm, fun hn => hn m rfl⟩
      rw [transportParts, hchosen]
      dsimp only
      -- the port stands alone, or behind each of the transports
      cases ts with
      | nil =>
          rw [hnames, hempty.mp rfl]
          refine (isOperand_port m).partsAccept.congr fun p => ?_
          simp [TransportSet.Covers, FilterExpr.Accepts, FilterPrimitive.Accepts]
      | cons first others =>
          have hparts : List.Forall₂ IsOperand
              (transports.names.map fun name => name ++ " port " ++ integerText m)
              ((first :: others).map fun t => .primitive (.transportPort t m)) := by
            rw [hnames, List.map_map, List.forall₂_map_left_iff, List.forall₂_map_right_iff,
              List.forall₂_same]
            exact fun t _ => isOperand_transportPort t m
          have hsome : transports ≠ .empty := mt hempty.mpr (List.cons_ne_nil _ _)
          have hmany : ((first :: others).map fun t => FilterExpr.primitive (.transportPort t m))
              ≠ [] :=
            List.cons_ne_nil _ _
          rw [hnames] at hparts ⊢
          refine (partsAccept_alternatives hparts).congr fun p => ?_
          rw [TransportSet.Covers, forall_prop_of_true hsome, forall_prop_of_true hmany]
          simp only [List.mem_map, exists_exists_and_eq_and, ← hmem]
          constructor
          · rintro ⟨t, ht, hp, hn⟩
            exact ⟨⟨t, hp, ht⟩, hn⟩
          · rintro ⟨⟨t, hp, ht⟩, hn⟩
            exact ⟨t, ht, hp, hn⟩

/-! ## Endpoints -/

/-- An address at one end, or at either, is an operand. -/
theorem isOperand_address (side : PacketEnd) {address : String} (h : IsFilterWord address) :
    IsOperand (side.word ++ " " ++ address) (.primitive (.address side address)) := by
  rw [IsOperand, filterTokens_spaced, filterTokens_word (by cases side <;> decide),
    filterTokens_word h]
  exact .primitive (.address side address)

/-- The fragment for a pod at an end, if there is one. -/
theorem partsAccept_pod (side : PacketEnd) {pod : Option Pod}
    (h : ∀ a ∈ pod, IsFilterWord a.address) :
    PartsAccept (pod.map fun a => side.word ++ " " ++ a.address).toList
      fun p => ∀ a ∈ pod, (FilterPrimitive.address side a.address).Accepts p := by
  cases pod with
  | none => exact partsAccept_nil.congr (by simp)
  | some a =>
      refine (isOperand_address side (h a rfl)).partsAccept.congr fun p => ?_
      simp [FilterExpr.Accepts]

/-- The fragments for endpoints accept the traffic of the scenario. -/
theorem partsAccept_endpointParts {scenario : Option Scenario}
    (h : ∀ a ∈ (scenario.map Scenario.pods).getD [], IsFilterWord a.address) :
    PartsAccept (endpointParts scenario)
      fun p => ∀ sc, scenario = some sc → sc.Covers p := by
  rcases scenario with _ | ⟨pod, direction⟩ | ⟨na, source, nb, dest, direction⟩
  · exact partsAccept_nil.congr (by simp)
  · have hpod : ∀ a ∈ pod, IsFilterWord a.address :=
      fun a ha => h a (Option.mem_toList.mpr ha)
    cases direction with
    | sentAndReceived =>
        exact (partsAccept_pod .either hpod).congr
          (by simp [Scenario.Covers, FilterPrimitive.Accepts])
    | sent =>
        exact (partsAccept_pod .source hpod).congr
          (by simp [Scenario.Covers, FilterPrimitive.Accepts])
    | received =>
        exact (partsAccept_pod .dest hpod).congr
          (by simp [Scenario.Covers, FilterPrimitive.Accepts])
  · have hsource : ∀ a ∈ source, IsFilterWord a.address :=
      fun a ha => h a (List.mem_append_left _ (Option.mem_toList.mpr ha))
    have hdest : ∀ b ∈ dest, IsFilterWord b.address :=
      fun b hb => h b (List.mem_append_right _ (Option.mem_toList.mpr hb))
    cases direction with
    | sourceToDestination =>
        exact ((partsAccept_pod .source hsource).append (partsAccept_pod .dest hdest)).congr
          (by simp [Scenario.Covers, FilterPrimitive.Accepts])
    | bidirectional =>
        exact ((partsAccept_pod .either hsource).append (partsAccept_pod .either hdest)).congr
          (by simp [Scenario.Covers, FilterPrimitive.Accepts])

/-! ## The filter -/

/-- There is no fragment exactly where nothing is selected. -/
theorem filterParts_eq_nil_iff {s : Selection} (port : ∀ n, s.port = some n → 0 < n) :
    filterParts s = [] ↔ s.SelectsNothing := by
  obtain ⟨ts, hnames, -, hempty⟩ := s.transports.names_eq_map
  rw [filterParts, List.append_eq_nil_iff, Selection.SelectsNothing, ← hempty, ← and_assoc]
  refine and_congr ?_ ?_
  · rw [transportParts, hnames]
    cases hport : s.port with
    | none =>
        rw [show chosenPort none = none from rfl]
        rcases ts with _ | ⟨t, _ | ⟨t', ts⟩⟩ <;> simp [alternatives]
    | some n =>
        rw [show chosenPort (some n) = some n from if_neg (by have := port n hport; omega)]
        rcases ts with _ | ⟨t, _ | ⟨t', ts⟩⟩ <;> simp [alternatives]
  · rw [Selection.pods]
    rcases s.scenario with _ | ⟨pod, direction⟩ | ⟨na, source, nb, dest, direction⟩
    · simp [endpointParts]
    · cases pod <;> simp [endpointParts, Scenario.pods]
    · cases source <;> cases dest <;> simp [endpointParts, Scenario.pods]

/-- The filter of a selection means the selection.  It is empty exactly where
    nothing is selected.  Otherwise it has one reading, which accepts a packet
    exactly if the packet is of the selected transports, has the selected port,
    and belongs to the scenario; between two pods with different addresses
    this is the traffic that goes from one of them to the other. -/
theorem derived_filter_accepts_selected {s : Selection} (port : ∀ n, s.port = some n → 0 < n)
    (addresses : ∀ a ∈ s.pods, IsFilterWord a.address) :
    (derivedFilter s = "" ↔ s.SelectsNothing)
      ∧ (¬s.SelectsNothing → ∃ e, (∀ e', IsFilter (derivedFilter s) e' ↔ e' = e)
        ∧ (∀ p, e.Accepts p ↔ s.Covers p)
        ∧ ∀ na a nb b, s.scenario = some (.twoPods na (some a) nb (some b) .bidirectional) →
          a.address ≠ b.address →
            ∀ p, e.Accepts p
              ↔ Selection.Covers { s with scenario := none } p
                  ∧ p.RunsBetween a.address b.address) := by
  have hparts : PartsAccept (filterParts s) s.Covers := by
    refine ((partsAccept_transportParts port s.transports).append
      (partsAccept_endpointParts addresses)).congr fun p => ?_
    constructor
    · rintro ⟨⟨htransport, hport⟩, hscenario⟩
      exact ⟨htransport, hport, hscenario⟩
    · rintro ⟨htransport, hport, hscenario⟩
      exact ⟨⟨htransport, hport⟩, hscenario⟩
  refine ⟨?_, fun hsome => ?_⟩
  · rw [← filterParts_eq_nil_iff port, derivedFilter]
    obtain ⟨es, hes, -⟩ := hparts
    generalize filterParts s = parts at hes ⊢
    cases hes with
    | nil => exact iff_of_true rfl rfl
    | @cons part e parts es hpart _ =>
        refine iff_of_false ?_ (List.cons_ne_nil _ _)
        cases parts with
        | nil =>
            rw [String.intercalate_singleton]
            exact hpart.ne_empty
        | cons next others =>
            rw [String.intercalate_cons_cons, String.append_assoc]
            exact fun h => hpart.ne_empty (String.append_eq_empty_iff.mp h).1
  · obtain ⟨e, he, haccepts⟩ := hparts.isFilter (mt (filterParts_eq_nil_iff port).mp hsome)
    refine ⟨e, fun e' => ⟨fun he' => Expresses.unique he' he, fun h => h ▸ he⟩, haccepts, ?_⟩
    intro na a nb b hscenario hne p
    rw [haccepts, ← Packet.touches_both_iff hne]
    constructor
    · rintro ⟨htransport, hport, hcovers⟩
      have hboth := hcovers _ hscenario
      exact ⟨⟨htransport, hport, nofun⟩, hboth.1 a rfl, hboth.2 b rfl⟩
    · rintro ⟨⟨htransport, hport, -⟩, ha, hb⟩
      refine ⟨htransport, hport, fun scenario h => ?_⟩
      obtain rfl := Option.some.inj (h.symm.trans hscenario)
      exact ⟨by simpa using ha, by simpa using hb⟩

/-- DNS traffic between two pods, of which one is named like a connective. -/
def dnsBetweenPods : Selection where
  scenario := some (.twoPods (some "n1") (some ⟨"web", "10.0.0.5"⟩) (some "n2") (some ⟨"db", "and"⟩)
    .bidirectional)
  port := some 53
  transports := ⟨true, true⟩

/-- Its filter is read as it is meant, and an answer to a question is accepted. -/
theorem derived_filter_accepts_selected_dns :
    derivedFilter dnsBetweenPods = "(tcp port 53 or udp port 53) and host 10.0.0.5 and host and"
      ∧ ∃ e, IsFilter (derivedFilter dnsBetweenPods) e
        ∧ e.Accepts ⟨"and", "10.0.0.5", some .udp, some 53, some 40000⟩
        ∧ ¬e.Accepts ⟨"and", "10.0.0.7", some .udp, some 53, some 40000⟩ := by
  obtain ⟨-, hread⟩ := @derived_filter_accepts_selected dnsBetweenPods
    (by rintro n ⟨⟩; decide) (by decide)
  obtain ⟨e, hunique, haccepts, hbetween⟩ := hread (by rintro ⟨h, -⟩; cases h)
  have hpods := hbetween _ _ _ _ rfl (by decide)
  refine ⟨by decide +kernel, e, (hunique e).mpr rfl, (hpods _).mpr ⟨⟨?_, ?_, nofun⟩, ?_⟩, ?_⟩
  · exact fun _ => ⟨.udp, rfl, rfl⟩
  · rintro n hn
    exact Or.inl (congrArg some (Int.ofNat_inj.mp (Option.some.inj hn)))
  · exact Or.inr ⟨rfl, rfl⟩
  · intro h
    rcases ((hpods _).mp h).2 with ⟨hsource, -⟩ | ⟨-, hdest⟩
    · exact absurd hsource (by decide)
    · exact absurd hdest (by decide)

end NodeCapture
