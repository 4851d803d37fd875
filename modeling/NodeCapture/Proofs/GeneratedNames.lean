import Mathlib.Data.String.Basic
import NodeCapture.Proofs.ActionableCaptures
import NodeCapture.Proofs.Calendar
import NodeCapture.Proofs.Decimals

/-! # Names from the clock

    A capture that is given no name is named after the moment of its start.
    The parts of the moment have a fixed width, all but the year; a hyphen ends
    the year, so that names are told apart by their parts also where years have
    different widths (`captureName_injective`).

    Where years have the same width the names come in the order of the parts
    (`captureName_lt_iff`), and so in the order of time.

    A name consists of digits and three signs, all of which requests admit; an
    intent about such a capture is accepted wherever its node fits. -/

namespace NodeCapture

/-! ## Digits of a fixed width -/

/-- The characters of digits compare as these do. -/
theorem digitChar_lt_iff {d e : Nat} (hd : d < 10) (he : e < 10) :
    digitChar d < digitChar e ↔ d < e := by
  have hall : ∀ x ∈ List.range 10, ∀ y ∈ List.range 10, digitChar x < digitChar y ↔ x < y := by
    decide
  exact hall d (List.mem_range.mpr hd) e (List.mem_range.mpr he)

/-- Different digits have different characters. -/
theorem digitChar_inj {d e : Nat} (hd : d < 10) (he : e < 10) (h : digitChar d = digitChar e) :
    d = e := by
  have hvalue := digitValue?_digitChar hd
  rw [h, digitValue?_digitChar he] at hvalue
  exact (Option.some.inj hvalue).symm

/-- Two texts of one length are compared before what follows them. -/
theorem append_lt_append_iff {α : Type} [LinearOrder α] {text text' rest rest' : List α}
    (h : text.length = text'.length) :
    text ++ rest < text' ++ rest' ↔ text < text' ∨ text = text' ∧ rest < rest' := by
  induction text generalizing text' with
  | nil =>
      obtain rfl := List.length_eq_zero_iff.mp h.symm
      simp
  | cons c text ih =>
      obtain ⟨c', more, rfl⟩ : ∃ c' more, text' = c' :: more :=
        List.exists_cons_of_length_eq_add_one h.symm
      rw [List.cons_append, List.cons_append, List.cons_lt_cons_iff, List.cons_lt_cons_iff,
        ih (Nat.succ_injective h), List.cons.injEq]
      tauto

namespace Moment

/-- A number of fixed width has this width. -/
theorem length_fixedDigits (width n : Nat) : (fixedDigits width n).length = width := by
  induction width generalizing n with
  | zero => rfl
  | succ width ih => rw [fixedDigits, List.length_append, ih, List.length_singleton]

/-- It is written in digits. -/
theorem isDigit_of_mem_fixedDigits {width n : Nat} :
    ∀ c ∈ fixedDigits width n, c.isDigit = true := by
  induction width generalizing n with
  | zero => exact fun c hc => absurd hc List.not_mem_nil
  | succ width ih =>
      rw [fixedDigits, List.forall_mem_append, List.forall_mem_singleton]
      exact ⟨ih, isDigit_digitChar (Nat.mod_lt n (by decide))⟩

/-- Numbers that fit their width are told by their digits. -/
theorem fixedDigits_inj {width n n' : Nat} (h : n < 10 ^ width) (h' : n' < 10 ^ width)
    (heq : fixedDigits width n = fixedDigits width n') : n = n' := by
  induction width generalizing n n' with
  | zero => omega
  | succ width ih =>
      rw [Nat.pow_succ] at h h'
      obtain ⟨hfront, hlast⟩ := List.append_inj' heq rfl
      have hquotient := ih (by omega) (by omega) hfront
      have hdigit := digitChar_inj (Nat.mod_lt n (by decide)) (Nat.mod_lt n' (by decide))
        (List.singleton_inj.mp hlast)
      omega

/-- Digits of one width are ordered as the numbers that they write. -/
theorem fixedDigits_lt_iff {width n n' : Nat} (h : n < 10 ^ width) (h' : n' < 10 ^ width) :
    fixedDigits width n < fixedDigits width n' ↔ n < n' := by
  induction width generalizing n n' with
  | zero =>
      rw [fixedDigits, fixedDigits, Nat.pow_zero] at *
      exact iff_of_false (lt_irrefl _) (by omega)
  | succ width ih =>
      rw [Nat.pow_succ] at h h'
      have hfront : fixedDigits width (n / 10) = fixedDigits width (n' / 10) ↔ n / 10 = n' / 10 :=
        ⟨fixedDigits_inj (by omega) (by omega), congrArg _⟩
      rw [fixedDigits, fixedDigits,
        append_lt_append_iff (by rw [length_fixedDigits, length_fixedDigits]),
        ih (by omega) (by omega), hfront, List.cons_lt_cons_iff,
        digitChar_lt_iff (Nat.mod_lt n (by decide)) (Nat.mod_lt n' (by decide))]
      simp only [List.not_lt_nil, and_false, or_false]
      omega

/-- A number that has as many digits as the width is printed with them. -/
theorem decimalChars_eq_fixedDigits {width n : Nat} (hlow : 10 ^ width ≤ n)
    (hhigh : n < 10 ^ (width + 1)) : decimalChars n = fixedDigits (width + 1) n := by
  induction width generalizing n with
  | zero =>
      rw [decimalChars, if_pos (by omega), fixedDigits, Nat.mod_eq_of_lt (by omega)]
      rfl
  | succ width ih =>
      rw [Nat.pow_succ] at hlow
      rw [Nat.pow_succ _ (width + 1)] at hhigh
      have hlarge : ¬n < 10 := by
        have := Nat.one_le_pow width 10 (by decide)
        omega
      rw [decimalChars, if_neg hlarge, ih (by omega) (by omega)]
      rfl

/-- A part of a moment has no more digits than its place in a name. -/
structure FitsIn (width : Nat) (part : Int) : Prop where
  nonneg : 0 ≤ part
  bound : part.toNat < 10 ^ width

namespace FitsIn

variable {width : Nat} {part part' : Int} {rest rest' : List Char}

/-- A part is told by its digits. -/
theorem inj (h : FitsIn width part) (h' : FitsIn width part')
    (heq : fixedDigits width part.toNat = fixedDigits width part'.toNat) : part = part' := by
  have hpart := fixedDigits_inj h.bound h'.bound heq
  have := h.nonneg
  have := h'.nonneg
  omega

/-- Parts compare as their digits do. -/
theorem lt_iff (h : FitsIn width part) (h' : FitsIn width part') :
    fixedDigits width part.toNat < fixedDigits width part'.toNat ↔ part < part' := by
  have := h.nonneg
  have := h'.nonneg
  rw [fixedDigits_lt_iff h.bound h'.bound]
  omega

/-- A part is told by its digits whatever stands behind them. -/
theorem append_inj (h : FitsIn width part) (h' : FitsIn width part')
    (heq : fixedDigits width part.toNat ++ rest = fixedDigits width part'.toNat ++ rest') :
    part = part' ∧ rest = rest' := by
  obtain ⟨hdigits, hrest⟩ := List.append_inj heq (by rw [length_fixedDigits, length_fixedDigits])
  exact ⟨h.inj h' hdigits, hrest⟩

/-- The digits of a part count before what stands behind them. -/
theorem append_lt_iff (h : FitsIn width part) (h' : FitsIn width part') :
    fixedDigits width part.toNat ++ rest < fixedDigits width part'.toNat ++ rest'
      ↔ part < part' ∨ part = part' ∧ rest < rest' := by
  have hsame : fixedDigits width part.toNat = fixedDigits width part'.toNat ↔ part = part' :=
    ⟨h.inj h', by rintro rfl; rfl⟩
  rw [append_lt_append_iff (by rw [length_fixedDigits, length_fixedDigits]), h.lt_iff h', hsame]

end FitsIn

/-! ## Names and parts -/

variable {m m' : Moment}

/-- The characters of a name behind its year. -/
def restChars (m : Moment) : List Char :=
  '-' :: (fixedDigits 2 m.month.toNat ++ '-' :: (fixedDigits 2 m.day.toNat
    ++ '_' :: (fixedDigits 2 m.hour.toNat ++ '-' :: (fixedDigits 2 m.minute.toNat
    ++ '-' :: (fixedDigits 2 m.second.toNat ++ '.' :: fixedDigits 6 m.microsecond.toNat)))))

/-- A generated name is the year with the other parts behind it. -/
theorem captureNameChars_eq (m : Moment) :
    m.captureNameChars = decimalChars m.year.toNat ++ m.restChars := by
  simp only [captureNameChars, restChars, List.append_assoc, List.cons_append]

/-- Each part of a moment fits in its place. -/
structure Fits (m : Moment) : Prop where
  year : FitsIn 4 m.year
  month : FitsIn 2 m.month
  day : FitsIn 2 m.day
  hour : FitsIn 2 m.hour
  minute : FitsIn 2 m.minute
  second : FitsIn 2 m.second
  microsecond : FitsIn 6 m.microsecond

/-- Parts in their ranges fit their widths. -/
theorem InRange.fits (h : m.InRange) : m.Fits := by
  have hdays := daysInMonth_le m.year m.month
  obtain ⟨hyear, hmonth, hday, hhour, hminute, hsecond, hmicrosecond⟩ := h
  constructor <;> constructor <;> omega

/-- The year ends where the digits at the head of a name end. -/
theorem captureNameChars_inj (heq : m.captureNameChars = m'.captureNameChars) :
    m.year.toNat = m'.year.toNat ∧ m.restChars = m'.restChars := by
  have hcut : ∀ n : Moment, n.captureNameChars.takeWhile Char.isDigit = decimalChars n.year.toNat
      ∧ n.captureNameChars.dropWhile Char.isDigit = n.restChars := by
    intro n
    have hhyphen : ¬Char.isDigit '-' = true := by decide
    rw [captureNameChars_eq, List.takeWhile_append_of_pos isDigit_of_mem_decimalChars,
      List.dropWhile_append_of_pos isDigit_of_mem_decimalChars, restChars,
      List.takeWhile_cons_of_neg hhyphen, List.dropWhile_cons_of_neg hhyphen, List.append_nil]
    exact ⟨rfl, rfl⟩
  obtain ⟨hyear, hrest⟩ := hcut m
  rw [heq, (hcut m').1] at hyear
  rw [heq, (hcut m').2] at hrest
  exact ⟨(decimalChars_injective hyear).symm, hrest.symm⟩

/-- Moments with one name are the same. -/
theorem captureName_injective (h : m.Fits) (h' : m'.Fits) (heq : m.captureName = m'.captureName) :
    m = m' := by
  obtain ⟨hyears, heq⟩ := captureNameChars_inj (String.ofList_injective heq)
  have hyear : m.year = m'.year := by
    have := h.year.nonneg
    have := h'.year.nonneg
    omega
  obtain ⟨hmonth, heq⟩ := h.month.append_inj h'.month (List.cons_injective heq)
  obtain ⟨hday, heq⟩ := h.day.append_inj h'.day (List.cons_injective heq)
  obtain ⟨hhour, heq⟩ := h.hour.append_inj h'.hour (List.cons_injective heq)
  obtain ⟨hminute, heq⟩ := h.minute.append_inj h'.minute (List.cons_injective heq)
  obtain ⟨hsecond, heq⟩ := h.second.append_inj h'.second (List.cons_injective heq)
  have hmicrosecond := h.microsecond.inj h'.microsecond (List.cons_injective heq)
  refine parts_injective ?_
  rw [parts, parts, hyear, hmonth, hday, hhour, hminute, hsecond, hmicrosecond]

/-- Behind the year, names compare as the parts do. -/
theorem restChars_lt_iff (h : m.Fits) (h' : m'.Fits) :
    m.restChars < m'.restChars ↔ m.month < m'.month
      ∨ m.month = m'.month ∧ (m.day < m'.day ∨ m.day = m'.day ∧ (m.hour < m'.hour
      ∨ m.hour = m'.hour ∧ (m.minute < m'.minute ∨ m.minute = m'.minute ∧ (m.second < m'.second
      ∨ m.second = m'.second ∧ m.microsecond < m'.microsecond)))) := by
  have hsign : ∀ {sign : Char} {rest rest' : List Char},
      sign :: rest < sign :: rest' ↔ rest < rest' := by
    intro sign rest rest'
    simp
  simp only [restChars, hsign, h.month.append_lt_iff h'.month, h.day.append_lt_iff h'.day,
    h.hour.append_lt_iff h'.hour, h.minute.append_lt_iff h'.minute,
    h.second.append_lt_iff h'.second, h.microsecond.lt_iff h'.microsecond]

/-- Where years have four digits, names are ordered as the parts of moments. -/
theorem captureName_lt_iff (h : m.Fits) (h' : m'.Fits) (hyear : 1000 ≤ m.year)
    (hyear' : 1000 ≤ m'.year) : m.captureName < m'.captureName ↔ m.parts < m'.parts := by
  have hfour : ∀ {year : Int}, FitsIn 4 year → 1000 ≤ year →
      decimalChars year.toNat = fixedDigits 4 year.toNat :=
    fun hfits hlow => decimalChars_eq_fixedDigits (by omega) hfits.bound
  rw [captureName, captureName, String.lt_iff_toList_lt, String.toList_ofList, String.toList_ofList,
    captureNameChars_eq, captureNameChars_eq, hfour h.year hyear, hfour h'.year hyear',
    h.year.append_lt_iff h'.year, restChars_lt_iff h h', parts_lt_iff]

/-- A year of fewer digits may come out of order. -/
example : (⟨1000, 1, 1, 0, 0, 0, 0⟩ : Moment).captureName
    < (⟨999, 12, 31, 0, 0, 0, 0⟩ : Moment).captureName := by
  decide +kernel

/-- A name is made of digits and of signs that names may hold. -/
theorem isCaptureName_captureName (m : Moment) : isCaptureName m.captureName = true := by
  have hdigits : ∀ {text : List Char}, (∀ c ∈ text, c.isDigit = true) →
      ∀ c ∈ text, isCaptureNameChar c = true := by
    intro text htext c hc
    simp [isCaptureNameChar, Char.isAlphanum, htext c hc]
  have hyear := hdigits (@isDigit_of_mem_decimalChars m.year.toNat)
  have hpart : ∀ width part, ∀ c ∈ fixedDigits width part, isCaptureNameChar c = true :=
    fun width part => hdigits isDigit_of_mem_fixedDigits
  have hsigns : isCaptureNameChar '-' ∧ isCaptureNameChar '_' ∧ isCaptureNameChar '.' := by decide
  have hchars : ∀ c ∈ m.captureNameChars, isCaptureNameChar c = true := by
    simp only [captureNameChars_eq, restChars, List.forall_mem_append, List.forall_mem_cons]
    exact ⟨hyear, hsigns.1, hpart _ _, hsigns.1, hpart _ _, hsigns.2.1, hpart _ _, hsigns.1,
      hpart _ _, hsigns.1, hpart _ _, hsigns.2.2, hpart _ _⟩
  have hne : m.captureNameChars ≠ [] := by
    rw [captureNameChars_eq]
    exact List.append_ne_nil_of_right_ne_nil _ (List.cons_ne_nil _ _)
  rw [isCaptureName, captureName, String.toList_ofList, Bool.and_eq_true, List.all_eq_true]
  exact ⟨by simpa using hne, hchars⟩

end Moment

/-! ## Intents about a name -/

namespace Orchestrator

variable {o : Orchestrator} {node : String} {n : Node}

/-- A capture can be started if its name is fit for a request. -/
theorem start_accepted_iff {capture : String} (here : o.session.node? node = some n)
    (running : n.status = .podRunning) :
    (o.Accepts (.startCapture node capture) ↔ isCaptureName capture)
      ∧ (o.Raises (.startCapture node capture) ↔ ¬isCaptureName capture) := by
  have hn : o.nodeIn? node (· == .podRunning) = some n :=
    nodeIn?_eq_some.mpr ⟨here, by simpa using running⟩
  have hstart : o.perform (.startCapture node capture)
      = (checkedName .startCapture (some capture)).map (fun name =>
        o.begin node (fun n => n.markCaptureStarting name)
          (.startCapture node name (startFilters n))) := by
    simp only [perform, beginStart, hn]
    rfl
  exact accepts_iff_of_checked hstart (fun _ => ⟨o.submitted, rfl⟩)

/-- Intents about a capture of a name are never an error, and are accepted
    wherever the node fits. -/
structure Takes (o : Orchestrator) (capture : String) : Prop where
  start : ∀ node, ¬o.Raises (.startCapture node capture)
    ∧ ∀ n, o.session.node? node = some n → n.status = .podRunning →
      o.Accepts (.startCapture node capture)
  stop : ∀ node n, o.session.node? node = some n → n.captureName = some capture →
    ¬o.Raises (.stopCapture node) ∧ (n.status = .captureRunning → o.Accepts (.stopCapture node))
  download : ∀ node path, ¬o.Raises (.download node capture path)
    ∧ ∀ n c, o.session.node? node = some n → n.status.hasPod → c ∈ n.captures → c.name = capture →
      n.IdleAt capture → o.Accepts (.download node capture path)

/-- A name that is fit for a request is taken wherever a capture is named. -/
theorem takes_of_isCaptureName (o : Orchestrator) {capture : String}
    (named : isCaptureName capture = true) : o.Takes capture := by
  have hchecked : ∀ kind, checkedName kind (some capture) = .ok capture :=
    fun kind => checkedName_eq_ok.mpr ⟨rfl, named⟩
  constructor
  · refine fun node => ⟨?_, fun n here running => (start_accepted_iff here running).1.mpr named⟩
    rintro ⟨e, he⟩
    rw [perform, beginStart, hchecked] at he
    split at he <;> cases he
  · refine fun node n here current =>
      ⟨?_, fun running => (stop_accepted_iff here running current).1.mpr named⟩
    rintro ⟨e, he⟩
    rw [perform, beginStop] at he
    split at he
    · next _ hn =>
        obtain rfl := Option.some.inj (here.symm.trans (nodeIn?_eq_some.mp hn).1)
        rw [current, hchecked] at he
        cases he
    · cases he
  · refine fun node path => ⟨?_, ?_⟩
    · rintro ⟨e, he⟩
      simp only [perform, beginDownload, hchecked] at he
      split at he
      · split at he
        · split at he <;> cases he
        · cases he
      · cases he
    · rintro n c here fits hc rfl idle
      exact (download_accepted_iff here fits hc path).1.mpr ⟨named, idle⟩

end Orchestrator

/-! ## Main result -/

/-- Names that captures get by themselves tell their moments apart, whatever
    the years are; no intent about a capture ends in an error for such a name;
    and from the year 1000 on the names come in the order of time. -/
theorem generated_names_tell_moments (m m' : Moment) (h : m.IsValid) (h' : m'.IsValid) :
    (m ≠ m' → m.captureName ≠ m'.captureName)
      ∧ isCaptureName m.captureName = true
      ∧ (∀ o : Orchestrator, o.Takes m.captureName)
      ∧ (1000 ≤ m.year → 1000 ≤ m'.year →
        (m.captureName < m'.captureName ↔ m.instant < m'.instant)) := by
  refine ⟨fun hne heq => hne ?_, m.isCaptureName_captureName, ?_, ?_⟩
  · exact Moment.captureName_injective h.inRange.fits h'.inRange.fits heq
  · exact fun o => o.takes_of_isCaptureName m.isCaptureName_captureName
  · intro hyear hyear'
    rw [Moment.captureName_lt_iff h.inRange.fits h'.inRange.fits hyear hyear',
      Moment.instant_lt_iff h.inRange h'.inRange]

/-- The last microsecond of a leap day. -/
def leapDayEnd : Moment := ⟨2024, 2, 29, 23, 59, 59, 999999⟩

/-- The moment that follows it. -/
def marchStart : Moment := ⟨2024, 3, 1, 0, 0, 0, 0⟩

/-- The last microsecond of a February with a leap day, and the one after it. -/
theorem generated_names_tell_march :
    leapDayEnd.IsValid ∧ marchStart.IsValid ∧ leapDayEnd.instant + 1 = marchStart.instant
      ∧ leapDayEnd.captureName ≠ marchStart.captureName
      ∧ isCaptureName leapDayEnd.captureName = true
      ∧ (∀ o : Orchestrator, o.Takes leapDayEnd.captureName)
      ∧ leapDayEnd.captureName < marchStart.captureName := by
  have hnext : leapDayEnd.instant + 1 = marchStart.instant := by decide +kernel
  obtain ⟨hne, hnamed, htakes, horder⟩ :=
    generated_names_tell_moments leapDayEnd marchStart rfl rfl
  exact ⟨rfl, rfl, hnext, hne (by decide), hnamed, htakes,
    (horder (by decide) (by decide)).mpr (by omega)⟩

end NodeCapture
