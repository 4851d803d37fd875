import NodeCapture.Filter
import NodeCapture.Proofs.Decimals

/-! # The language of filters

    A filter is an expression about the ends, the ports and the transport of a
    packet.  `Expresses` is the grammar: primitives are joined by `and` and `or`,
    which bind alike and to the left, and are grouped by parentheses.
    `FilterExpr.Accepts` is the meaning.

    The grammar is not ambiguous (`Expresses.unique`).  A reader that takes the
    tokens one by one, with what stands in front of the open parentheses on a
    stack, comes to every expression that the tokens express. -/

namespace NodeCapture

/-! ## Packets -/

/-- A packet, as far as filters look at it.  Its transport may be one that
    filters have no name for, and it may have no ports. -/
structure Packet where
  source : String
  dest : String
  transport : Option Transport
  sourcePort : Option Nat
  destPort : Option Nat

namespace Packet

variable (p : Packet)

/-- A packet comes from a port or goes to it. -/
def HasPort (n : Nat) : Prop := p.sourcePort = some n ∨ p.destPort = some n

/-- A packet comes from an address or goes to it. -/
def Touches (address : String) : Prop := p.source = address ∨ p.dest = address

/-- A packet goes from one of two addresses to the other. -/
def RunsBetween (a b : String) : Prop :=
  (p.source = a ∧ p.dest = b) ∨ (p.source = b ∧ p.dest = a)

end Packet

/-! ## Expressions and their meaning -/

/-- The ends of a packet that an address may stand at. -/
inductive PacketEnd where
  | either
  | source
  | dest

/-- The word for an end. -/
def PacketEnd.word : PacketEnd → String
  | either => "host"
  | source => "src"
  | dest => "dst"

/-- What is asked of a packet. -/
inductive FilterPrimitive where
  | address (side : PacketEnd) (text : String)
  | port (n : Nat)
  | transport (t : Transport)
  | transportPort (t : Transport) (n : Nat)

/-- How two expressions are joined. -/
inductive Connective where
  | and
  | or

/-- The word for a connective. -/
def Connective.word : Connective → String
  | and => "and"
  | or => "or"

/-- An expression. -/
inductive FilterExpr where
  | primitive (q : FilterPrimitive)
  | joined (c : Connective) (left right : FilterExpr)

/-- A packet is what a primitive asks for. -/
def FilterPrimitive.Accepts (p : Packet) : FilterPrimitive → Prop
  | address .either text => p.Touches text
  | address .source text => p.source = text
  | address .dest text => p.dest = text
  | port n => p.HasPort n
  | transport t => p.transport = some t
  | transportPort t n => p.transport = some t ∧ p.HasPort n

/-- An expression accepts a packet. -/
def FilterExpr.Accepts (p : Packet) : FilterExpr → Prop
  | primitive q => q.Accepts p
  | joined .and e f => e.Accepts p ∧ f.Accepts p
  | joined .or e f => e.Accepts p ∨ f.Accepts p

/-- Expressions that are all joined by `and` accept together. -/
theorem FilterExpr.accepts_foldl_and (p : Packet) (e : FilterExpr) (es : List FilterExpr) :
    (es.foldl (joined .and) e).Accepts p ↔ e.Accepts p ∧ ∀ f ∈ es, f.Accepts p := by
  induction es generalizing e with
  | nil => simp
  | cons f es ih =>
      rw [List.foldl_cons, ih, List.forall_mem_cons, ← and_assoc]
      rfl

/-- Expressions that are all joined by `or` accept each on its own. -/
theorem FilterExpr.accepts_foldl_or (p : Packet) (e : FilterExpr) (es : List FilterExpr) :
    (es.foldl (joined .or) e).Accepts p ↔ e.Accepts p ∨ ∃ f ∈ es, f.Accepts p := by
  induction es generalizing e with
  | nil => simp
  | cons f es ih =>
      rw [List.foldl_cons, ih]
      simp only [List.mem_cons, exists_eq_or_imp, ← or_assoc]
      rfl

/-! ## Tokens -/

/-- A token of a filter: a word or a parenthesis. -/
inductive FilterToken where
  | word (text : String)
  | opening
  | closing
  deriving DecidableEq

/-- The token that a character is on its own. -/
def signToken? (c : Char) : Option FilterToken :=
  if c = '(' then some .opening else if c = ')' then some .closing else none

/-- The word that ends here, if one was begun. -/
def endedWord (word : List Char) : List FilterToken :=
  if word.isEmpty then [] else [.word (String.ofList word)]

/-- The tokens of a text behind the beginning of a word. -/
def readFilterTokens (word : List Char) : List Char → List FilterToken
  | [] => endedWord word
  | c :: rest =>
      if isBlank c then endedWord word ++ readFilterTokens [] rest
      else match signToken? c with
        | some sign => endedWord word ++ sign :: readFilterTokens [] rest
        | none => readFilterTokens (word ++ [c]) rest

/-- The tokens of a text: its parentheses, and the words between these and
    blanks. -/
def filterTokens (text : String) : List FilterToken := readFilterTokens [] text.toList

/-- A text that is one word: it holds neither blanks nor parentheses. -/
def IsFilterWord (word : String) : Prop :=
  word ≠ "" ∧ ∀ c ∈ word.toList, isBlank c = false ∧ signToken? c = none

instance (word : String) : Decidable (IsFilterWord word) :=
  decidable_of_iff (word ≠ ""
      ∧ word.toList.all (fun c => !isBlank c && (signToken? c).isNone) = true)
    (by simp [IsFilterWord])

/-- A blank separates the tokens in front of it from those behind it. -/
theorem readFilterTokens_append_space (word text rest : List Char) :
    readFilterTokens word (text ++ ' ' :: rest)
      = readFilterTokens word text ++ readFilterTokens [] rest := by
  induction text generalizing word with
  | nil =>
      show (if isBlank ' ' then _ else _) = _
      rw [if_pos (by decide)]
      rfl
  | cons c text ih =>
      rw [List.cons_append, readFilterTokens, readFilterTokens]
      split
      · rw [ih, List.append_assoc]
      · split
        · rw [ih, List.append_assoc, List.cons_append]
        · exact ih _

/-- On both sides of a space the tokens are read on their own. -/
theorem filterTokens_spaced (text rest : String) :
    filterTokens (text ++ " " ++ rest) = filterTokens text ++ filterTokens rest := by
  have hchars : (text ++ " " ++ rest).toList = text.toList ++ ' ' :: rest.toList := by
    rw [String.toList_append, String.toList_append, List.append_assoc]
    rfl
  rw [filterTokens, hchars, readFilterTokens_append_space]
  rfl

/-- A closing parenthesis at the end is a token of its own. -/
theorem readFilterTokens_closed (word text : List Char) :
    readFilterTokens word (text ++ [')']) = readFilterTokens word text ++ [.closing] := by
  induction text generalizing word with
  | nil =>
      show endedWord word ++ .closing :: endedWord [] = endedWord word ++ [.closing]
      rfl
  | cons c text ih =>
      rw [List.cons_append, readFilterTokens, readFilterTokens]
      split
      · rw [ih, List.append_assoc]
      · split
        · rw [ih, List.append_assoc, List.cons_append]
        · exact ih _

/-- Parentheses are tokens, and what is between them is read on its own. -/
theorem filterTokens_group (text : String) :
    filterTokens ("(" ++ text ++ ")") = .opening :: filterTokens text ++ [.closing] := by
  have hchars : ("(" ++ text ++ ")").toList = '(' :: (text.toList ++ [')']) := by
    rw [String.toList_append, String.toList_append]
    rfl
  rw [filterTokens, hchars]
  show FilterToken.opening :: readFilterTokens [] (text.toList ++ [')']) = _
  rw [readFilterTokens_closed]
  rfl

/-- A word is one token. -/
theorem filterTokens_word {word : String} (h : IsFilterWord word) :
    filterTokens word = [.word word] := by
  have hread : ∀ text start : List Char, (∀ c ∈ text, isBlank c = false ∧ signToken? c = none) →
      readFilterTokens start text = endedWord (start ++ text) := by
    intro text
    induction text with
    | nil =>
        intro start _
        rw [List.append_nil]
        rfl
    | cons c text ih =>
        intro start hchars
        obtain ⟨hblank, hsign⟩ := hchars c List.mem_cons_self
        rw [readFilterTokens, hblank, if_neg Bool.false_ne_true, hsign]
        show readFilterTokens (start ++ [c]) text = _
        rw [ih _ fun d hd => hchars d (List.mem_cons_of_mem _ hd), List.append_assoc]
        rfl
  have hne : word.toList ≠ [] := mt String.toList_eq_nil_iff.mp h.1
  rw [filterTokens, hread _ _ h.2, List.nil_append, endedWord, if_neg (by simpa using hne),
    String.ofList_toList]

/-! ## The grammar -/

/-- The number that a word of digits writes. -/
def portNumber? (word : String) : Option Nat :=
  if word ≠ "" ∧ word.toList.all Char.isDigit then
    some (ofDigits (word.toList.filterMap digitValue?))
  else none

/-- The tokens of a primitive. -/
inductive ExpressesPrimitive : List FilterToken → FilterPrimitive → Prop where
  | address (side : PacketEnd) (text : String) :
      ExpressesPrimitive [.word side.word, .word text] (.address side text)
  | port {digits : String} {n : Nat} (number : portNumber? digits = some n) :
      ExpressesPrimitive [.word "port", .word digits] (.port n)
  | transport (t : Transport) : ExpressesPrimitive [.word (Named.name t)] (.transport t)
  | transportPort (t : Transport) {digits : String} {n : Nat}
      (number : portNumber? digits = some n) :
      ExpressesPrimitive [.word (Named.name t), .word "port", .word digits] (.transportPort t n)

/-- The two forms of the grammar.  Only an operand may follow a connective. -/
inductive FilterForm where
  | expression
  | operand
  deriving DecidableEq

/-- Tokens express an expression.  As a connective is followed by an operand,
    it joins everything in front of it, and both connectives bind alike. -/
inductive Expresses : FilterForm → List FilterToken → FilterExpr → Prop where
  | primitive {ts : List FilterToken} {q : FilterPrimitive} (h : ExpressesPrimitive ts q) :
      Expresses .operand ts (.primitive q)
  | group {ts : List FilterToken} {e : FilterExpr} (h : Expresses .expression ts e) :
      Expresses .operand (.opening :: ts ++ [.closing]) e
  | operand {ts : List FilterToken} {e : FilterExpr} (h : Expresses .operand ts e) :
      Expresses .expression ts e
  | joined (c : Connective) {ts us : List FilterToken} {e f : FilterExpr}
      (left : Expresses .expression ts e) (right : Expresses .operand us f) :
      Expresses .expression (ts ++ .word c.word :: us) (.joined c e f)

/-- Something is written for every expression. -/
theorem Expresses.ne_nil {form : FilterForm} {ts : List FilterToken} {e : FilterExpr}
    (h : Expresses form ts e) : ts ≠ [] := by
  induction h with
  | primitive h => cases h <;> exact List.cons_ne_nil _ _
  | group => exact List.cons_ne_nil _ _
  | operand _ ih => exact ih
  | joined => exact List.append_ne_nil_of_right_ne_nil _ (List.cons_ne_nil _ _)

/-- A text is a filter for an expression. -/
def IsFilter (text : String) (e : FilterExpr) : Prop := Expresses .expression (filterTokens text) e

/-! ## Reading -/

/-- What stands in front of an operand: nothing, or an expression with a
    connective behind it. -/
abbrev FilterFront := Option (FilterExpr × Connective)

/-- The expression up to the end of an operand. -/
def FilterFront.close : FilterFront → FilterExpr → FilterExpr
  | none, f => f
  | some (e, c), f => .joined c e f

/-- Where a reader is: in front of an operand, inside of a primitive, or behind
    an expression. -/
inductive FilterPlace where
  | front (front : FilterFront)
  | side (front : FilterFront) (side : PacketEnd)
  | transport (front : FilterFront) (t : Transport)
  | number (front : FilterFront) (t : Option Transport)
  | behind (e : FilterExpr)

/-- A reader: its place, and what stands in front of each open parenthesis. -/
structure FilterReader where
  place : FilterPlace
  outer : List FilterFront

/-- The connective that a word is. -/
def connective? (word : String) : Option Connective :=
  if word = "and" then some .and else if word = "or" then some .or else none

/-- The place behind the first word of a primitive. -/
def FilterPlace.behindWord? (front : FilterFront) (word : String) : Option FilterPlace :=
  if word = "host" then some (.side front .either)
  else if word = "src" then some (.side front .source)
  else if word = "dst" then some (.side front .dest)
  else if word = "port" then some (.number front none)
  else (Named.find? word).map (.transport front)

/-- A port with or without a transport. -/
def portPrimitive (t : Option Transport) (n : Nat) : FilterPrimitive :=
  match t with
  | some t => .transportPort t n
  | none => .port n

namespace FilterReader

/-- What follows an expression: a connective, or the end of a group. -/
def follow (e : FilterExpr) (outer : List FilterFront) : FilterToken → Option FilterReader
  | .word word => (connective? word).map fun c => ⟨.front (some (e, c)), outer⟩
  | .opening => none
  | .closing =>
      match outer with
      | [] => none
      | front :: outer => some ⟨.behind (front.close e), outer⟩

/-- Takes a token. -/
def step (r : FilterReader) (token : FilterToken) : Option FilterReader :=
  match r.place, token with
  | .front front, .opening => some ⟨.front none, front :: r.outer⟩
  | .front front, .word word => (FilterPlace.behindWord? front word).map (⟨·, r.outer⟩)
  | .side front side, .word word =>
      some ⟨.behind (front.close (.primitive (.address side word))), r.outer⟩
  | .number front t, .word word =>
      (portNumber? word).map fun n =>
        ⟨.behind (front.close (.primitive (portPrimitive t n))), r.outer⟩
  | .transport front t, token =>
      if token = .word "port" then some ⟨.number front (some t), r.outer⟩
      else follow (front.close (.primitive (.transport t))) r.outer token
  | .behind e, token => follow e r.outer token
  | _, _ => none

/-- Takes all tokens. -/
def read (r : FilterReader) (tokens : List FilterToken) : Option FilterReader :=
  tokens.foldlM step r

/-- A reader is behind an expression, which may go on. -/
inductive IsBehind (e : FilterExpr) (outer : List FilterFront) : FilterReader → Prop where
  | behind : IsBehind e outer ⟨.behind e, outer⟩
  | transport {front : FilterFront} {t : Transport}
      (closed : front.close (.primitive (.transport t)) = e) :
      IsBehind e outer ⟨.transport front t, outer⟩

variable {e e' : FilterExpr} {outer : List FilterFront} {r r' : FilterReader}

/-- Tokens are read one after another. -/
theorem read_append (r : FilterReader) (ts us : List FilterToken) :
    r.read (ts ++ us) = (r.read ts).bind (·.read us) :=
  List.foldlM_append

/-- The first token is read first. -/
theorem read_cons (r : FilterReader) (t : FilterToken) (ts : List FilterToken) :
    r.read (t :: ts) = (r.step t).bind (·.read ts) :=
  List.foldlM_cons

/-- What follows an operand is read the same way, whatever the operand was. -/
theorem IsBehind.step_eq (h : IsBehind e outer r) {token : FilterToken}
    (hport : token ≠ .word "port") : r.step token = follow e outer token := by
  cases h with
  | behind => rfl
  | transport closed =>
      subst closed
      exact if_neg hport

/-- A reader stands behind one expression at most. -/
theorem IsBehind.unique (h : IsBehind e outer r) (h' : IsBehind e' outer r) : e = e' := by
  cases h with
  | behind =>
      cases h'
      rfl
  | transport closed =>
      cases h' with
      | transport closed' => exact closed.symm.trans closed'

/-- Behind an expression, a connective waits for the next operand. -/
theorem step_connective (c : Connective) (h : IsBehind e outer r) :
    r.step (.word c.word) = some ⟨.front (some (e, c)), outer⟩ := by
  cases c with
  | and => exact h.step_eq (by decide)
  | or => exact h.step_eq (by decide)

/-- The tokens of a primitive lead behind it. -/
theorem read_primitive {ts : List FilterToken} {q : FilterPrimitive} (h : ExpressesPrimitive ts q)
    (front : FilterFront) (outer : List FilterFront) :
    ∃ r, read ⟨.front front, outer⟩ ts = some r
      ∧ IsBehind (front.close (.primitive q)) outer r := by
  cases h with
  | address side text => cases side <;> exact ⟨_, rfl, .behind⟩
  | @port digits n number =>
      refine ⟨⟨.behind (front.close (.primitive (.port n))), outer⟩, ?_, .behind⟩
      show ((portNumber? digits).map _).bind _ = _
      rw [number]
      rfl
  | transport t => cases t <;> exact ⟨_, rfl, .transport rfl⟩
  | @transportPort t digits n number =>
      refine ⟨⟨.behind (front.close (.primitive (.transportPort t n))), outer⟩, ?_, .behind⟩
      have hnumber : read ⟨.number front (some t), outer⟩ [.word digits]
          = some ⟨.behind (front.close (.primitive (.transportPort t n))), outer⟩ := by
        show ((portNumber? digits).map _).bind _ = _
        rw [number]
        rfl
      cases t <;> exact hnumber

/-- Tokens lead behind what they express: an operand also where something
    stands in front of it. -/
theorem read_of_expresses {form : FilterForm} {ts : List FilterToken} (h : Expresses form ts e)
    (front : FilterFront) (hfront : form = .expression → front = none) (outer : List FilterFront) :
    ∃ r, read ⟨.front front, outer⟩ ts = some r ∧ IsBehind (front.close e) outer r := by
  induction h generalizing front outer with
  | primitive h => exact read_primitive h front outer
  | @group ts e h ih =>
      obtain ⟨r, hread, hbehind⟩ := ih none (fun _ => rfl) (front :: outer)
      refine ⟨⟨.behind (front.close e), outer⟩, ?_, .behind⟩
      rw [List.cons_append, read_cons]
      show read ⟨.front none, front :: outer⟩ (ts ++ [.closing]) = _
      rw [read_append, hread, Option.bind_some, read_cons, hbehind.step_eq (by decide)]
      rfl
  | operand h ih => exact ih front nofun outer
  | @joined c ts us e f left right ihleft ihright =>
      obtain rfl := hfront rfl
      obtain ⟨r, hread, hbehind⟩ := ihleft none (fun _ => rfl) outer
      obtain ⟨r', hread', hbehind'⟩ := ihright (some (e, c)) nofun outer
      refine ⟨r', ?_, hbehind'⟩
      rw [read_append, hread, Option.bind_some, read_cons, step_connective c hbehind]
      exact hread'

end FilterReader

/-- Tokens express one expression at most. -/
theorem Expresses.unique {ts : List FilterToken} {e e' : FilterExpr}
    (h : Expresses .expression ts e) (h' : Expresses .expression ts e') : e = e' := by
  obtain ⟨r, hread, hbehind⟩ := FilterReader.read_of_expresses h none (fun _ => rfl) []
  obtain ⟨r', hread', hbehind'⟩ := FilterReader.read_of_expresses h' none (fun _ => rfl) []
  rw [hread] at hread'
  cases hread'
  exact hbehind.unique hbehind'

end NodeCapture
