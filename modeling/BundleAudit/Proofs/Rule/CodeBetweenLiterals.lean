import BundleAudit.Proofs.Rule.QuotedAccess
import BundleAudit.Proofs.Source.Stripping
import BundleAudit.Proofs.Text.Lowering
import Mathlib.Data.List.TakeWhile

/-!
# Code between literals

A quoted mention is the name of the evaluator between two quotes of one kind with no such quote between them, and
any two will do: that which closes a literal and that which opens the next one, or two apostrophes in different
literals. So a call of the evaluator between two literals is taken for a mention of it, and everything else on its
line is excused with it (`directCalls_between_literals`).
-/

namespace BundleAudit.DynamicEval

open BundleAudit.Regex (CharClass Expr Match)
open BundleAudit.Source BundleAudit.Text

/-! ## Quoted mentions -/

def evaluatorName : List Char := ['e', 'v', 'a', 'l']

/-- A text holds the name of the evaluator, in whichever case. -/
def NamesEvaluator (s : List Char) : Prop := evaluatorName <:+: s.map Char.toLower

instance (s : List Char) : Decidable (NamesEvaluator s) := inferInstanceAs (Decidable (_ <:+: _))

/-- What stands between some occurrence of a quote and the next one has a property. -/
def HoldsBetween (quote : Char) (P : List Char → Prop) (text : List Char) : Prop :=
  ∃ front body back, text = front ++ quote :: (body ++ quote :: back) ∧ quote ∉ body ∧ P body

/-- The quotes of quoted mentions. -/
def mentionQuotes : List Char := ['"', '\'', '\x60']

theorem quotedMentions_eq : quotedMentions = mentionQuotes.map quotedMention := rfl

theorem quote_facts {quote : Char} (isQuote : quote ∈ mentionQuotes) :
    quote ∈ marks ∧ quote.toLower = quote ∧ quote ∉ evaluatorName := by
  simp only [mentionQuotes, List.mem_cons, List.not_mem_nil, or_false] at isQuote
  rcases isQuote with rfl | rfl | rfl
  all_goals decide

theorem name_subset_marks : evaluatorName ⊆ marks := by
  simp [evaluatorName, marks]

theorem accepts_quotedMention_iff {quote : Char} (isQuote : quote ∈ mentionQuotes) {before s after : List Char} :
    (quotedMention quote).Accepts before s after ↔
      ∃ body, s = quote :: (body ++ [quote]) ∧ quote ∉ body ∧ evaluatorName <:+: body := by
  have many {s : List Char} : (∀ c ∈ s, (CharClass.noneOf [quote]).contains c = true) ↔ quote ∉ s := by
    simp only [Expr.contains_noneOf, List.mem_singleton]
    exact ⟨fun all mem => all quote mem rfl, fun out c mem same => out (same ▸ mem)⟩
  unfold quotedMention
  simp only [Expr.accepts_sequence_cons, Expr.accepts_sequence_nil, Expr.accepts_literal, Expr.accepts_many, many]
  constructor
  · rintro ⟨_, _, rfl, rfl, u, _, rfl, outU, name, _, rfl, named, w, _, rfl, outW, _, _, rfl, rfl, rfl⟩
    obtain rfl : name = evaluatorName := Expr.accepts_literal.1 named
    refine ⟨u ++ (evaluatorName ++ w), by simp, ?_, u, w, List.append_assoc _ _ _⟩
    simp only [List.mem_append, not_or]
    exact ⟨outU, (quote_facts isQuote).2.2, outW⟩
  · rintro ⟨_, rfl, out, u, w, rfl⟩
    simp only [List.mem_append, not_or] at out
    exact ⟨[quote], _, rfl, rfl, u, evaluatorName ++ (w ++ [quote]), by simp, out.1.1, evaluatorName, _, rfl,
      Expr.accepts_literal.2 rfl, w, _, rfl, out.2, [quote], [], rfl, rfl, rfl⟩

theorem occursIn_quotedMention_iff {quote : Char} (isQuote : quote ∈ mentionQuotes) {text : List Char} :
    (quotedMention quote).occursIn text = true ↔ HoldsBetween quote (evaluatorName <:+: ·) text := by
  have plain := isPlain_quotedMention quote
  constructor
  · intro occurs
    obtain ⟨front, _, back, rfl, accepts⟩ := Expr.exists_accepts_of_occursIn plain occurs
    obtain ⟨body, rfl, out, named⟩ := (accepts_quotedMention_iff isQuote).1 accepts
    exact ⟨front, body, back, by simp, out, named⟩
  · rintro ⟨front, body, back, rfl, out, named⟩
    have occurs : (quotedMention quote).occursIn (front ++ (quote :: (body ++ [quote]) ++ back)) = true :=
      Expr.occursIn_of_accepts plain ((accepts_quotedMention_iff isQuote).2 ⟨body, rfl, out, named⟩)
    simpa using occurs

/-! ## Mentions in lower case -/

theorem toLower_eq_quote {quote : Char} (isQuote : quote ∈ mentionQuotes) {c : Char} :
    c.toLower = quote ↔ c = quote := by
  constructor
  · intro lowered
    by_cases ascii : c.toNat < 0x80
    · have all : ∀ n < 0x80, (Char.ofNat n).toLower ∈ mentionQuotes → (Char.ofNat n).toLower = Char.ofNat n := by decide
      have same := all c.toNat ascii
      rw [Char.ofNat_toNat, lowered] at same
      exact (same isQuote).symm
    · rwa [toLower_of_lt (by omega)] at lowered
  · rintro rfl
    exact (quote_facts isQuote).2.1

theorem quote_mem_lowerWithin {quote : Char} (isQuote : quote ∈ mentionQuotes) {before text after : List Char} :
    quote ∈ lowerWithin before text after ↔ quote ∈ text := by
  obtain ⟨mark, same, -⟩ := quote_facts isQuote
  constructor
  · intro mem
    obtain ⟨front, back, split⟩ := List.append_of_mem mem
    obtain ⟨s, c, t, rfl, lowered, -⟩ := exists_split_of_mark mark after split
    rw [(toLower_eq_quote isQuote).1 lowered]
    exact List.mem_append_right s List.mem_cons_self
  · intro mem
    obtain ⟨s, t, rfl⟩ := List.append_of_mem mem
    rw [lowerWithin_append, lowerWithin, lowerAt_of_mark (same.symm ▸ mark), same]
    exact List.mem_append_right _ (List.mem_append_left _ List.mem_cons_self)

theorem isInfix_name_lowerWithin {before text after : List Char} :
    evaluatorName <:+: lowerWithin before text after ↔ NamesEvaluator text :=
  isInfix_lowerWithin_iff name_subset_marks before text after

/-- In lower case a name stands between two quotes exactly if it does in the text, in whichever case. -/
theorem holdsBetween_lower_iff {quote : Char} (isQuote : quote ∈ mentionQuotes) {text : List Char} :
    HoldsBetween quote (evaluatorName <:+: ·) (lower text) ↔ HoldsBetween quote NamesEvaluator text := by
  obtain ⟨mark, same, -⟩ := quote_facts isQuote
  rw [lower_eq]
  constructor
  · rintro ⟨front, body, back, split, out, named⟩
    obtain ⟨s, c, rest, rfl, first, -, split⟩ := exists_split_of_mark mark [] split
    obtain ⟨body, d, t, rfl, second, rfl, -⟩ := exists_split_of_mark mark [] split.symm
    rw [toLower_eq_quote isQuote] at first second
    subst first second
    rw [quote_mem_lowerWithin isQuote] at out
    exact ⟨s, body, t, rfl, out, isInfix_name_lowerWithin.1 named⟩
  · rintro ⟨front, body, back, rfl, out, named⟩
    have lowered (before after : List Char) : lowerAt before quote after = [quote] := by
      rw [lowerAt_of_mark (same.symm ▸ mark), same]
    rw [lowerWithin_append, lowerWithin, lowerWithin_append, lowerWithin, lowered, lowered]
    exact ⟨_, _, _, rfl, (quote_mem_lowerWithin isQuote).not.2 out, isInfix_name_lowerWithin.2 named⟩

theorem namesEvaluator_of_isInfix {s : List Char} (h : evaluatorName <:+: s) : NamesEvaluator s :=
  h.map Char.toLower

/-- A quoted mention occurs in a text or in its lower case exactly if the name of the evaluator stands, in whichever
case, between two quotes of its kind with no other between them. -/
theorem quotedMention_occurs_iff {quote : Char} (isQuote : quote ∈ mentionQuotes) {text : List Char} :
    ((quotedMention quote).occursIn text = true ∨ (quotedMention quote).occursIn (lower text) = true) ↔
      HoldsBetween quote NamesEvaluator text := by
  rw [occursIn_quotedMention_iff isQuote, occursIn_quotedMention_iff isQuote, holdsBetween_lower_iff isQuote]
  refine or_iff_right_of_imp ?_
  rintro ⟨front, body, back, split, out, named⟩
  exact ⟨front, body, back, split, out, namesEvaluator_of_isInfix named⟩

/-! ## Texts of one line -/

section
variable {raw : List Char} (oneLine : '\n' ∉ raw)
include oneLine

theorem takeWhile_ne_lineEnd {s : List Char} (sub : s ⊆ raw) : s.takeWhile (· != '\n') = s := by
  refine List.takeWhile_eq_self_iff.2 fun c mem => ?_
  rw [bne_iff_ne]
  rintro rfl
  exact oneLine (sub mem)

/-- The line and the window of a text of one line are the text. -/
theorem locate_of_oneLine {offset : Nat} (inside : offset ≤ raw.length) :
    (locate raw offset).line = raw ∧ (locate raw offset).window = raw := by
  have lead : lastLine (raw.take offset) = raw.take offset := by
    have sub : (raw.take offset).reverse ⊆ raw := fun c mem => List.mem_of_mem_take (List.mem_reverse.1 mem)
    rw [lastLine, takeWhile_ne_lineEnd oneLine sub, List.reverse_reverse]
  have tail : firstLine (raw.drop offset) = raw.drop offset :=
    takeWhile_ne_lineEnd oneLine (List.drop_subset offset raw)
  simp only [locate, Int.toNat_natCast, Nat.min_eq_left inside, lead, tail, List.length_take, List.length_drop]
  refine ⟨List.take_append_drop offset raw, ?_⟩
  rw [List.take_of_length_le (by omega)]
  have start : offset - offset - (contextRadius + 1) = 0 := by omega
  rw [start, List.drop_zero]

/-- On one line everything is excused or nothing. -/
theorem detect_of_oneLine (rule file : String) (ds : List Detector) (safe : List Expr) :
    detect raw raw rule file ds safe =
      if isSafeContext raw raw safe then []
      else ds.flatMap fun d => (d.expr.findAll raw).map fun m => d.report rule file m (locate raw m.start) := by
  have judged (d : Detector) : ∀ m ∈ d.expr.findAll raw, d.judge raw rule file safe m =
      if isSafeContext raw raw safe then none else some (d.report rule file m (locate raw m.start)) := by
    intro m mem
    obtain ⟨front, back, _, split, matched⟩ := Expr.exists_place_of_mem_findAll mem
    have start : m.start = front.length := (Expr.isPrefix_of_matchHere? matched).1.trans (Nat.zero_add _)
    have inside : m.start ≤ raw.length := by
      rw [start, split, List.length_append]
      omega
    obtain ⟨line, window⟩ := locate_of_oneLine oneLine inside
    simp only [Detector.judge, line, window]
  unfold detect
  by_cases excused : isSafeContext raw raw safe = true
  · simp only [if_pos excused] at judged ⊢
    exact List.flatMap_eq_nil_iff.2 fun d _ => List.filterMap_eq_nil_iff.2 (judged d)
  · simp only [if_neg excused] at judged ⊢
    refine List.flatMap_congr fun d _ => ?_
    rw [List.filterMap_congr (judged d)]
    exact congrFun List.filterMap_eq_map' _

end

/-! ## Code and strings -/

/-- The piece is a character of code. -/
def IsCode (p : Piece) : Prop := p = .division ∨ ∃ c, p = .plain c

/-- A text of one line is code and closed literals in double quotes. -/
structure CodeAndStrings (raw : List Char) (ps : List Piece) : Prop where
  decomposes : Decomposes none raw ps
  oneLine : '\n' ∉ raw
  kinds : ∀ p ∈ ps, IsCode p ∨ ∃ body, p = .literal .double body true

/-- The code between two neighbouring literals names the evaluator. -/
def CodeNamesEvaluator (ps : List Piece) : Prop :=
  ∃ front body code body' back,
    ps = front ++ .literal .double body true :: (code ++ .literal .double body' true :: back) ∧
      (∀ p ∈ code, IsCode p) ∧ NamesEvaluator (code.flatMap Piece.text)

theorem plain_ne_quote {previous : Option Char} {text : List Char} {ps : List Piece}
    (h : Decomposes previous text ps) {c : Char} (mem : .plain c ∈ ps) : c ≠ '"' := by
  induction h with
  | nil => cases mem
  | cons fits _ ih =>
    rcases List.mem_cons.1 mem with rfl | mem
    · rintro rfl
      cases fits.opens
    · exact ih mem

theorem quote_notMem_code {previous : Option Char} {text : List Char} {ps : List Piece}
    (h : Decomposes previous text ps) {code : List Piece} (sub : code ⊆ ps) (isCode : ∀ p ∈ code, IsCode p) :
    '"' ∉ code.flatMap Piece.text := by
  intro mem
  obtain ⟨p, inCode, inText⟩ := List.mem_flatMap.1 mem
  rcases isCode p inCode with rfl | ⟨c, rfl⟩
  · exact absurd inText (by decide)
  · exact plain_ne_quote h (sub inCode) (List.mem_singleton.1 inText).symm

theorem NamesEvaluator.of_isInfix {s t : List Char} (h : NamesEvaluator s) (sub : s <:+: t) : NamesEvaluator t :=
  List.IsInfix.trans h (sub.map Char.toLower)

/-- A text that follows a quote inside a literal up to the next quote lies in the literal. -/
theorem isInfix_body {body u v gap back rest : List Char}
    (opened : (Piece.literal .double body true).text = u ++ '"' :: v) (inside : v ≠ [])
    (behind : gap ++ '"' :: back = v ++ rest) (out : '"' ∉ gap) : gap <:+: body := by
  obtain ⟨w, c, rfl⟩ := (List.eq_nil_or_concat v).resolve_left inside
  have split : ('"' :: body) ++ ['"'] = (u ++ '"' :: w) ++ [c] := by
    simpa [Piece.text, closing, Literal.closer] using opened
  obtain ⟨ahead, same⟩ := List.append_inj' split rfl
  obtain rfl := List.singleton_inj.1 same
  have rear : w <:+ body := by
    cases u with
    | nil => exact (List.cons.inj ahead).2 ▸ List.suffix_rfl
    | cons d u => exact (List.cons.inj ahead).2 ▸ (List.suffix_cons '"' w).trans (List.suffix_append u _)
  rw [List.concat_eq_append, List.append_assoc, List.singleton_append] at behind
  obtain ⟨tail, rfl, -⟩ := exists_rest_of_notMem out behind
  exact (List.prefix_append gap tail).isInfix.trans rear.isInfix

section
variable {raw : List Char} {ps : List Piece} (h : CodeAndStrings raw ps)
include h

theorem CodeAndStrings.strip_eq : strip raw = raw := by
  have kept : ∀ p ∈ ps, p.kept = p.text := by
    intro p mem
    rcases h.kinds p mem with (rfl | ⟨c, rfl⟩) | ⟨body, rfl⟩
    · rfl
    · rfl
    · rfl
  rw [h.decomposes.strip_eq, ← h.decomposes.flatMap_text]
  exact List.flatMap_congr kept

/-- A piece that holds a quote is a literal. -/
theorem CodeAndStrings.exists_body {p : Piece} (mem : p ∈ ps) (quoted : '"' ∈ p.text) :
    ∃ body, p = .literal .double body true := by
  refine (h.kinds p mem).resolve_left fun isCode => ?_
  refine quote_notMem_code h.decomposes (List.cons_subset.2 ⟨mem, List.nil_subset ps⟩)
    (List.forall_mem_singleton.2 isCode) ?_
  simpa using quoted

/-- From a place between two pieces up to the next quote there is code, and the quote opens a literal. -/
theorem CodeAndStrings.exists_code {rest : List Piece} (sub : rest ⊆ ps) {gap back : List Char}
    (split : rest.flatMap Piece.text = gap ++ '"' :: back) (out : '"' ∉ gap) :
    ∃ code body after, rest = code ++ .literal .double body true :: after ∧ gap = code.flatMap Piece.text ∧
      ∀ p ∈ code, IsCode p := by
  obtain ⟨code, p, after, u, v, rfl, opened, rfl, -⟩ := exists_split_of_flatMap_eq split
  obtain ⟨outCode, outFront⟩ := not_or.1 (List.mem_append.not.1 out)
  obtain ⟨body, rfl⟩ := h.exists_body (sub (List.mem_append_right code List.mem_cons_self))
    (opened ▸ List.mem_append_right u List.mem_cons_self)
  have opens : u = [] := by
    cases u with
    | nil => rfl
    | cons d u =>
      obtain ⟨rfl, -⟩ := List.cons.inj opened
      exact absurd List.mem_cons_self outFront
  subst opens
  refine ⟨code, body, after, rfl, List.append_nil _, fun p mem => ?_⟩
  refine (h.kinds p (sub (List.mem_append_left _ mem))).resolve_right ?_
  rintro ⟨body, rfl⟩
  exact outCode (List.mem_flatMap.2 ⟨_, mem, List.mem_cons_self⟩)

/-- If no literal names the evaluator, what names it between two quotes is the code between two literals. -/
theorem CodeAndStrings.codeNamesEvaluator_iff
    (silent : ∀ body, .literal .double body true ∈ ps → ¬ NamesEvaluator body) :
    HoldsBetween '"' NamesEvaluator raw ↔ CodeNamesEvaluator ps := by
  rw [← h.decomposes.flatMap_text]
  constructor
  · rintro ⟨front, gap, back, split, out, named⟩
    obtain ⟨before, p, rest, u, v, rfl, opened, -, behind⟩ := exists_split_of_flatMap_eq split
    have mem : p ∈ before ++ p :: rest := List.mem_append_right before List.mem_cons_self
    obtain ⟨body, rfl⟩ := h.exists_body mem (opened ▸ List.mem_append_right u List.mem_cons_self)
    -- The first quote closes its literal, for otherwise the literal would name the evaluator.
    have closes : v = [] := by
      by_contra inside
      exact silent body mem (named.of_isInfix (isInfix_body opened inside behind out))
    subst closes
    have sub : rest ⊆ before ++ .literal .double body true :: rest := fun p mem => by simp [mem]
    obtain ⟨code, body', after, rfl, rfl, isCode⟩ := h.exists_code sub behind.symm out
    exact ⟨before, body, code, body', after, rfl, isCode, named⟩
  · rintro ⟨front, body, code, body', back, rfl, isCode, named⟩
    have sub : code ⊆ front ++ .literal .double body true :: (code ++ .literal .double body' true :: back) :=
      fun p mem => by simp [mem]
    have out := quote_notMem_code h.decomposes sub isCode
    refine ⟨front.flatMap Piece.text ++ '"' :: body, code.flatMap Piece.text, body' ++ '"' :: back.flatMap Piece.text,
      ?_, out, named⟩
    simp [Piece.text, closing, Literal.closer]

end

/-! ## What is reported -/

/-- Between two quotes of one kind, with no other between them, the text names the evaluator. -/
def LooksMentioned (raw : List Char) : Prop := ∃ quote ∈ mentionQuotes, HoldsBetween quote NamesEvaluator raw

/-- Nothing but a quoted mention excuses a text of one line. -/
def OnlyMentionsExcuse (p : Profile) (raw : List Char) : Prop :=
  ∀ e ∈ safe p, e ∉ quotedMentions → e.occursIn raw = false ∧ e.occursIn (lower raw) = false

theorem isSafeContext_iff {p : Profile} {raw : List Char} (only : OnlyMentionsExcuse p raw) :
    isSafeContext raw raw (safe p) = true ↔ LooksMentioned raw := by
  have occurs (e : Expr) : (e.occursIn raw || e.occursIn (lower raw) || e.occursIn raw) = true ↔
      e.occursIn raw = true ∨ e.occursIn (lower raw) = true := by
    rw [Bool.or_eq_true, Bool.or_eq_true]
    exact or_iff_left_of_imp .inl
  unfold isSafeContext
  simp only [List.any_eq_true, occurs]
  constructor
  · rintro ⟨e, mem, found⟩
    by_cases mention : e ∈ quotedMentions
    · rw [quotedMentions_eq] at mention
      obtain ⟨quote, isQuote, rfl⟩ := List.mem_map.1 mention
      exact ⟨quote, isQuote, (quotedMention_occurs_iff isQuote).1 found⟩
    · obtain ⟨plain, lowered⟩ := only e mem mention
      simp [plain, lowered] at found
  · rintro ⟨quote, isQuote, between⟩
    have mention : quotedMention quote ∈ quotedMentions := List.mem_map_of_mem isQuote
    exact ⟨_, List.mem_append_left _ (List.mem_append_right _ mention), (quotedMention_occurs_iff isQuote).2 between⟩

/-- The detector for direct calls. -/
def directCall : Detector := detectors[0]

/-- The violation says that the evaluator is called. -/
def saysDirectCall (v : Violation) : Bool := "Direct eval() call: ".toList.isPrefixOf v.message.toList

theorem toList_message (d : Detector) (rule file : String) (m : Match) (place : Location) :
    (d.report rule file m place).message.toList = d.description.toList ++ (": ".toList ++ quoted m.text) := by
  show (d.description ++ ": " ++ String.ofList (quoted m.text)).toList = _
  simp only [String.toList_append, String.toList_ofList, List.append_assoc]

theorem saysDirectCall_report (rule file : String) (m : Match) (place : Location) :
    saysDirectCall (directCall.report rule file m place) = true := by
  have front : "Direct eval() call: ".toList = directCall.description.toList ++ ": ".toList := by decide
  rw [saysDirectCall, toList_message, front, ← List.append_assoc, List.isPrefixOf_iff_prefix]
  exact List.prefix_append _ _

theorem not_saysDirectCall_report {d : Detector} (other : d ∈ detectors.tail) (rule file : String) (m : Match)
    (place : Location) : saysDirectCall (d.report rule file m place) = false := by
  have initials : ∀ d ∈ detectors.tail, d.description.toList.head?.any (· != 'D') = true := by decide
  have initial := initials d other
  rw [saysDirectCall, toList_message]
  cases description : d.description.toList with
  | nil => simp [description] at initial
  | cons c rest =>
    rw [description] at initial
    have differs : ('D' == c) = false := beq_eq_false_iff_ne.2 (bne_iff_ne.1 initial).symm
    have front : "Direct eval() call: ".toList = 'D' :: "irect eval() call: ".toList := by decide
    rw [front, List.cons_append, List.isPrefixOf, differs, Bool.false_and]

/-- Of the reports of all detectors those of direct calls are that of one. -/
theorem filter_saysDirectCall (file : String) (raw : List Char) :
    (detectors.flatMap fun d => (d.expr.findAll raw).map fun m =>
        d.report ruleName file m (locate raw m.start)).filter saysDirectCall =
      (directCall.expr.findAll raw).map fun m => directCall.report ruleName file m (locate raw m.start) := by
  have split : detectors = directCall :: detectors.tail := rfl
  rw [split, List.flatMap_cons, List.filter_append]
  have own : ∀ v ∈ (directCall.expr.findAll raw).map fun m => directCall.report ruleName file m (locate raw m.start),
      saysDirectCall v = true := by
    intro v mem
    obtain ⟨m, -, rfl⟩ := List.mem_map.1 mem
    exact saysDirectCall_report ruleName file m _
  have others : ∀ v ∈ detectors.tail.flatMap fun d => (d.expr.findAll raw).map fun m =>
      d.report ruleName file m (locate raw m.start), ¬ saysDirectCall v = true := by
    intro v mem
    obtain ⟨d, other, found⟩ := List.mem_flatMap.1 mem
    obtain ⟨m, -, rfl⟩ := List.mem_map.1 found
    rw [not_saysDirectCall_report other]
    exact Bool.false_ne_true
  rw [List.filter_eq_self.2 own, List.filter_eq_nil_iff.2 others, List.append_nil]

/-- In a line of code and strings of which none names the evaluator, the direct calls are reported, each once, exactly
if the text nowhere looks like a quoted mention. If it does, nothing is reported. It does so wherever the code between
two literals names the evaluator. -/
theorem directCalls_between_literals (p : Profile) (file : String) {raw : List Char} {ps : List Piece}
    (text : CodeAndStrings raw ps) (silent : ∀ body, .literal .double body true ∈ ps → ¬ NamesEvaluator body)
    (only : OnlyMentionsExcuse p raw) :
    strip raw = raw ∧ (HoldsBetween '"' NamesEvaluator raw ↔ CodeNamesEvaluator ps) ∧
      ∃ vs, (rule p).evaluate raw raw file = .ok vs ∧ (LooksMentioned raw → vs = []) ∧
        (¬ LooksMentioned raw → vs.filter saysDirectCall =
          (directCall.expr.findAll raw).map fun m => directCall.report ruleName file m (locate raw m.start)) := by
  refine ⟨text.strip_eq, text.codeNamesEvaluator_iff silent, _, rfl, fun looks => ?_, fun looks => ?_⟩
  · rw [detect_of_oneLine text.oneLine, if_pos ((isSafeContext_iff only).2 looks)]
  · rw [detect_of_oneLine text.oneLine, if_neg ((isSafeContext_iff only).not.2 looks)]
    exact filter_saysDirectCall file raw

/-- A call of the evaluator between two literals. -/
def callBetween : List Char := "\"a\"+eval(x)+\"b\"".toList

def callBetweenPieces : List Piece :=
  .literal .double ['a'] true :: ("+eval(x)+".toList.map .plain ++ [.literal .double ['b'] true])

theorem fits_single {previous : Option Char} {c : Char} (ordinary : c ∉ ['"', '\\', '\n']) (rest : List Char) :
    (Piece.literal .double [c] true).Fits previous rest := by
  simp only [List.mem_cons, List.not_mem_nil, or_false, not_or] at ordinary
  obtain ⟨noQuote, noBackslash, noLineEnd⟩ := ordinary
  refine ⟨rfl, ⟨.inr ⟨rfl, ?_⟩, fun before d after split => ?_⟩, nofun⟩
  · simp [trailingBackslashes, noBackslash]
  · obtain ⟨rfl, rfl, rfl⟩ : before = [] ∧ d = c ∧ after = [] := by
      cases before with
      | nil =>
        obtain ⟨rfl, none⟩ := List.cons.inj split
        exact ⟨rfl, rfl, none.symm⟩
      | cons b before => simp at split
    rintro (lineEnd | ⟨closer, -⟩)
    · exact noLineEnd (lineEnd d rfl)
    · exact noQuote (Option.some.inj closer)

theorem openingAt_ordinary {c : Char} (ordinary : c ∉ ['\n', '/', '"', '\'', '\x60']) (previous : Option Char)
    (rest : List Char) : openingAt previous (c :: rest) = some .plain := by
  simp only [List.mem_cons, List.not_mem_nil, or_false, not_or] at ordinary
  obtain ⟨noLineEnd, noSlash, noDouble, noSingle, noTemplate⟩ := ordinary
  have noQuote : Literal.ofQuote? c = none := by
    unfold Literal.ofQuote?
    split <;> simp_all
  unfold openingAt
  split <;> simp_all

/-- Ordinary characters are code. -/
theorem decomposes_ordinary {rest : List Char} {ps : List Piece} (tail : ∀ previous, Decomposes previous rest ps) :
    ∀ (code : List Char) (previous : Option Char), (∀ c ∈ code, c ∉ ['\n', '/', '"', '\'', '\x60']) →
      Decomposes previous (code ++ rest) (code.map .plain ++ ps)
  | [], previous, _ => tail previous
  | c :: code, previous, ordinary => by
    obtain ⟨first, others⟩ := List.forall_mem_cons.1 ordinary
    exact .cons (p := .plain c) ⟨openingAt_ordinary first previous _, trivial⟩
      (decomposes_ordinary tail code _ others)

theorem codeAndStrings_callBetween : CodeAndStrings callBetween callBetweenPieces where
  decomposes := by
    have last (previous : Option Char) : Decomposes previous (['"', 'b', '"'] ++ []) [.literal .double ['b'] true] :=
      .cons (p := .literal .double ['b'] true) (fits_single (by decide) []) .nil
    exact .cons (p := .literal .double ['a'] true) (fits_single (by decide) _)
      (decomposes_ordinary last "+eval(x)+".toList _ (by simp))
  oneLine := by decide
  kinds := by
    intro p mem
    rcases List.mem_cons.1 mem with rfl | mem
    · exact .inr ⟨['a'], rfl⟩
    rcases List.mem_append.1 mem with code | mem
    · obtain ⟨c, -, rfl⟩ := List.mem_map.1 code
      exact .inl (.inr ⟨c, rfl⟩)
    · exact .inr ⟨['b'], List.mem_singleton.1 mem⟩

theorem silent_callBetween : ∀ body, .literal .double body true ∈ callBetweenPieces → ¬ NamesEvaluator body := by
  have literals : ∀ p ∈ callBetweenPieces, ∀ body ∈ (match p with | .literal _ body _ => some body | _ => none),
      ¬ NamesEvaluator body := by
    decide
  exact fun body mem => literals _ mem body rfl

theorem onlyMentionsExcuse_callBetween : OnlyMentionsExcuse {} callBetween := by
  let others := (safe {}).take ((safe {}).length - 14)
  have parts : safe {} = others ++ quotedMentions ++ otherSafe.2 := rfl
  have none : (others ++ otherSafe.2).all
      (fun e => !e.occursIn callBetween && !e.occursIn (lower callBetween)) = true := by
    decide +kernel
  intro e mem other
  rw [parts, List.append_assoc, List.mem_append, List.mem_append] at mem
  have mem' : e ∈ others ++ otherSafe.2 := by
    rw [List.mem_append]
    exact mem.imp_right fun mem => mem.resolve_left other
  simpa using List.all_eq_true.1 none e mem'

theorem directCalls_between_literals_of_callBetween :
    CodeAndStrings callBetween callBetweenPieces ∧
      (∀ body, .literal .double body true ∈ callBetweenPieces → ¬ NamesEvaluator body) ∧
      OnlyMentionsExcuse {} callBetween ∧
      strip callBetween = callBetween ∧
      (HoldsBetween '"' NamesEvaluator callBetween ↔ CodeNamesEvaluator callBetweenPieces) ∧
      ∃ vs, (rule {}).evaluate callBetween callBetween "a.js" = .ok vs ∧ (LooksMentioned callBetween → vs = []) ∧
        (¬ LooksMentioned callBetween → vs.filter saysDirectCall = (directCall.expr.findAll callBetween).map fun m =>
          directCall.report ruleName "a.js" m (locate callBetween m.start)) :=
  ⟨codeAndStrings_callBetween, silent_callBetween, onlyMentionsExcuse_callBetween,
    directCalls_between_literals {} "a.js" codeAndStrings_callBetween silent_callBetween
      onlyMentionsExcuse_callBetween⟩

/-- The call is found, but nothing is reported. -/
theorem evaluate_callBetween :
    CodeAndStrings callBetween callBetweenPieces ∧
      (∀ body, .literal .double body true ∈ callBetweenPieces → ¬ NamesEvaluator body) ∧
      OnlyMentionsExcuse {} callBetween ∧
      directCall.expr.findAll callBetween = [⟨4, "eval(".toList⟩] ∧
      (rule {}).evaluate callBetween callBetween "a.js" = .ok [] := by
  refine ⟨codeAndStrings_callBetween, silent_callBetween, onlyMentionsExcuse_callBetween, by decide +kernel, ?_⟩
  have nothing : detect callBetween callBetween ruleName "a.js" detectors (safe {}) = [] := by decide +kernel
  exact congrArg Except.ok nothing

end BundleAudit.DynamicEval
