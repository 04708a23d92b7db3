import BundleAudit.Proofs.Regex.WordEdge
import BundleAudit.Rule.DependencyExclusion
import BundleAudit.Source.Comments

/-!
# Names of modules in quotes

The last detector for an excluded module is meant for its name in quotes wherever that stands by itself. But it asks
for an edge of a word on the outer side of both quotes, and a quote is no word character: so it finds the name
between quotes exactly where a word character touches both of them (`Embedded`), and what it must not be followed by
never follows. An operand that stands by itself is never reported (`standalone_reports`).
-/

namespace BundleAudit.DependencyExclusion

open BundleAudit.Regex BundleAudit.Source BundleAudit.Text

/-! ## The detector -/

/-- The two quotes that a name may stand between. -/
def quotes : List Char := ['"', '\'']

/-- The name of a module between two quotes, with an edge of a word on the outer side of both. -/
def nameInQuotes (d : List Char) : List Expr := [.edge, .one (.oneOf quotes), .literal d, .one (.oneOf quotes), .edge]

/-- Blanks and a character that shows the name before it to be a label or a part of a longer text. -/
def labelMark : Expr := .seq (.many .blank) (.one (.oneOf [':', '-', ',']))

/-- The detector for the name of a module that stands by itself. -/
def standalone (d : List Char) : Detector where
  expr := .sequence (nameInQuotes d ++ [.notFollowedBy labelMark])
  severity := .medium
  description := s!"Standalone {String.ofList d} string literal"

theorem detectors_eq (d : List Char) : detectors d = (detectors d).dropLast ++ [standalone d] := rfl

/-- A text is the name of a module between two quotes. -/
def IsQuoted (d s : List Char) : Prop := ∃ q ∈ quotes, ∃ q' ∈ quotes, s = q :: (d ++ [q'])

theorem noWord_of_quote {q : Char} (isQuote : q ∈ quotes) : isWordChar q = false := by
  simp only [quotes, List.mem_cons, List.not_mem_nil, or_false] at isQuote
  rcases isQuote with rfl | rfl
  · decide +kernel
  · decide +kernel

theorem isPlain_nameInQuotes (d : List Char) : (Expr.sequence (nameInQuotes d)).IsPlain = true := by
  refine Expr.isPlain_sequence fun e mem => ?_
  simp only [nameInQuotes, List.mem_cons, List.not_mem_nil, or_false] at mem
  rcases mem with rfl | rfl | rfl | rfl | rfl
  · rfl
  · rfl
  · exact Expr.isPlain_literal d
  · rfl
  · rfl

theorem accepts_nameInQuotes {d before s after : List Char} :
    (Expr.sequence (nameInQuotes d)).Accepts before s after ↔
      IsQuoted d s ∧ WordAhead before ∧ WordAhead after := by
  unfold nameInQuotes
  simp only [Expr.accepts_sequence_cons, Expr.accepts_sequence_nil, Expr.accepts_literal]
  constructor
  · rintro ⟨_, _, rfl, ⟨rfl, front⟩, _, _, rfl, ⟨q, rfl, isQuote⟩, _, _, rfl, rfl, _, _, rfl, ⟨q', rfl, isQuote'⟩,
      _, _, rfl, ⟨rfl, back⟩, rfl⟩
    rw [Expr.contains_oneOf] at isQuote isQuote'
    simp only [List.append_nil, List.cons_append, List.nil_append, List.append_assoc, List.reverse_cons,
      List.reverse_nil] at front back
    exact ⟨⟨q, isQuote, q', isQuote', by simp⟩, (wordEdge_front (noWord_of_quote isQuote) _ _).1 front,
      (wordEdge_back (noWord_of_quote isQuote') _ _).1 back⟩
  · rintro ⟨⟨q, isQuote, q', isQuote', rfl⟩, front, back⟩
    refine ⟨[], _, rfl, ⟨rfl, ?_⟩, [q], _, rfl, ⟨q, rfl, Expr.contains_oneOf.2 isQuote⟩, d, [q'], rfl, rfl, [q'],
      [], rfl, ⟨q', rfl, Expr.contains_oneOf.2 isQuote'⟩, [], [], rfl, ⟨rfl, ?_⟩, rfl⟩
    · exact (wordEdge_front (noWord_of_quote isQuote) _ _).2 front
    · simpa using (wordEdge_back (noWord_of_quote isQuote') _ _).2 back

/-- Behind a word character the mark of a label does not follow. -/
theorem match_labelMark {p : Place} (word : WordAhead p.after) : labelMark.match some p = none := by
  obtain ⟨c, rest, here, isWord⟩ := word
  refine Option.eq_none_iff_forall_ne_some.2 fun r matched => ?_
  obtain ⟨s, after, split, ⟨blanks, mark, rfl, ⟨-, -, onlyBlanks⟩, d, rfl, isMark⟩, -⟩ := Expr.exists_of_match rfl matched
  rw [here] at split
  cases blanks with
  | nil =>
    obtain ⟨rfl, -⟩ := List.cons.inj split
    rw [Expr.contains_oneOf] at isMark
    simp only [List.mem_cons, List.not_mem_nil, or_false] at isMark
    rcases isMark with rfl | rfl | rfl
    all_goals exact absurd isWord (by decide +kernel)
  | cons b blanks =>
    obtain ⟨rfl, -⟩ := List.cons.inj split
    have blank := onlyBlanks c List.mem_cons_self
    rw [contains_blank, not_isBlank_of_isWordChar isWord] at blank
    cases blank

/-! ## What the detector finds -/

section
variable {d : List Char}

theorem length_of_isQuoted {s : List Char} (h : IsQuoted d s) : s.length = d.length + 2 := by
  obtain ⟨q, -, q', -, rfl⟩ := h
  simp

theorem quoted_of_matchHere? {nonempty : Bool} {p : Place} {m : Match}
    (h : (standalone d).expr.matchHere? nonempty p = some m) :
    m.start = p.offset ∧ IsQuoted d m.text ∧ WordAhead p.before ∧
      ∃ rest, p.after = m.text ++ rest ∧ WordAhead rest := by
  obtain ⟨r, matched, rfl⟩ := Option.map_eq_some_iff.1 h
  rw [standalone, Expr.match_sequence_concat] at matched
  obtain ⟨s, after, split, accepts, ended⟩ := Expr.exists_of_match (isPlain_nameInQuotes d) matched
  obtain ⟨isQuoted, front, back⟩ := accepts_nameInQuotes.1 accepts
  rw [Expr.match_notFollowedBy, match_labelMark back] at ended
  split at ended
  · cases ended
  split at ended
  · cases ended
  obtain rfl := Option.some.inj ended
  rw [Place.textSince_behind split]
  exact ⟨rfl, isQuoted, front, after, split, back⟩

theorem matchHere?_of_isQuoted {p : Place} {s rest : List Char} (isQuoted : IsQuoted d s)
    (front : WordAhead p.before) (split : p.after = s ++ rest) (back : WordAhead rest) :
    (standalone d).expr.matchHere? false p = some ⟨p.offset, s⟩ := by
  have found : ((standalone d).expr.matchHere? false p).isSome := by
    unfold Expr.matchHere?
    rw [Option.isSome_map, standalone, Expr.match_sequence_concat]
    refine Expr.isSome_match (isPlain_nameInQuotes d) split (accepts_nameInQuotes.2 ⟨isQuoted, front, back⟩) ?_
    rw [Expr.match_notFollowedBy, match_labelMark (p := p.behind s rest) back]
    rfl
  obtain ⟨m, matched⟩ := Option.isSome_iff_exists.1 found
  obtain ⟨start, isQuoted', -, rest', split', -⟩ := quoted_of_matchHere? matched
  have text : m.text = s :=
    (List.append_inj (split'.symm.trans split)
      ((length_of_isQuoted isQuoted').trans (length_of_isQuoted isQuoted).symm)).1
  rw [matched]
  cases m
  subst start text
  rfl

end

/-- The name of a module between two quotes, with a word character right before the first quote and right behind the
second one. -/
def Embedded (d text : List Char) (m : Match) : Prop :=
  IsQuoted d m.text ∧ ∃ front x y rest, text = front ++ x :: (m.text ++ y :: rest) ∧ m.start = front.length + 1 ∧
    isWordChar x = true ∧ isWordChar y = true

/-- A piece of a text that no word character touches on one of its sides. -/
def HasFreeSide (text : List Char) (m : Match) : Prop :=
  ∃ front rest, text = front ++ (m.text ++ rest) ∧ m.start = front.length ∧
    ((∀ c ∈ front.getLast?, isWordChar c = false) ∨ ∀ c ∈ rest.head?, isWordChar c = false)

theorem Embedded.not_hasFreeSide {d text : List Char} {m : Match} (h : Embedded d text m) : ¬ HasFreeSide text m := by
  obtain ⟨-, front, x, y, rest, rfl, start, before, behind⟩ := h
  rintro ⟨front', rest', same, start', free⟩
  have length : (front ++ [x]).length = front'.length := by
    rw [List.length_append, List.length_singleton, ← start, start']
  have split : (front ++ [x]) ++ (m.text ++ y :: rest) = front' ++ (m.text ++ rest') := by
    rw [← same, List.append_assoc, List.singleton_append]
  obtain ⟨rfl, same'⟩ := List.append_inj split length
  obtain rfl := List.append_cancel_left same'
  rcases free with free | free
  · rw [free x (by simp)] at before
    cases before
  · rw [free y rfl] at behind
    cases behind

theorem embedded_of_mem_findAll {d text : List Char} {m : Match} (h : m ∈ (standalone d).expr.findAll text) :
    Embedded d text m := by
  obtain ⟨front, back, nonempty, rfl, matched⟩ := Expr.exists_place_of_mem_findAll h
  obtain ⟨start, isQuoted, ⟨x, before, front_eq, word⟩, rest, split, y, rest', rfl, word'⟩ := quoted_of_matchHere? matched
  have reversed : front.reverse = x :: before := by simpa [Place.behind, Place.start] using front_eq
  obtain rfl : front = before.reverse ++ [x] := by
    rw [← List.reverse_reverse front, reversed, List.reverse_cons]
  obtain rfl : back = m.text ++ y :: rest' := split
  refine ⟨isQuoted, before.reverse, x, y, rest', by simp, ?_, word, word'⟩
  rw [start]
  simp [Place.behind, Place.start]

/-- Every name between quotes that words touch is found, unless it starts within one found before. -/
theorem mem_findAll_of_embedded {d text : List Char} {m : Match} (h : Embedded d text m) :
    m ∈ (standalone d).expr.findAll text ∨ ∃ m' ∈ (standalone d).expr.findAll text,
      m'.start < m.start ∧ m.start < m'.start + m'.text.length := by
  obtain ⟨isQuoted, front, x, y, rest, rfl, start, word, word'⟩ := h
  have split : front ++ x :: (m.text ++ y :: rest) = (front ++ [x]) ++ (m.text ++ y :: rest) := by simp
  rw [split]
  refine Expr.mem_findAll_or_covered ?_
  rw [matchHere?_of_isQuoted isQuoted ⟨x, front.reverse, by simp [Place.behind, Place.start], word⟩ rfl
    ⟨y, rest, rfl, word'⟩]
  cases m
  subst start
  simp [Place.behind, Place.start]

/-! ## What is reported -/

/-- The last two characters of a text, the last one first. -/
def ending (s : String) : List Char := s.toList.reverse.take 2

theorem ending_append (s : String) {t : String} (long : 2 ≤ t.toList.length) : ending (s ++ t) = ending t := by
  unfold ending
  rw [String.toList_append, List.reverse_append, List.take_append_of_le_length]
  rwa [List.length_reverse]

theorem ending_standalone (d : List Char) : ending (standalone d).description = ['l', 'a'] :=
  ending_append _ (by decide)

theorem ending_of_mem_dropLast {d : List Char} {o : Detector} (mem : o ∈ (detectors d).dropLast) :
    ending o.description ≠ ['l', 'a'] := by
  have ends : ∃ front, ∃ t ∈ [" module", " constructor instantiation", " instance method call",
      " static method call", " default export access"], o.description = front ++ t := by
    simp only [detectors, List.dropLast_cons_cons, List.dropLast_singleton, List.mem_cons, List.not_mem_nil,
      or_false] at mem
    rcases mem with rfl | rfl | rfl | rfl | rfl | rfl | rfl
    · exact ⟨_, " module", by decide, rfl⟩
    · exact ⟨_, " module", by decide, rfl⟩
    · exact ⟨_, " module", by decide, rfl⟩
    · exact ⟨_, " constructor instantiation", by decide, rfl⟩
    · exact ⟨_, " instance method call", by decide, rfl⟩
    · exact ⟨_, " static method call", by decide, rfl⟩
    · exact ⟨_, " default export access", by decide, rfl⟩
  have apart : ∀ t ∈ [" module", " constructor instantiation", " instance method call", " static method call",
      " default export access"], 2 ≤ t.toList.length ∧ ending t ≠ ['l', 'a'] := by
    decide
  obtain ⟨front, t, known, description⟩ := ends
  obtain ⟨long, other⟩ := apart t known
  rwa [description, ending_append front long]

def standaloneText (d : String) : String := s!"Standalone {d} string literal"

theorem description_standalone (d : String) : (standalone d.toList).description = standaloneText d := by
  show s!"Standalone {String.ofList d.toList} string literal" = _
  rw [String.ofList_toList]
  rfl

theorem standaloneText_inj {d d' : String} (same : standaloneText d' = standaloneText d) : d' = d := by
  have parts : toString d' = toString d := by simpa [standaloneText] using same
  exact parts

/-- The violation says of its match that it is the name of the module standing by itself. -/
def SaysStandalone (d : String) (v : Violation) : Prop :=
  v.message = s!"{standaloneText d}: {quotedString v.matched}"

theorem saysStandalone_iff {o : Detector} {raw : List Char} {rule file : String} {safe : List Expr} {m : Match}
    {v : Violation} (judged : o.judge raw rule file safe m = some v) (d : String) :
    SaysStandalone d v ↔ o.description = standaloneText d := by
  simp only [Detector.judge] at judged
  split at judged
  · cases judged
  obtain rfl := Option.some.inj judged
  unfold SaysStandalone
  simp only [Detector.report, quotedString, String.toList_ofList]
  constructor
  · intro same
    have parts : toString o.description = toString (standaloneText d) := by simpa using same
    exact parts
  · intro same
    rw [same]

/-- What the rule says of the name of a module that stands by itself: exactly what the last detector finds and
nothing in the script excuses. It finds the names between quotes that words touch on both sides, each unless it
starts within one found before. So it passes over every name with a free side. -/
structure ReportsStandalone (p : Profile) (file : String) (cleaned raw : List Char) (d : String) : Prop where
  reported : ∃ vs, (rule p).evaluate cleaned raw file = .ok vs ∧ ∀ v, v ∈ vs ∧ SaysStandalone d v ↔
    ∃ m ∈ (standalone d.toList).expr.findAll cleaned,
      (standalone d.toList).judge raw ruleName file (safe d.toList) m = some v
  embedded : ∀ m ∈ (standalone d.toList).expr.findAll cleaned, Embedded d.toList cleaned m
  complete : ∀ m, Embedded d.toList cleaned m → m ∈ (standalone d.toList).expr.findAll cleaned ∨
    ∃ m' ∈ (standalone d.toList).expr.findAll cleaned, m'.start < m.start ∧ m.start < m'.start + m'.text.length
  passedOver : ∀ m, HasFreeSide cleaned m → m ∉ (standalone d.toList).expr.findAll cleaned

theorem mem_and_saysStandalone_iff {p : Profile} {file : String} {cleaned raw : List Char} {d : String}
    (listed : d ∈ p.list .excludedDependencies) (v : Violation) :
    v ∈ (p.list .excludedDependencies).flatMap (check cleaned raw file) ∧ SaysStandalone d v ↔
      ∃ m ∈ (standalone d.toList).expr.findAll cleaned,
        (standalone d.toList).judge raw ruleName file (safe d.toList) m = some v := by
  constructor
  · rintro ⟨mem, said⟩
    obtain ⟨d', -, mem⟩ := List.mem_flatMap.1 mem
    obtain ⟨o, ho, mem⟩ := List.mem_flatMap.1 mem
    obtain ⟨m, hm, judged⟩ := List.mem_filterMap.1 mem
    have description := (saysStandalone_iff judged d).1 said
    rw [detectors_eq, List.mem_append, List.mem_singleton] at ho
    rcases ho with other | rfl
    · have apart := ending_of_mem_dropLast other
      rw [description, ← description_standalone, ending_standalone] at apart
      exact absurd rfl apart
    · obtain rfl := standaloneText_inj ((description_standalone d').symm.trans description)
      exact ⟨m, hm, judged⟩
  · rintro ⟨m, hm, judged⟩
    have mem : standalone d.toList ∈ detectors d.toList := by
      rw [detectors_eq]
      exact List.mem_append_right _ List.mem_cons_self
    have found : v ∈ check cleaned raw file d :=
      List.mem_flatMap.2 ⟨_, mem, List.mem_filterMap.2 ⟨m, hm, judged⟩⟩
    exact ⟨List.mem_flatMap.2 ⟨d, listed, found⟩, (saysStandalone_iff judged d).2 (description_standalone d)⟩

theorem standalone_reports (p : Profile) (file : String) (cleaned raw : List Char) {d : String}
    (listed : d ∈ p.list .excludedDependencies) : ReportsStandalone p file cleaned raw d where
  reported := ⟨_, rfl, mem_and_saysStandalone_iff listed⟩
  embedded _ := embedded_of_mem_findAll
  complete _ := mem_findAll_of_embedded
  passedOver _ free mem := (embedded_of_mem_findAll mem).not_hasFreeSide free

/-- A script in which the name of a module stands by itself, as an operand. -/
def loneOperand : List Char := "x = ".toList ++ ("\"ajv\"".toList ++ [';'])

theorem standalone_reports_of_loneOperand :
    "ajv" ∈ ({} : Profile).list .excludedDependencies ∧
      ReportsStandalone {} "a.js" loneOperand loneOperand "ajv" := by
  have listed : "ajv" ∈ ({} : Profile).list .excludedDependencies := by decide
  exact ⟨listed, standalone_reports {} "a.js" loneOperand loneOperand listed⟩

/-- Nothing in the script is a comment or excuses the operand, no word touches it and no mark of a label follows it,
but it is not reported. -/
theorem evaluate_loneOperand :
    strip loneOperand = loneOperand ∧ IsQuoted "ajv".toList "\"ajv\"".toList ∧ isWordChar ' ' = false ∧
      isWordChar ';' = false ∧ (∀ e ∈ safe "ajv".toList, e.occursIn loneOperand = false) ∧
      (rule {}).evaluate loneOperand loneOperand "a.js" = .ok [] := by
  refine ⟨by decide +kernel, ⟨'"', by decide, '"', by decide, by decide⟩, by decide +kernel, by decide +kernel, ?_, ?_⟩
  · have none : ((safe "ajv".toList).all fun e => !e.occursIn loneOperand) = true := by decide +kernel
    intro e mem
    simpa using List.all_eq_true.1 none e mem
  · have nothing : (({} : Profile).list .excludedDependencies).flatMap (check loneOperand loneOperand "a.js") = [] := by
      decide +kernel
    exact congrArg Except.ok nothing

end BundleAudit.DependencyExclusion
