import BundleAudit.Proofs.Regex.Unanchored
import BundleAudit.Rule.GlobalExport
import Mathlib.Data.List.Infix

/-!
# Where an export name counts as published

A name is published by an assignment to it, or by an access to it on the exports of a module or on one of the roots
of the profile. In an assignment the name ends where it is written to an end, since only quotes, brackets, blanks and
an equals sign may follow. An access asks for nothing behind the name, so that it may be the front of a longer one:
a script without the whole name passes exactly if there is such an access (`publishes_name`).

Every form depends on what stands right before it only, and there an end of a line counts like the start of the
script. So what passes goes on passing behind whole lines and in front of anything (`evaluate_surrounded`).
-/

namespace BundleAudit.GlobalExport

open BundleAudit.Regex BundleAudit.Text

/-! ## What the forms accept -/

/-- What may stand between an object and the name of its property. -/
def openings : List (List Char) := [['.'], ['[', '"'], ['[', '\'']]

/-- What may stand behind the name of a property. -/
def closings : List (List Char) := [[], ['"', ']'], ['\'', ']']]

theorem accepts_accessOpening {before s after : List Char} :
    accessOpening.Accepts before s after ↔ s ∈ openings := by
  have parts : accessOpening.Accepts before s after ↔
      (Expr.literal ['.']).Accepts before s after ∨ ∃ s₁ s₂, s = s₁ ++ s₂ ∧
        (Expr.literal ['[']).Accepts before s₁ (s₂ ++ after) ∧
          ∃ q, s₂ = [q] ∧ (CharClass.oneOf ['"', '\'']).contains q = true := .rfl
  simp only [parts, Expr.accepts_literal, Expr.contains_oneOf, openings, List.mem_cons, List.not_mem_nil, or_false]
  constructor
  · rintro (rfl | ⟨_, _, rfl, rfl, q, rfl, rfl | rfl⟩) <;> simp
  · rintro (rfl | rfl | rfl)
    · exact .inl rfl
    · exact .inr ⟨['['], ['"'], rfl, rfl, '"', rfl, .inl rfl⟩
    · exact .inr ⟨['['], ['\''], rfl, rfl, '\'', rfl, .inr rfl⟩

theorem accepts_accessClosing {before s after : List Char} :
    accessClosing.Accepts before s after ↔ s ∈ closings := by
  have parts : accessClosing.Accepts before s after ↔ s = [] ∨ ∃ s₁ s₂, s = s₁ ++ s₂ ∧
      (∃ q, s₁ = [q] ∧ (CharClass.oneOf ['"', '\'']).contains q = true) ∧
        (Expr.literal [']']).Accepts (s₁.reverse ++ before) s₂ after := Expr.accepts_optional
  simp only [parts, Expr.accepts_literal, Expr.contains_oneOf, closings, List.mem_cons, List.not_mem_nil, or_false]
  constructor
  · rintro (rfl | ⟨_, _, rfl, ⟨q, rfl, rfl | rfl⟩, rfl⟩) <;> simp
  · rintro (rfl | rfl | rfl)
    · exact .inl rfl
    · exact .inr ⟨['"'], [']'], rfl, ⟨'"', rfl, .inl rfl⟩, rfl⟩
    · exact .inr ⟨['\''], [']'], rfl, ⟨'\'', rfl, .inr rfl⟩, rfl⟩

/-- An access to the name on an object. -/
def accessOn (object : Expr) (name : List Char) : Expr :=
  .sequence [.edge, object, accessOpening, .literal name, accessClosing]

/-- There is an access to the name on an object: behind an edge of a word the object, an opening and the name. What
stands behind the name may be anything. -/
def Accessed (name object text : List Char) : Prop :=
  ∃ front opening back, opening ∈ openings ∧ text = front ++ (object ++ (opening ++ (name ++ back))) ∧
    ¬ (WordAhead front.reverse ↔ WordAhead (object ++ opening))

theorem ne_nil_of_mem_openings {opening : List Char} (mem : opening ∈ openings) (object : List Char) :
    object ++ opening ≠ [] := by
  intro none
  rw [(List.append_eq_nil_iff.1 none).2] at mem
  exact absurd mem (by decide)

section
variable {object : Expr} {objects : List (List Char)} (plain : object.IsPlain = true)
  (takes : ∀ {before s after : List Char}, object.Accepts before s after ↔ s ∈ objects)
include plain

theorem isPlain_accessOn (name : List Char) : (accessOn object name).IsPlain = true := by
  refine Expr.isPlain_sequence fun e mem => ?_
  simp only [List.mem_cons, List.not_mem_nil, or_false] at mem
  rcases mem with rfl | rfl | rfl | rfl | rfl
  · rfl
  · exact plain
  · rfl
  · exact Expr.isPlain_literal name
  · rfl

include takes

theorem occursIn_accessOn_iff (name text : List Char) :
    (accessOn object name).occursIn text = true ↔ ∃ o ∈ objects, Accessed name o text := by
  have accepted {before s after : List Char} : (accessOn object name).Accepts before s after ↔
      ¬ (WordAhead before ↔ WordAhead (s ++ after)) ∧ ∃ o ∈ objects, ∃ opening ∈ openings, ∃ closing ∈ closings,
        s = o ++ (opening ++ (name ++ closing)) := by
    unfold accessOn
    rw [Expr.accepts_edge]
    refine and_congr_right fun _ => ?_
    simp only [Expr.accepts_sequence_cons, Expr.accepts_sequence_nil, Expr.accepts_literal, accepts_accessOpening,
      accepts_accessClosing, takes]
    constructor
    · rintro ⟨o, _, rfl, known, opening, _, rfl, opens, _, _, rfl, rfl, closing, _, rfl, closes, rfl⟩
      exact ⟨o, known, opening, opens, closing, closes, by simp⟩
    · rintro ⟨o, known, opening, opens, closing, closes, rfl⟩
      exact ⟨o, _, rfl, known, opening, _, rfl, opens, name, closing, rfl, rfl, closing, [], by simp, closes, rfl⟩
  constructor
  · intro occurs
    obtain ⟨front, s, back, rfl, accepts⟩ := Expr.exists_accepts_of_occursIn (isPlain_accessOn plain name) occurs
    obtain ⟨edge, o, known, opening, opens, closing, -, rfl⟩ := accepted.1 accepts
    refine ⟨o, known, front, opening, closing ++ back, opens, by simp, ?_⟩
    have ahead : o ++ (opening ++ (name ++ closing)) ++ back = (o ++ opening) ++ (name ++ (closing ++ back)) := by
      simp
    rwa [ahead, wordAhead_append (ne_nil_of_mem_openings opens o)] at edge
  · rintro ⟨o, known, front, opening, back, opens, rfl, edge⟩
    have ahead : o ++ (opening ++ (name ++ back)) = (o ++ (opening ++ name)) ++ back := by simp
    rw [ahead]
    refine Expr.occursIn_of_accepts (isPlain_accessOn plain name) (accepted.2 ⟨?_, ?_⟩)
    · rw [← ahead, ← List.append_assoc, wordAhead_append (ne_nil_of_mem_openings opens o)]
      exact edge
    · exact ⟨o, known, opening, opens, [], by decide, by simp⟩

end

theorem isPlain_roots (roots : List String) :
    (Expr.choice (roots.map fun r => .literal r.toList)).IsPlain = true := by
  refine Expr.isPlain_choice fun e mem => ?_
  obtain ⟨r, -, rfl⟩ := List.mem_map.1 mem
  exact Expr.isPlain_literal _

theorem accepts_roots {roots : List String} (nonempty : roots ≠ []) {before s after : List Char} :
    (Expr.choice (roots.map fun r => .literal r.toList)).Accepts before s after ↔ s ∈ roots.map String.toList := by
  rw [Expr.accepts_choice (mt List.map_eq_nil_iff.1 nonempty), List.mem_map]
  constructor
  · rintro ⟨_, mem, accepts⟩
    obtain ⟨r, listed, rfl⟩ := List.mem_map.1 mem
    exact ⟨r, listed, (Expr.accepts_literal.1 accepts).symm⟩
  · rintro ⟨r, listed, rfl⟩
    exact ⟨_, List.mem_map_of_mem listed, Expr.accepts_literal.2 rfl⟩

/-- An assignment to the name, in one of its two forms. -/
def Assigned (name text : List Char) : Prop :=
  (wrapperAssignment name).occursIn text = true ∨ (aliasAssignment name).occursIn text = true

/-- A name is published by an access to it or by an assignment to it. -/
theorem isPublished_iff {name : List Char} {roots : List String} {text : List Char} :
    isPublished name roots text = true ↔
      (∃ object ∈ "exports" :: roots, Accessed name object.toList text) ∨ Assigned name text := by
  have exports : (onExports name).occursIn text = true ↔ Accessed name "exports".toList text := by
    have known {before s after : List Char} : (Expr.literal "exports".toList).Accepts before s after ↔
        s ∈ ["exports".toList] := by
      rw [Expr.accepts_literal, List.mem_singleton]
    have occurs := occursIn_accessOn_iff (Expr.isPlain_literal "exports".toList) known name text
    simp only [List.mem_singleton, exists_eq_left] at occurs
    exact occurs
  have onRoots : (if roots.isEmpty then [] else [onRoot roots name]).any (·.occursIn text) = true ↔
      ∃ object ∈ roots, Accessed name object.toList text := by
    by_cases none : roots = []
    · simp [none]
    · have occurs := occursIn_accessOn_iff (isPlain_roots roots) (accepts_roots none) name text
      have listed : (∃ o ∈ roots.map String.toList, Accessed name o text) ↔
          ∃ object ∈ roots, Accessed name object.toList text := by
        constructor
        · rintro ⟨_, mem, accessed⟩
          obtain ⟨object, root, rfl⟩ := List.mem_map.1 mem
          exact ⟨object, root, accessed⟩
        · rintro ⟨object, root, accessed⟩
          exact ⟨_, List.mem_map_of_mem root, accessed⟩
      rw [← listed, ← occurs, if_neg (by simpa using none)]
      simp [onRoot, accessOn]
  rw [isPublished, forms, List.any_append, Bool.or_eq_true, onRoots]
  simp only [List.any_cons, List.any_nil, Bool.or_false, Bool.or_eq_true, exports, Assigned, List.mem_cons,
    exists_eq_or_imp]
  rw [or_left_comm, or_assoc]

/-! ## Names that end -/

/-- The name stands in the text with no character of an identifier right behind it. -/
def HasWhole (name text : List Char) : Prop :=
  ∃ rest ∈ text.tails, name <+: rest ∧ ∀ c ∈ (rest.drop name.length).head?, identifierPart.contains c = false

-- The instances are given: a search among those for all characters may find the one that runs through every character.
instance (name text : List Char) : Decidable (HasWhole name text) :=
  haveI (rest : List Char) : Decidable (∀ c ∈ (rest.drop name.length).head?, identifierPart.contains c = false) :=
    Option.decidableForallMem _
  List.decidableBEx (fun rest => name <+: rest ∧ ∀ c ∈ (rest.drop name.length).head?, identifierPart.contains c = false)
    text.tails

theorem contains_identifierPart (c : Char) : identifierPart.contains c = true ↔ isWordChar c = true ∨ c = '$' := by
  have dollar : (ClassItem.range 0x24 0x24).holds .none c.toNat = true ↔ c = '$' := by
    have single : (['$'].map fun d => ClassItem.range d.toNat d.toNat).any (·.holds .none c.toNat) = true ↔ c ∈ ['$'] :=
      Expr.any_holds_iff
    simpa using single
  have parts : identifierPart.contains c =
      (((isWordChar c != false) || ((ClassItem.range 0x24 0x24).holds .none c.toNat || false)) != false) := rfl
  rw [parts, ← dollar]
  simp

/-- The characters that stand between a name and what is assigned to it. -/
def endsName (c : Char) : Bool := isBlank c || ['"', '\'', ']', '='].contains c

theorem not_identifierPart_of_endsName {c : Char} (ends : endsName c = true) : identifierPart.contains c = false := by
  refine Bool.eq_false_iff.2 fun part => ?_
  rcases Bool.or_eq_true_iff.1 ends with blank | mark
  · rcases (contains_identifierPart c).1 part with word | rfl
    · rw [not_isBlank_of_isWordChar word] at blank
      cases blank
    · exact absurd blank (by decide)
  · simp only [List.contains_eq_mem, List.mem_cons, List.not_mem_nil, or_false, decide_eq_true_eq] at mark
    rcases mark with rfl | rfl | rfl | rfl
    all_goals exact absurd part (by decide +kernel)

/-- An equals sign follows, behind nothing but what may stand between it and a name. -/
def OpensAssignment (s : List Char) : Prop := ∃ gap rest, s = gap ++ '=' :: rest ∧ ∀ c ∈ gap, endsName c = true

theorem hasWhole_of_opensAssignment (name : List Char) {target : List Char} (opens : OpensAssignment target)
    (front back : List Char) : HasWhole name (front ++ (name ++ (target ++ back))) := by
  obtain ⟨gap, rest, rfl, ends⟩ := opens
  refine ⟨_, (List.mem_tails _ _).2 (List.suffix_append _ _), List.prefix_append _ _, fun c mem => ?_⟩
  rw [List.drop_left] at mem
  refine not_identifierPart_of_endsName ?_
  cases gap with
  | nil =>
    obtain rfl := Option.some.inj mem
    decide
  | cons d gap =>
    obtain rfl := Option.some.inj mem
    exact ends _ List.mem_cons_self

theorem endsName_of_blank {c : Char} (blank : CharClass.blank.contains c = true) : endsName c = true := by
  rw [endsName, ← contains_blank, blank, Bool.true_or]

theorem endsName_of_mark {c : Char} (mark : c ∈ ['"', '\'', ']']) : endsName c = true := by
  simp only [List.mem_cons, List.not_mem_nil, or_false] at mark
  rcases mark with rfl | rfl | rfl
  all_goals decide

/-- What a wrapper's assignment asks for behind the name. -/
theorem opensAssignment_of_wrapper {before s after : List Char}
    (accepts : (Expr.sequence [.maybe (.oneOf ['"', '\'']), .maybe (.char ']'), .many .blank, .literal ['=']]).Accepts
      before s after) : OpensAssignment s := by
  simp only [Expr.accepts_sequence_cons, Expr.accepts_sequence_nil, Expr.accepts_literal, Expr.accepts_many] at accepts
  obtain ⟨quote, _, rfl, quoted, bracket, _, rfl, bracketed, blanks, _, rfl, blank, _, _, rfl, rfl, rfl⟩ := accepts
  refine ⟨quote ++ (bracket ++ blanks), [], by simp, ?_⟩
  simp only [List.forall_mem_append]
  refine ⟨fun c mem => ?_, fun c mem => ?_, fun c mem => endsName_of_blank (blank c mem)⟩
  · have known := Expr.contains_oneOf.1 (Expr.accepts_maybe quoted c mem)
    exact endsName_of_mark (List.mem_append_left [']'] known)
  · obtain rfl := (Expr.contains_code ']' c).1 (Expr.accepts_maybe bracketed c mem)
    decide

/-- What an alias asks for behind the name. -/
theorem opensAssignment_of_alias {before s after : List Char}
    (accepts : (Expr.sequence [accessClosing, .many .blank, .literal ['='], .many .blank, .one identifierStart]).Accepts
      before s after) : OpensAssignment s := by
  simp only [Expr.accepts_sequence_cons, Expr.accepts_literal, Expr.accepts_many, accepts_accessClosing] at accepts
  obtain ⟨closing, _, rfl, closes, blanks, _, rfl, blank, _, rest, rfl, rfl, -⟩ := accepts
  refine ⟨closing ++ blanks, rest, by simp, ?_⟩
  simp only [List.forall_mem_append]
  refine ⟨fun c mem => ?_, fun c mem => endsName_of_blank (blank c mem)⟩
  have marks : ∀ closing ∈ closings, closing ⊆ ['"', '\'', ']'] := by decide
  exact endsName_of_mark (marks closing closes mem)

theorem isPlain_wrapperAssignment (name : List Char) : (wrapperAssignment name).IsPlain = true := by
  refine Expr.isPlain_sequence fun e mem => ?_
  simp only [List.mem_cons, List.not_mem_nil, or_false] at mem
  rcases mem with rfl | rfl | rfl | rfl | rfl | rfl | rfl | rfl | rfl
  case inr.inr.inr.inr.inl => exact Expr.isPlain_literal name
  all_goals rfl

theorem isPlain_aliasAssignment (name : List Char) : (aliasAssignment name).IsPlain = true := by
  refine Expr.isPlain_sequence fun e mem => ?_
  simp only [List.mem_cons, List.not_mem_nil, or_false] at mem
  rcases mem with rfl | rfl | rfl | rfl | rfl | rfl | rfl | rfl | rfl | rfl
  case inr.inr.inr.inr.inl => exact Expr.isPlain_literal name
  all_goals rfl

/-- A name that is assigned to ends where it is written to an end. -/
theorem hasWhole_of_assigned {name text : List Char} (assigned : Assigned name text) : HasWhole name text := by
  have whole {e : Expr} (target : List Expr) {follows : List Expr}
      (shape : e = .sequence (target ++ .literal name :: follows))
      (plain : e.IsPlain = true) (opens : ∀ {before s after : List Char}, (Expr.sequence follows).Accepts before s after →
        OpensAssignment s) (occurs : e.occursIn text = true) : HasWhole name text := by
    obtain ⟨front, s, back, rfl, accepts⟩ := Expr.exists_accepts_of_occursIn plain occurs
    rw [shape, Expr.accepts_sequence_append] at accepts
    obtain ⟨object, _, rfl, -, accepts⟩ := accepts
    obtain ⟨_, rest, rfl, named, accepts⟩ := (Expr.accepts_sequence_cons _).1 accepts
    obtain rfl := (Expr.accepts_literal.1 named).symm
    simpa using hasWhole_of_opensAssignment name (opens accepts) (front ++ object) back
  rcases assigned with occurs | occurs
  · exact whole [_, _, _, _] rfl (isPlain_wrapperAssignment name) opensAssignment_of_wrapper occurs
  · exact whole [_, _, _, _] rfl (isPlain_aliasAssignment name) opensAssignment_of_alias occurs

/-! ## What passes -/

/-- What the check of an export name comes to. It passes where the name is accessed on the exports or on a root, or
where it is assigned to; what is assigned to is the whole name. So where the text does not have the whole name, the
check passes exactly if a longer name is accessed that the name is the front of. -/
structure PublishesName (p : Profile) (file : String) (cleaned raw : List Char) : Prop where
  passes : (rule p).evaluate cleaned raw file = .ok [] ↔
    (∃ object ∈ "exports" :: p.list .exportRoots, Accessed (p.text .exportName).toList object.toList cleaned) ∨
      Assigned (p.text .exportName).toList cleaned
  whole : Assigned (p.text .exportName).toList cleaned → HasWhole (p.text .exportName).toList cleaned
  passesWithoutWhole : ¬ HasWhole (p.text .exportName).toList cleaned →
    ((rule p).evaluate cleaned raw file = .ok [] ↔
      ∃ object ∈ "exports" :: p.list .exportRoots, Accessed (p.text .exportName).toList object.toList cleaned)

theorem evaluate_eq_nil_iff {p : Profile} {cleaned raw : List Char} {file : String} :
    (rule p).evaluate cleaned raw file = .ok [] ↔
      isPublished (p.text .exportName).toList (p.list .exportRoots) cleaned = true := by
  simp only [rule]
  split
  · next published => simp [published]
  · next missed => simp [missed]

theorem publishes_name (p : Profile) (file : String) (cleaned raw : List Char) : PublishesName p file cleaned raw where
  passes := evaluate_eq_nil_iff.trans isPublished_iff
  whole := hasWhole_of_assigned
  passesWithoutWhole part := by
    rw [evaluate_eq_nil_iff, isPublished_iff]
    exact or_iff_left fun assigned => part (hasWhole_of_assigned assigned)

/-- An identifier of a script: a letter, an underscore or a dollar sign, and the characters that continue one. -/
def IsIdentifier (name : List Char) : Prop :=
  ∃ c rest, name = c :: rest ∧ identifierStart.contains c = true ∧ ∀ d ∈ rest, identifierPart.contains d = true

/-- A script that publishes a name with one more letter than the one that is asked for. -/
def longerName : List Char := "exports.OptaveJavaScriptSDKs = f;".toList

/-- The check passes on it, although the name that is asked for is an identifier and the script does not have it as
a whole. -/
theorem evaluate_longerName :
    IsIdentifier (({} : Profile).text .exportName).toList ∧ (rule {}).evaluate longerName longerName "a.js" = .ok [] ∧
      ¬ HasWhole (({} : Profile).text .exportName).toList longerName := by
  refine ⟨⟨'O', _, rfl, by decide, List.all_eq_true.1 ?_⟩, ?_, ?_⟩
  all_goals decide +kernel

/-! ## Surroundings -/

/-- An expression without anchors, or one that starts with an edge of a word, has no other anchor and consumes an
opening. -/
def LooksBackOnly (e : Expr) : Prop :=
  e.IsUnanchored = true ∨ ∃ es, e = .sequence (.edge :: es) ∧ (∀ f ∈ es, f.IsUnanchored = true) ∧ accessOpening ∈ es

theorem looksBackOnly_of_mem_forms {name : List Char} {roots : List String} {e : Expr} (mem : e ∈ forms name roots) :
    LooksBackOnly e := by
  have literal := Expr.isUnanchored_literal
  have access {object : Expr} (free : object.IsUnanchored = true) : LooksBackOnly (accessOn object name) := by
    refine .inr ⟨_, rfl, ?_, by simp⟩
    simp only [List.forall_mem_cons]
    exact ⟨free, rfl, literal name, rfl, List.forall_mem_nil _⟩
  have roots_free : (Expr.choice (roots.map fun r => .literal r.toList)).IsUnanchored = true := by
    refine Expr.isUnanchored_choice fun e mem => ?_
    obtain ⟨r, -, rfl⟩ := List.mem_map.1 mem
    exact literal _
  unfold forms at mem
  rcases List.mem_append.1 mem with onRoots | others
  · split at onRoots
    · cases onRoots
    · obtain rfl := List.mem_singleton.1 onRoots
      exact access roots_free
  simp only [List.mem_cons, List.not_mem_nil, or_false] at others
  rcases others with rfl | rfl | rfl
  · exact access (literal _)
  · refine .inl (Expr.isUnanchored_sequence ?_)
    simp only [List.forall_mem_cons]
    exact ⟨rfl, rfl, rfl, rfl, literal name, rfl, rfl, rfl, rfl, List.forall_mem_nil _⟩
  · refine .inr ⟨_, rfl, ?_, by simp⟩
    simp only [List.forall_mem_cons]
    exact ⟨rfl, rfl, rfl, literal name, rfl, rfl, rfl, rfl, rfl, List.forall_mem_nil _⟩

theorem ne_nil_of_accepts_opening {es : List Expr} (mem : accessOpening ∈ es) {before s after : List Char}
    (accepts : (Expr.sequence es).Accepts before s after) : s ≠ [] := by
  obtain ⟨front, back, rfl⟩ := List.append_of_mem mem
  obtain ⟨s₁, _, rfl, -, rest⟩ := Expr.accepts_sequence_append.1 accepts
  obtain ⟨opening, s₂, rfl, opens, -⟩ := (Expr.accepts_sequence_cons _).1 rest
  have consumes := ne_nil_of_mem_openings (accepts_accessOpening.1 opens) s₁
  rw [← List.append_assoc]
  exact List.append_ne_nil_of_left_ne_nil consumes s₂

/-- What is accepted stays accepted behind a text that does not end in a word character, and in front of anything. -/
theorem LooksBackOnly.surrounded {e : Expr} (shape : LooksBackOnly e) {front s back : List Char}
    (accepts : e.Accepts front.reverse s back) {lead : List Char} (apart : ¬ WordAhead lead.reverse) (tail : List Char) :
    e.Accepts (lead ++ front).reverse s (back ++ tail) := by
  rcases shape with free | ⟨es, rfl, free, consumes⟩
  · exact Expr.accepts_unanchored free accepts
  · obtain ⟨edge, rest⟩ := Expr.accepts_edge.1 accepts
    have nonempty := ne_nil_of_accepts_opening consumes rest
    refine Expr.accepts_edge.2 ⟨?_, Expr.accepts_unanchored (Expr.isUnanchored_sequence free) rest⟩
    rw [wordAhead_append nonempty] at edge ⊢
    -- At the front of the text the end of what comes before it takes the place of the start.
    by_cases first : front = []
    · subst first
      have start : ¬ WordAhead ([] : List Char).reverse := by simp [WordAhead]
      have same : WordAhead (lead ++ []).reverse ↔ WordAhead ([] : List Char).reverse := by
        rw [List.append_nil]
        exact iff_of_false apart start
      rwa [same]
    · rw [List.reverse_append, wordAhead_append (mt List.reverse_eq_nil_iff.1 first)]
      exact edge

theorem isPlain_of_mem_forms {name : List Char} {roots : List String} {e : Expr} (mem : e ∈ forms name roots) :
    e.IsPlain = true := by
  unfold forms at mem
  rcases List.mem_append.1 mem with onRoots | others
  · split at onRoots
    · cases onRoots
    · obtain rfl := List.mem_singleton.1 onRoots
      exact isPlain_accessOn (isPlain_roots roots) name
  simp only [List.mem_cons, List.not_mem_nil, or_false] at others
  rcases others with rfl | rfl | rfl
  · exact isPlain_accessOn (Expr.isPlain_literal _) name
  · exact isPlain_wrapperAssignment name
  · exact isPlain_aliasAssignment name

/-- A script that passes goes on passing behind whole lines and in front of anything. -/
theorem evaluate_surrounded (p : Profile) {script raw lines : List Char} {file : String}
    (passes : (rule p).evaluate script raw file = .ok []) (whole : lines = [] ∨ lines.getLast? = some '\n')
    (more raw' : List Char) (file' : String) :
    (rule p).evaluate (lines ++ script ++ more) raw' file' = .ok [] := by
  rw [evaluate_eq_nil_iff] at passes ⊢
  obtain ⟨e, mem, occurs⟩ := List.any_eq_true.1 passes
  have plain := isPlain_of_mem_forms mem
  have apart : ¬ WordAhead lines.reverse := by
    rintro ⟨c, rest, last, word⟩
    have head : lines.getLast? = some c := by rw [List.getLast?_eq_head?_reverse, last, List.head?_cons]
    rcases whole with rfl | ends
    · cases head
    · obtain rfl := Option.some.inj (ends.symm.trans head)
      exact absurd word (by decide +kernel)
  obtain ⟨front, s, back, rfl, accepts⟩ := Expr.exists_accepts_of_occursIn plain occurs
  have kept := Expr.occursIn_of_accepts plain ((looksBackOnly_of_mem_forms mem).surrounded accepts apart more)
  refine List.any_eq_true.2 ⟨e, mem, ?_⟩
  simpa using kept

/-- An access that stands at the very start of a script, behind a line that ends in a word, and with the name going
on behind it. -/
theorem evaluate_surrounded_of_access :
    (rule {}).evaluate "root.OptaveJavaScriptSDK".toList [] "a.js" = .ok [] ∧
      ("a\n".toList = [] ∨ "a\n".toList.getLast? = some '\n') ∧
      (rule {}).evaluate ("a\n".toList ++ "root.OptaveJavaScriptSDK".toList ++ "s".toList) [] "b.js" = .ok [] := by
  have passes : (rule {}).evaluate "root.OptaveJavaScriptSDK".toList [] "a.js" = .ok [] := by decide
  have whole : "a\n".toList = [] ∨ "a\n".toList.getLast? = some '\n' := by decide
  exact ⟨passes, whole, evaluate_surrounded {} passes whole "s".toList [] "b.js"⟩

end BundleAudit.GlobalExport
