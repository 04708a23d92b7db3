import BundleAudit.Proofs.Regex.Language
import BundleAudit.Rule.DynamicEval
import BundleAudit.Source.Comments

/-!
# Accesses with a quoted name

A script may get at the evaluator by its name in brackets and quotes, perhaps behind the name of the global
object. Three detectors look for such an access and find every one (`access_mem_findAll`). But its name between the
quotes is a quoted mention on the same line, so every one is excused, and none is reported
(`quotedAccess_excused`).
-/

namespace BundleAudit.DynamicEval

open BundleAudit.Regex BundleAudit.Source

/-! ## What the detectors look for -/

/-- The names of the global object that stand in front of the brackets, or none. -/
def accessRoots : List String := ["", "window", "globalThis"]

/-- The access to the evaluator by its quoted name. -/
def access (root : String) (quote : Char) : List Char :=
  root.toList ++ '[' :: quote :: 'e' :: 'v' :: 'a' :: 'l' :: quote :: [']']

/-- Blanks and quotes. -/
def paddingClass : CharClass :=
  ⟨[.category .blank false false, .range 0x22 0x22, .range 0x27 0x27], false, .none⟩

def accessExpr (root : String) : Expr :=
  .sequence ((if root = "" then [] else [.literal root.toList]) ++
    [.literal ['['], .many paddingClass, .literal ['e', 'v', 'a', 'l'], .many paddingClass, .literal [']']])

theorem exists_detector {root : String} (known : root ∈ accessRoots) :
    ∃ d ∈ detectors, d.expr = accessExpr root := by
  simp only [accessRoots, List.mem_cons, List.not_mem_nil, or_false] at known
  rcases known with rfl | rfl | rfl
  · exact ⟨detectors[2], List.getElem_mem _, rfl⟩
  · exact ⟨detectors[4], List.getElem_mem _, rfl⟩
  · exact ⟨detectors[5], List.getElem_mem _, rfl⟩

theorem isPlain_accessExpr (root : String) : (accessExpr root).IsPlain = true := by
  refine Expr.isPlain_sequence fun e mem => ?_
  rcases List.mem_append.1 mem with mem | mem
  · split at mem
    · cases mem
    · obtain rfl := List.mem_singleton.1 mem
      exact Expr.isPlain_literal _
  · simp only [List.mem_cons, List.not_mem_nil, or_false] at mem
    rcases mem with rfl | rfl | rfl | rfl | rfl
    · exact Expr.isPlain_literal _
    · rfl
    · exact Expr.isPlain_literal _
    · rfl
    · exact Expr.isPlain_literal _

/-- The expression accepts the name of the evaluator in brackets, with blanks and quotes on both sides of it. -/
theorem accepts_accessExpr {root : String} {before s after : List Char} :
    (accessExpr root).Accepts before s after ↔ ∃ left right : List Char,
      (∀ c ∈ left, paddingClass.contains c = true) ∧ (∀ c ∈ right, paddingClass.contains c = true) ∧
        s = root.toList ++ '[' :: (left ++ 'e' :: 'v' :: 'a' :: 'l' :: (right ++ [']'])) := by
  have brackets : ∀ {before s after : List Char},
      (Expr.sequence [.literal ['['], .many paddingClass, .literal ['e', 'v', 'a', 'l'], .many paddingClass,
        .literal [']']]).Accepts before s after ↔ ∃ left right : List Char,
          (∀ c ∈ left, paddingClass.contains c = true) ∧ (∀ c ∈ right, paddingClass.contains c = true) ∧
            s = '[' :: (left ++ 'e' :: 'v' :: 'a' :: 'l' :: (right ++ [']'])) := by
    intro before s after
    simp only [Expr.accepts_sequence_cons, Expr.accepts_sequence_nil, Expr.accepts_literal, Expr.accepts_many]
    constructor
    · rintro ⟨_, _, rfl, rfl, left, _, rfl, padded, _, _, rfl, rfl, right, _, rfl, padded', _, _, rfl, rfl, rfl⟩
      exact ⟨left, right, padded, padded', rfl⟩
    · rintro ⟨left, right, padded, padded', rfl⟩
      exact ⟨_, _, rfl, rfl, left, _, rfl, padded, _, _, rfl, rfl, right, _, rfl, padded', _, _, rfl, rfl, rfl⟩
  unfold accessExpr
  split
  · next none =>
    subst none
    exact brackets
  · rw [List.cons_append, List.nil_append, Expr.accepts_sequence_cons]
    simp only [Expr.accepts_literal, brackets]
    constructor
    · rintro ⟨_, _, rfl, rfl, left, right, padded, padded', rfl⟩
      exact ⟨left, right, padded, padded', rfl⟩
    · rintro ⟨left, right, padded, padded', rfl⟩
      exact ⟨_, _, rfl, rfl, left, right, padded, padded', rfl⟩

/-! ## Every access is found -/

/-- What stands before the first character that is out of a class is determined by the text. -/
theorem eq_of_append_cons {p : Char → Bool} {l l' r r' : List Char} {x y : Char} (hl : ∀ c ∈ l, p c = true)
    (hl' : ∀ c ∈ l', p c = true) (hx : p x = false) (hy : p y = false) (same : l ++ x :: r = l' ++ y :: r') :
    l = l' ∧ x = y ∧ r = r' := by
  have front : ∀ {l r : List Char} {x : Char}, (∀ c ∈ l, p c = true) → p x = false →
      (l ++ x :: r).takeWhile p = l := by
    intro l r x hl hx
    rw [List.takeWhile_append_of_pos hl, List.takeWhile_cons_of_neg (by simp [hx]), List.append_nil]
  have fronts := congrArg (List.takeWhile p) same
  rw [front hl hx, front hl' hy] at fronts
  subst fronts
  exact ⟨rfl, List.cons.inj (List.append_cancel_left same)⟩

/-- The two quotes that a name may stand between. -/
def quotes : List Char := ['"', '\'']

theorem padding_of_quote {quote : Char} (isQuote : quote ∈ quotes) :
    ∀ c ∈ [quote], paddingClass.contains c = true := by
  intro c mem
  obtain rfl := List.mem_singleton.1 mem
  simp only [quotes, List.mem_cons, List.not_mem_nil, or_false] at isQuote
  rcases isQuote with rfl | rfl
  · decide
  · decide

section
variable {root : String} {quote : Char}

theorem accepts_access (isQuote : quote ∈ quotes) (before after : List Char) :
    (accessExpr root).Accepts before (access root quote) after :=
  accepts_accessExpr.2 ⟨[quote], [quote], padding_of_quote isQuote, padding_of_quote isQuote, rfl⟩

/-- At the place of an access nothing but the access is accepted. -/
theorem eq_access_of_accepts (isQuote : quote ∈ quotes) {before s after after' rest : List Char}
    (accepts : (accessExpr root).Accepts before s after') (split : s ++ after = access root quote ++ rest) :
    s = access root quote := by
  have padded := padding_of_quote isQuote
  have letter : paddingClass.contains 'e' = false := by decide
  have bracket : paddingClass.contains ']' = false := by decide
  obtain ⟨left, right, left_padded, right_padded, rfl⟩ := accepts_accessExpr.1 accepts
  unfold access at split ⊢
  simp only [List.append_assoc, List.cons_append, List.nil_append, List.append_cancel_left_eq, List.cons.injEq,
    true_and] at split
  obtain ⟨rfl, -, tail⟩ := eq_of_append_cons left_padded padded letter letter split
  simp only [List.cons.injEq, true_and] at tail
  obtain ⟨rfl, -, -⟩ := eq_of_append_cons right_padded padded bracket bracket tail
  rfl

/-- What may stand between the brackets, and the closing bracket. -/
def inner (c : Char) : Bool := paddingClass.contains c || ['e', 'v', 'a', 'l', ']'].contains c

theorem head_not_inner (known : root ∈ accessRoots) {c : Char} (head : (access root quote).head? = some c) :
    inner c = false := by
  simp only [accessRoots, List.mem_cons, List.not_mem_nil, or_false] at known
  rcases known with rfl | rfl | rfl
  all_goals
    obtain rfl := Option.some.inj head
    decide

theorem bracket_notMem_root (known : root ∈ accessRoots) : ∀ c ∈ root.toList, (c != '[') = true := by
  refine List.all_eq_true.1 ?_
  simp only [accessRoots, List.mem_cons, List.not_mem_nil, or_false] at known
  rcases known with rfl | rfl | rfl
  all_goals decide +kernel

/-- If the rear of an accepted text begins an access, then it is the whole text. -/
theorem eq_nil_of_rear (known : root ∈ accessRoots) {body front rear after rest : List Char}
    (inside : ∀ c ∈ body, inner c = true) (split : front ++ rear = root.toList ++ '[' :: body)
    (nonempty : rear ≠ []) (same : rear ++ after = access root quote ++ rest) : front = [] := by
  have bracket : (('[' : Char) != '[') = false := by decide
  have whole {w : List Char} (none : ∀ c ∈ w, (c != '[') = true) (rear_eq : rear = w ++ '[' :: body) :
      w = root.toList := by
    subst rear_eq
    unfold access at same
    simp only [List.append_assoc, List.cons_append] at same
    exact (eq_of_append_cons none (bracket_notMem_root known) bracket bracket same).1
  rcases List.append_eq_append_iff.1 split with ⟨w, root_eq, rear_eq⟩ | ⟨w, front_eq, inBody⟩
  · have inRoot : ∀ c ∈ w, (c != '[') = true := fun c mem =>
      bracket_notMem_root known c (root_eq ▸ List.mem_append_right front mem)
    rw [whole inRoot rear_eq] at root_eq
    exact List.append_left_eq_self.1 root_eq.symm
  · cases w with
    | nil =>
      have none : root.toList = [] := (whole (List.forall_mem_nil _) inBody.symm).symm
      rw [front_eq, none]
      rfl
    | cons c w =>
      obtain ⟨-, body_eq⟩ := List.cons.inj inBody
      obtain ⟨d, rear', rfl⟩ := List.exists_cons_of_ne_nil nonempty
      have head : (access root quote).head? = some d := by
        have nonempty' : access root quote ≠ [] := by simp [access]
        obtain ⟨e, tail, opens⟩ := List.exists_cons_of_ne_nil nonempty'
        rw [opens] at same ⊢
        exact congrArg some (List.cons.inj same).1.symm
      have isInner := inside d (by simp [body_eq])
      rw [head_not_inner known head] at isInner
      cases isInner

/-- No text that is accepted and starts before an access reaches into it. -/
theorem not_reaching (known : root ∈ accessRoots) {front rest front' s after before after' : List Char}
    (accepts : (accessExpr root).Accepts before s after')
    (same : front' ++ (s ++ after) = front ++ (access root quote ++ rest)) (starts : front'.length < front.length) :
    front'.length + s.length ≤ front.length := by
  refine Nat.le_of_not_lt fun reaches => ?_
  obtain ⟨left, right, left_padded, right_padded, rfl⟩ := accepts_accessExpr.1 accepts
  have inside : ∀ c ∈ left ++ 'e' :: 'v' :: 'a' :: 'l' :: (right ++ [']']), inner c = true := by
    intro c mem
    simp only [List.mem_append, List.mem_cons, List.not_mem_nil, or_false] at mem
    unfold inner
    rcases mem with mem | rfl | rfl | rfl | rfl | mem | rfl
    · rw [left_padded c mem, Bool.true_or]
    · decide
    · decide
    · decide
    · decide
    · rw [right_padded c mem, Bool.true_or]
    · decide
  generalize left ++ 'e' :: 'v' :: 'a' :: 'l' :: (right ++ [']']) = body at *
  rcases List.append_eq_append_iff.1 same with ⟨u, rfl, split⟩ | ⟨u, rfl, -⟩
  · rcases List.append_eq_append_iff.1 split with ⟨v, rfl, -⟩ | ⟨v, split', same'⟩
    · simp only [List.length_append, List.length_cons] at reaches
      omega
    · have nonempty : v ≠ [] := by
        rintro rfl
        rw [List.append_nil] at split'
        rw [← split', List.length_append] at reaches
        exact Nat.lt_irrefl _ reaches
      have none := eq_nil_of_rear known inside split'.symm nonempty same'.symm
      rw [none, List.append_nil] at starts
      exact Nat.lt_irrefl _ starts
  · rw [List.length_append] at starts
    omega

/-- Every access is among the matches of the expression. -/
theorem access_mem_findAll (known : root ∈ accessRoots) (isQuote : quote ∈ quotes) (front rest : List Char) :
    ⟨front.length, access root quote⟩ ∈ (accessExpr root).findAll (front ++ (access root quote ++ rest)) := by
  have plain := isPlain_accessExpr root
  obtain ⟨m, matched⟩ := Expr.exists_matchHere? plain
    (p := (Place.start (front ++ (access root quote ++ rest))).behind front (access root quote ++ rest)) rfl
    (accepts_access isQuote _ _)
  obtain ⟨start, after, split, accepts⟩ := Expr.accepts_of_matchHere? plain matched
  have text : m.text = access root quote := eq_access_of_accepts isQuote accepts split.symm
  have offset : m.start = front.length := start.trans (Nat.zero_add _)
  have same : m = ⟨front.length, access root quote⟩ := by
    cases m
    subst text offset
    rfl
  rw [← same]
  refine (Expr.mem_findAll_or_covered matched).resolve_right fun ⟨m', mem, before, covers⟩ => ?_
  obtain ⟨front', after', split', start', accepts'⟩ := Expr.accepts_of_mem_findAll plain mem
  have short := not_reaching known accepts' split'.symm (by omega)
  omega

end

/-! ## Every access is excused -/

theorem accepts_quotedMention (quote : Char) (before after : List Char) :
    (quotedMention quote).Accepts before (quote :: 'e' :: 'v' :: 'a' :: 'l' :: [quote]) after := by
  unfold quotedMention
  simp only [Expr.accepts_sequence_cons, Expr.accepts_sequence_nil, Expr.accepts_literal, Expr.accepts_many]
  exact ⟨[quote], _, rfl, rfl, [], _, rfl, List.forall_mem_nil _, ['e', 'v', 'a', 'l'], _, rfl,
    Expr.accepts_literal.2 rfl, [], _, rfl, List.forall_mem_nil _, [quote], [], rfl, rfl, rfl⟩

theorem isPlain_quotedMention (quote : Char) : (quotedMention quote).IsPlain = true := by
  refine Expr.isPlain_sequence fun e mem => ?_
  simp only [List.mem_cons, List.not_mem_nil, or_false] at mem
  rcases mem with rfl | rfl | rfl | rfl | rfl
  · exact Expr.isPlain_literal _
  · rfl
  · exact Expr.isPlain_literal _
  · rfl
  · exact Expr.isPlain_literal _

theorem quotedMention_mem_safe {quote : Char} (isQuote : quote ∈ quotes) (p : Profile) :
    quotedMention quote ∈ safe p := by
  have mem : quotedMention quote ∈ quotedMentions := by
    refine List.mem_map_of_mem ?_
    simp only [quotes, List.mem_cons, List.not_mem_nil, or_false] at isQuote
    rcases isQuote with rfl | rfl
    · decide
    · decide
  exact List.mem_append_left _ (List.mem_append_right _ mem)

section
variable {root : String} {quote : Char} (known : root ∈ accessRoots) (isQuote : quote ∈ quotes)
include known isQuote

theorem lineEnd_notMem_access : ∀ c ∈ access root quote, (c != '\n') = true := by
  refine List.all_eq_true.1 ?_
  simp only [accessRoots, List.mem_cons, List.not_mem_nil, or_false] at known
  simp only [quotes, List.mem_cons, List.not_mem_nil, or_false] at isQuote
  rcases known with rfl | rfl | rfl
  all_goals
    rcases isQuote with rfl | rfl
    · decide +kernel
    · decide +kernel

/-- The line at which an access starts holds the whole access. -/
theorem line_locate_access (front rest : List Char) :
    (locate (front ++ (access root quote ++ rest)) front.length).line =
      lastLine front ++ (access root quote ++ firstLine rest) := by
  have index : min (front.length : Int).toNat (front ++ (access root quote ++ rest)).length = front.length := by
    rw [Int.toNat_natCast, List.length_append]
    omega
  unfold locate
  simp only [index, List.take_left, List.drop_left]
  unfold firstLine
  rw [List.takeWhile_append_of_pos (lineEnd_notMem_access known isQuote)]

/-- Whatever is found at the place of an access is excused. -/
theorem judge_access (p : Profile) (d : Detector) (ruleName file : String) {m : Match} {front : List Char}
    (start : m.start = front.length) (rest : List Char) :
    d.judge (front ++ (access root quote ++ rest)) ruleName file (safe p) m = none := by
  have line : (locate (front ++ (access root quote ++ rest)) m.start).line =
      (lastLine front ++ (root.toList ++ ['['])) ++
        ((quote :: 'e' :: 'v' :: 'a' :: 'l' :: [quote]) ++ (']' :: firstLine rest)) := by
    rw [start, line_locate_access known isQuote]
    simp [access]
  have mentioned : (quotedMention quote).occursIn
      (locate (front ++ (access root quote ++ rest)) m.start).line = true := by
    rw [line]
    exact Expr.occursIn_of_accepts (isPlain_quotedMention quote) (accepts_quotedMention quote _ _)
  have excused (window : List Char) : isSafeContext
      (locate (front ++ (access root quote ++ rest)) m.start).line window (safe p) = true := by
    refine List.any_eq_true.2 ⟨_, quotedMention_mem_safe isQuote p, ?_⟩
    rw [mentioned, Bool.true_or, Bool.true_or]
  unfold Detector.judge
  simp only [excused, if_true]

/-- No violation reports an access. -/
theorem matched_ne_access (p : Profile) (raw : List Char) {ruleName file : String} {ds : List Detector} :
    ∀ v ∈ detect raw raw ruleName file ds (safe p), v.matched.toList ≠ access root quote := by
  intro v mem matched
  obtain ⟨d, -, found⟩ := List.mem_flatMap.1 mem
  obtain ⟨m, mem, judged⟩ := List.mem_filterMap.1 found
  have text : m.text = access root quote := by
    simp only [Detector.judge] at judged
    split at judged
    · cases judged
    · obtain rfl := Option.some.inj judged
      simpa [Detector.report] using matched
  obtain ⟨front, back, nonempty, rfl, matched'⟩ := Expr.exists_place_of_mem_findAll mem
  obtain ⟨start, rest, split⟩ := Expr.isPrefix_of_matchHere? matched'
  obtain rfl : m.text ++ rest = back := split
  rw [text, judge_access known isQuote p d ruleName file (start.trans (Nat.zero_add _)) rest] at judged
  cases judged

end

/-- Every access with a quoted name is found by a detector, but excused, and no violation reports it. -/
theorem quotedAccess_excused (p : Profile) (file : String) {root : String} {quote : Char}
    (known : root ∈ accessRoots) (isQuote : quote ∈ quotes) {raw front rest : List Char}
    (holds : raw = front ++ (access root quote ++ rest)) :
    (∃ d ∈ detectors, ⟨front.length, access root quote⟩ ∈ d.expr.findAll raw ∧
      d.judge raw ruleName file (safe p) ⟨front.length, access root quote⟩ = none) ∧
    ∃ vs, (rule p).evaluate raw raw file = .ok vs ∧ ∀ v ∈ vs, v.matched.toList ≠ access root quote := by
  subst holds
  obtain ⟨d, mem, expr⟩ := exists_detector known
  refine ⟨⟨d, mem, ?_, judge_access known isQuote p d _ _ rfl rest⟩, _, rfl, matched_ne_access known isQuote p _⟩
  rw [expr]
  exact access_mem_findAll known isQuote front rest

/-- Two accesses on one line. -/
def accesses : List Char := "window['eval'](a)[\"eval\"]".toList

theorem quotedAccess_excused_of_accesses :
    "window" ∈ accessRoots ∧ '\'' ∈ quotes ∧ accesses = [] ++ (access "window" '\'' ++ "(a)[\"eval\"]".toList) ∧
      (∃ d ∈ detectors, ⟨0, access "window" '\''⟩ ∈ d.expr.findAll accesses ∧
        d.judge accesses ruleName "a.js" (safe {}) ⟨0, access "window" '\''⟩ = none) ∧
      ∃ vs, (rule {}).evaluate accesses accesses "a.js" = .ok vs ∧
        ∀ v ∈ vs, v.matched.toList ≠ access "window" '\'' := by
  have known : "window" ∈ accessRoots := by decide
  have isQuote : '\'' ∈ quotes := by decide
  have holds : accesses = [] ++ (access "window" '\'' ++ "(a)[\"eval\"]".toList) := by decide
  exact ⟨known, isQuote, holds, quotedAccess_excused {} "a.js" known isQuote holds⟩

/-- A script that is nothing but an access has no violations, although without the quoted name nothing in it is
excused. -/
theorem evaluate_access :
    strip (access "" '"') = access "" '"' ∧ (∀ e ∈ safe {}, e.occursIn ['[', ']'] = false) ∧
      (rule {}).evaluate (access "" '"') (access "" '"') "a.js" = .ok [] := by
  refine ⟨by decide, ?_, ?_⟩
  · have none : ((safe {}).all fun e => !e.occursIn ['[', ']']) = true := by decide +kernel
    intro e mem
    simpa using List.all_eq_true.1 none e mem
  · have nothing : detect (access "" '"') (access "" '"') ruleName "a.js" detectors (safe {}) = [] := by
      decide +kernel
    exact congrArg Except.ok nothing

end BundleAudit.DynamicEval
