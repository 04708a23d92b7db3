import BundleAudit.Proofs.Regex.WordEdge
import BundleAudit.Regex.Reader
import Mathlib.Data.List.Forall2

/-!
# Written forms around escaped texts

The reader takes one piece of a written form after the other. What it makes of a piece depends on what stands behind
it in one place only: a question mark or a plus sign behind a repetition changes its greed. So a written form is read
part by part, and what is read of its parts makes up the whole (`Reads.append`), if no part starts with one of these.

An escaped text is such a part, whichever characters it has (`Reads.escaped`). It is read as the expression that
matches this text and nothing else, between other parts, among the alternatives of a group (`Reads.group`), and in
front of what must not follow (`Reads.notFollowedBy`). The whole is always read (`Reads.readExpr_eq`).
-/

namespace BundleAudit.Regex

/-- A text in front of which a repetition keeps its greed. -/
def KeepsGreed (text : List Char) : Prop := ∀ c ∈ text.head?, c ≠ '?' ∧ c ≠ '+'

/-- Behind any pieces, the reader takes the front of a written form for one piece for each of the expressions, and goes
on with the rest. Each token that is left has fuel for the readers that call each other on it. -/
structure Reads (ignoreCase : Bool) (front : List Char) (es : List Expr) : Prop where
  keepsGreed {rest : List Char} : KeepsGreed rest → KeepsGreed (front ++ rest)
  goesOn {rest : List Char} {fuel : Nat} : KeepsGreed rest → 5 * (tokens (front ++ rest)).length < fuel →
    ∀ first s earlier, ∃ fuel' pieces, 5 * (tokens rest).length < fuel' ∧ pieces.map (·.expr) = es.reverse ∧
      readSequence fuel first { ignoreCase } s earlier (tokens (front ++ rest)) =
        readSequence fuel' first { ignoreCase } s (pieces ++ earlier) (tokens rest)

/-- The same for a front that is taken for one piece and may be repeated. -/
structure ReadsAtom (ignoreCase : Bool) (front : List Char) (e : Expr) : Prop where
  keepsGreed (rest : List Char) : KeepsGreed (front ++ rest)
  goesOn {rest : List Char} {fuel : Nat} : 5 * (tokens (front ++ rest)).length < fuel →
    ∀ first s earlier, ∃ fuel' p, 5 * (tokens rest).length < fuel' ∧ p.expr = e ∧ p.kind = .plain ∧
      readSequence fuel first { ignoreCase } s earlier (tokens (front ++ rest)) =
        readSequence fuel' first { ignoreCase } s (p :: earlier) (tokens rest)

variable {ignoreCase : Bool}

/-! ## Tokens -/

theorem tokens_cons {c : Char} (noEscape : c ≠ '\\') (rest : List Char) :
    tokens (c :: rest) = .plain c :: tokens rest := by
  rw [tokens]
  · exact fun escape => absurd escape noEscape
  · exact fun _ _ escape => absurd escape noEscape

/-- One character more makes at most one token more, and none less. -/
theorem length_tokens_cons : ∀ (c : Char) (rest : List Char),
    (tokens rest).length ≤ (tokens (c :: rest)).length ∧ (tokens (c :: rest)).length ≤ (tokens rest).length + 1
  | c, [] => by
    by_cases escape : c = '\\'
    · subst escape
      exact ⟨Nat.zero_le _, Nat.le_refl _⟩
    · rw [tokens_cons escape]
      exact ⟨Nat.le_succ _, Nat.le_refl _⟩
  | c, d :: rest => by
    by_cases escape : c = '\\'
    · subst escape
      obtain ⟨least, most⟩ := length_tokens_cons d rest
      exact ⟨most, Nat.succ_le_succ least⟩
    · rw [tokens_cons escape]
      exact ⟨Nat.le_succ _, Nat.le_refl _⟩

theorem length_tokens_append (rest : List Char) : ∀ front : List Char,
    (tokens rest).length ≤ (tokens (front ++ rest)).length
  | [] => Nat.le_refl _
  | c :: front => Nat.le_trans (length_tokens_append rest front) (length_tokens_cons c (front ++ rest)).1

/-! ## Parts in a row -/

theorem Reads.nil : Reads ignoreCase [] [] where
  keepsGreed keeps := keeps
  goesOn _ enough _ _ _ := ⟨_, [], enough, rfl, rfl⟩

theorem Reads.append {front front' : List Char} {es es' : List Expr} (h : Reads ignoreCase front es)
    (h' : Reads ignoreCase front' es') : Reads ignoreCase (front ++ front') (es ++ es') where
  keepsGreed keeps := by
    rw [List.append_assoc]
    exact h.keepsGreed (h'.keepsGreed keeps)
  goesOn {rest fuel} keeps enough first s earlier := by
    rw [List.append_assoc] at enough ⊢
    obtain ⟨fuel₁, pieces₁, enough₁, made₁, reads₁⟩ := h.goesOn (h'.keepsGreed keeps) enough first s earlier
    obtain ⟨fuel₂, pieces₂, enough₂, made₂, reads₂⟩ := h'.goesOn keeps enough₁ first s (pieces₁ ++ earlier)
    refine ⟨fuel₂, pieces₂ ++ pieces₁, enough₂, ?_, ?_⟩
    · rw [List.map_append, made₁, made₂, List.reverse_append]
    · rw [reads₁, reads₂, List.append_assoc]

theorem ReadsAtom.reads {front : List Char} {e : Expr} (h : ReadsAtom ignoreCase front e) :
    Reads ignoreCase front [e] where
  keepsGreed {rest} _ := h.keepsGreed rest
  goesOn _ enough first s earlier := by
    obtain ⟨fuel', p, enough', made, -, reads⟩ := h.goesOn enough first s earlier
    exact ⟨fuel', [p], enough', by rw [List.map_singleton, made]; rfl, reads⟩

/-! ## Single pieces -/

/-- A front of `n + 1` tokens that the reader takes in one step. -/
structure TakenAs (ignoreCase : Bool) (front : List Char) (p : Piece) (n : Nat) : Prop where
  keepsGreed (rest : List Char) : KeepsGreed (front ++ rest)
  count (rest : List Char) : (tokens (front ++ rest)).length = (tokens rest).length + n + 1
  step (fuel : Nat) (first : Bool) (s : Progress) (earlier : List Piece) (rest : List Char) :
    readSequence (fuel + 1) first { ignoreCase } s earlier (tokens (front ++ rest)) =
      readSequence fuel first { ignoreCase } s (p :: earlier) (tokens rest)

section
variable {front : List Char} {p : Piece} {n : Nat} (h : TakenAs ignoreCase front p n)
include h

theorem TakenAs.goesOn {rest : List Char} {fuel : Nat} (enough : 5 * (tokens (front ++ rest)).length < fuel)
    (first : Bool) (s : Progress) (earlier : List Piece) : ∃ fuel', 5 * (tokens rest).length < fuel' ∧
      readSequence fuel first { ignoreCase } s earlier (tokens (front ++ rest)) =
        readSequence fuel' first { ignoreCase } s (p :: earlier) (tokens rest) := by
  rw [h.count] at enough
  cases fuel with
  | zero => exact absurd enough (Nat.not_lt_zero _)
  | succ fuel => exact ⟨fuel, by omega, h.step fuel first s earlier rest⟩

theorem TakenAs.reads : Reads ignoreCase front [p.expr] where
  keepsGreed {rest} _ := h.keepsGreed rest
  goesOn _ enough first s earlier := by
    obtain ⟨fuel', enough', reads⟩ := h.goesOn enough first s earlier
    exact ⟨fuel', [p], enough', rfl, reads⟩

theorem TakenAs.atom (kind : p.kind = .plain) : ReadsAtom ignoreCase front p.expr where
  keepsGreed := h.keepsGreed
  goesOn enough first s earlier := by
    obtain ⟨fuel', enough', reads⟩ := h.goesOn enough first s earlier
    exact ⟨fuel', p, enough', rfl, kind, reads⟩

end

/-- The folding under which an expression is read. -/
def casing (ignoreCase : Bool) : Folding := Modes.folding { ignoreCase }

/-- A character that never means anything else than itself. -/
def IsPlainChar (c : Char) : Prop := c ∉ specialChars

theorem IsPlainChar.ne {c d : Char} (plain : IsPlainChar c) (special : d ∈ specialChars) : c ≠ d := by
  rintro rfl
  exact plain special

theorem readCounts_of_isPlainChar {c : Char} (plain : IsPlainChar c) (ts : List Token) :
    readCounts c ts = .ok none := by
  unfold readCounts
  split
  all_goals first | rfl | exact absurd (by decide) plain

theorem takenAs_plain {c : Char} (plain : IsPlainChar c) :
    TakenAs ignoreCase [c] ⟨.one (.code (casing ignoreCase) c.toNat), .exactly 1, .plain⟩ 0 where
  keepsGreed rest := by
    rintro _ ⟨⟩
    exact ⟨plain.ne (by decide), plain.ne (by decide)⟩
  count rest := by
    rw [List.singleton_append, tokens_cons (plain.ne (by decide))]
    rfl
  step fuel first s earlier rest := by
    have noEnd : (c == '|' || c == ')') = false := by
      simp only [Bool.or_eq_false_iff, beq_eq_false_iff_ne]
      exact ⟨plain.ne (by decide), plain.ne (by decide)⟩
    rw [List.singleton_append, tokens_cons (plain.ne (by decide)), readSequence.eq_def]
    dsimp only
    rw [if_neg (by simp [noEnd]), if_neg (by simp), if_neg (by simp)]
    split
    case h_6 =>
      rw [readCounts_of_isPlainChar plain]
      rfl
    all_goals exact absurd (by decide) plain

/-- A character that stands for itself behind a backslash, though it need not have one there. -/
def IsEscapable (c : Char) : Prop := c = '"' ∨ c ∈ specialChars

theorem readEscape_of_isEscapable {c : Char} (escapable : IsEscapable c) (s : Progress) (ts : List Token) :
    readEscape s { ignoreCase } c ts = .ok (⟨.one (.code (casing ignoreCase) c.toNat), .exactly 1, .plain⟩, ts) := by
  have listed : c ∈ ['"', '(', ')', '[', ']', '\x7b', '\x7d', '?', '*', '+', '-', '|', '^', '$', '\\', '.', '&', '~',
    '#', ' ', '\t', '\n', '\r', '\x0b', '\x0c'] := List.mem_cons.2 escapable
  simp only [List.mem_cons, List.not_mem_nil, or_false] at listed
  rcases listed with rfl | rfl | rfl | rfl | rfl | rfl | rfl | rfl | rfl | rfl | rfl | rfl | rfl | rfl | rfl | rfl |
    rfl | rfl | rfl | rfl | rfl | rfl | rfl | rfl | rfl
  all_goals rfl

theorem takenAs_escaped {c : Char} (escapable : IsEscapable c) :
    TakenAs ignoreCase ['\\', c] ⟨.one (.code (casing ignoreCase) c.toNat), .exactly 1, .plain⟩ 0 where
  keepsGreed rest := by
    rintro _ ⟨⟩
    decide
  count rest := rfl
  step fuel first s earlier rest := by
    show readSequence (fuel + 1) first { ignoreCase } s earlier (.escaped c :: tokens rest) = _
    rw [readSequence, readEscape_of_isEscapable escapable]
    rfl

/-- A class, a category or the point, none of which starts with the sign of a greed. -/
theorem readsAtom_one {c : Char} {front : List Char} {cls : CharClass} (n : Nat) (opens : c ≠ '?' ∧ c ≠ '+')
    (count : ∀ rest, (tokens (c :: front ++ rest)).length = (tokens rest).length + n + 1)
    (step : ∀ fuel first s earlier rest,
      readSequence (fuel + 1) first { ignoreCase } s earlier (tokens (c :: front ++ rest)) =
        readSequence fuel first { ignoreCase } s (⟨.one cls, .exactly 1, .plain⟩ :: earlier) (tokens rest)) :
    ReadsAtom ignoreCase (c :: front) (.one cls) := by
  have taken : TakenAs ignoreCase (c :: front) ⟨.one cls, .exactly 1, .plain⟩ n := by
    refine ⟨fun rest d here => ?_, count, step⟩
    obtain rfl := Option.some.inj here
    exact opens
  exact taken.atom rfl

/-- An edge of a word. -/
theorem Reads.edge : Reads ignoreCase "\\b".toList [.edge] :=
  TakenAs.reads (p := ⟨.edge, .exactly 0, .anchor⟩) (n := 0)
    { keepsGreed := by
        rintro _ _ ⟨⟩
        decide
      count := fun _ => rfl
      step := fun _ _ _ _ _ => rfl }

/-! ## Escaped texts -/

theorem Reads.map {f : Char → List Char} {g : Char → Expr} : ∀ {text : List Char},
    (∀ c ∈ text, Reads ignoreCase (f c) [g c]) → Reads ignoreCase (text.flatMap f) (text.map g)
  | [], _ => .nil
  | c :: text, each => by
    rw [List.flatMap_cons, List.map_cons, ← List.singleton_append]
    exact (each c List.mem_cons_self).append (Reads.map fun d mem => each d (List.mem_cons_of_mem c mem))

/-- An escaped text is read as its characters, whatever they are. -/
theorem Reads.escaped (text : List Char) :
    Reads ignoreCase (escape text) (text.map fun c => .one (.code (casing ignoreCase) c.toNat)) := by
  refine Reads.map fun c _ => ?_
  by_cases special : c ∈ specialChars
  · rw [if_pos (List.contains_iff_mem.2 special)]
    exact (takenAs_escaped (.inr special)).reads
  · rw [if_neg (mt List.contains_iff_mem.1 special)]
    exact (takenAs_plain special).reads

theorem escape_of_isPlainChar : ∀ {text : List Char}, (∀ c ∈ text, IsPlainChar c) → escape text = text
  | [], _ => rfl
  | c :: text, plain => by
    obtain ⟨here, rest⟩ := List.forall_mem_cons.1 plain
    have alone : escape (c :: text) = (if specialChars.contains c then ['\\', c] else [c]) ++ escape text := rfl
    rw [alone, if_neg (mt List.contains_iff_mem.1 here), escape_of_isPlainChar rest, List.singleton_append]

/-! ## Repetitions -/

/-- The signs of the repetitions, and how often they repeat. -/
def repetitions : List (Char × Counts) := [('?', ⟨0, some 1⟩), ('*', ⟨0, none⟩), ('+', ⟨1, none⟩)]

/-- What the reader makes of an expression in front of such a sign. -/
def Expr.repeated (counts : Counts) : Expr → Expr
  | .one cls => .run cls counts.least counts.most .greedy
  | e => .loop e counts.least counts.most .greedy

theorem Piece.repeated_greedy (e : Expr) (w : Width) (counts : Counts) :
    Piece.repeated ⟨e, w, .plain⟩ counts .greedy =
      .ok ⟨e.repeated counts, w.repeated counts.least counts.most, .repeated⟩ := by
  cases e <;> rfl

theorem readGreed_of_keepsGreed : ∀ {rest : List Char}, KeepsGreed rest →
    readGreed (tokens rest) = (.greedy, tokens rest)
  | [], _ => rfl
  | c :: rest, keeps => by
    obtain ⟨noLazy, noPossessive⟩ := keeps c rfl
    unfold tokens
    split
    · rfl
    · rfl
    · rfl
    · next h =>
      obtain ⟨rfl, rfl⟩ := List.cons.inj h
      unfold readGreed
      split
      · next h => exact absurd (Token.plain.inj (List.cons.inj h).1) noLazy
      · next h => exact absurd (Token.plain.inj (List.cons.inj h).1) noPossessive
      · rfl

theorem readSequence_repetition {q : Char} {counts : Counts} (known : (q, counts) ∈ repetitions) {ts : List Token}
    (greedy : readGreed ts = (.greedy, ts)) (fuel : Nat) (first : Bool) (s : Progress) (e : Expr) (w : Width)
    (earlier : List Piece) :
    readSequence (fuel + 1) first { ignoreCase } s (⟨e, w, .plain⟩ :: earlier) (.plain q :: ts) =
      readSequence fuel first { ignoreCase } s
        (⟨e.repeated counts, w.repeated counts.least counts.most, .repeated⟩ :: earlier) ts := by
  have step : readSequence (fuel + 1) first { ignoreCase } s (⟨e, w, .plain⟩ :: earlier) (.plain q :: ts) =
      (do
        let p ← Piece.repeated ⟨e, w, .plain⟩ counts (readGreed ts).1
        readSequence fuel first { ignoreCase } s (p :: earlier) (readGreed ts).2) := by
    simp only [repetitions, List.mem_cons, List.not_mem_nil, or_false, Prod.mk.injEq] at known
    rcases known with ⟨rfl, rfl⟩ | ⟨rfl, rfl⟩ | ⟨rfl, rfl⟩
    all_goals rfl
  rw [step, greedy, Piece.repeated_greedy]
  rfl

theorem ReadsAtom.repeated {front : List Char} {e : Expr} {q : Char} {counts : Counts}
    (h : ReadsAtom ignoreCase front e) (known : (q, counts) ∈ repetitions) :
    Reads ignoreCase (front ++ [q]) [e.repeated counts] where
  keepsGreed {rest} _ := by
    rw [List.append_assoc]
    exact h.keepsGreed _
  goesOn {rest fuel} keeps enough first s earlier := by
    rw [List.append_assoc] at enough ⊢
    obtain ⟨fuel₁, ⟨_, w, _⟩, enough₁, rfl, rfl, reads₁⟩ := h.goesOn enough first s earlier
    have noEscape : ∀ r ∈ repetitions, r.1 ≠ '\\' := by decide
    have sign : tokens ([q] ++ rest) = .plain q :: tokens rest := tokens_cons (noEscape _ known) rest
    rw [sign] at enough₁ reads₁
    rw [List.length_cons] at enough₁
    rw [reads₁]
    cases fuel₁ with
    | zero => exact absurd enough₁ (Nat.not_lt_zero _)
    | succ fuel₁ =>
      rw [readSequence_repetition known (readGreed_of_keepsGreed keeps)]
      exact ⟨fuel₁, [_], by omega, rfl, rfl⟩

section
variable {front : List Char} {cls : CharClass} (h : ReadsAtom ignoreCase front (.one cls))
include h

theorem ReadsAtom.maybe : Reads ignoreCase (front ++ ['?']) [.maybe cls] := h.repeated List.mem_cons_self

theorem ReadsAtom.many : Reads ignoreCase (front ++ ['*']) [.many cls] :=
  h.repeated (List.mem_cons_of_mem _ List.mem_cons_self)

theorem ReadsAtom.many1 : Reads ignoreCase (front ++ ['+']) [.many1 cls] :=
  h.repeated (List.mem_cons_of_mem _ (List.mem_cons_of_mem _ List.mem_cons_self))

end

/-! ## Alternatives -/

/-- Nothing that goes on with a sequence. -/
def EndsSequence (rest : List Char) : Prop := ∀ c ∈ rest.head?, c = '|' ∨ c = ')'

theorem EndsSequence.keepsGreed {rest : List Char} (ends : EndsSequence rest) : KeepsGreed rest := fun c here => by
  rcases ends c here with rfl | rfl
  all_goals decide

theorem readSequence_end : ∀ {rest : List Char}, EndsSequence rest → ∀ fuel first s pieces,
    readSequence (fuel + 1) first { ignoreCase } s pieces (tokens rest) = .ok (pieces, s, tokens rest)
  | [], _, _, _, _, _ => rfl
  | c :: rest, ends, _, _, _, _ => by
    rcases ends c rfl with rfl | rfl
    all_goals
      rw [tokens_cons (by decide)]
      rfl

/-- Up to its end, a sequence is read as the sequence of its expressions. -/
theorem Reads.readSequence_eq {front rest : List Char} {es : List Expr} {fuel : Nat} (h : Reads ignoreCase front es)
    (ends : EndsSequence rest) (enough : 5 * (tokens (front ++ rest)).length < fuel) (first : Bool) (s : Progress) :
    ∃ pieces, (joinPieces pieces).1 = .sequence es ∧
      readSequence fuel first { ignoreCase } s [] (tokens (front ++ rest)) = .ok (pieces, s, tokens rest) := by
  obtain ⟨fuel', pieces, enough', made, reads⟩ := h.goesOn ends.keepsGreed enough first s []
  refine ⟨pieces, ?_, ?_⟩
  · rw [joinPieces, List.map_reverse, made, List.reverse_reverse]
  · cases fuel' with
    | zero => exact absurd enough' (Nat.not_lt_zero _)
    | succ fuel' => rw [reads, List.append_nil, readSequence_end ends]

theorem readAlternatives_last {front rest : List Char} {es : List Expr} {fuel : Nat} (h : Reads ignoreCase front es)
    (ends : ∀ c ∈ rest.head?, c = ')') (enough : 5 * (tokens (front ++ rest)).length + 1 < fuel) (nested first : Bool)
    (s : Progress) : ∃ w, readAlternatives fuel nested first { ignoreCase } s (tokens (front ++ rest)) =
      .ok ((.sequence es, w), s, tokens rest) := by
  cases fuel with
  | zero => exact absurd enough (Nat.not_lt_zero _)
  | succ fuel =>
    obtain ⟨pieces, made, reads⟩ := h.readSequence_eq (fun c here => .inr (ends c here)) (Nat.lt_of_succ_lt_succ enough)
      (!nested && first) s
    refine ⟨(joinPieces pieces).2, ?_⟩
    rw [readAlternatives, reads, ← made]
    cases rest with
    | nil => rfl
    | cons c rest =>
      obtain rfl := ends c rfl
      rw [tokens_cons (by decide)]
      rfl

/-- The alternatives of a group with what separates them. -/
def separated (alternatives : List (List Char)) : List Char := List.intercalate ['|'] alternatives

theorem separated_cons (a b : List Char) (rest : List (List Char)) :
    separated (a :: b :: rest) = a ++ '|' :: separated (b :: rest) := by
  unfold separated
  rw [List.intercalate_cons_cons, List.append_assoc, List.singleton_append]

/-- Alternatives inside a group are read as the choice between them. -/
theorem readAlternatives_separated {rest : List Char} : ∀ {alternatives : List (List Char)} {ess : List (List Expr)},
    List.Forall₂ (Reads ignoreCase) alternatives ess → alternatives ≠ [] → ∀ {fuel : Nat},
    5 * (tokens (separated alternatives ++ ')' :: rest)).length + 1 < fuel → ∀ first s, ∃ w,
      readAlternatives fuel true first { ignoreCase } s (tokens (separated alternatives ++ ')' :: rest)) =
        .ok ((.choice (ess.map .sequence), w), s, .plain ')' :: tokens rest)
  | _, _, .nil, nonempty, _, _, _, _ => absurd rfl nonempty
  | [a], [es], .cons here .nil, _, fuel, enough, first, s => by
    have alone : separated [a] = a := List.intercalate_singleton
    rw [alone] at enough ⊢
    have ends : ∀ c ∈ (')' :: rest).head?, c = ')' := by
      rintro _ ⟨⟩
      rfl
    rw [← tokens_cons (c := ')') (by decide)]
    exact readAlternatives_last here ends enough true first s
  | a :: b :: alternatives, es :: fs :: ess, .cons here others, _, fuel, enough, first, s => by
    have front : separated (a :: b :: alternatives) ++ ')' :: rest =
        a ++ '|' :: (separated (b :: alternatives) ++ ')' :: rest) := by
      rw [separated_cons, List.append_assoc, List.cons_append]
    rw [front] at enough ⊢
    cases fuel with
    | zero => exact absurd enough (Nat.not_lt_zero _)
    | succ fuel =>
      have ends : EndsSequence ('|' :: (separated (b :: alternatives) ++ ')' :: rest)) := by
        rintro _ ⟨⟩
        exact .inl rfl
      -- The bar is a token, so that there is fuel left to read the others.
      have left := length_tokens_append ('|' :: (separated (b :: alternatives) ++ ')' :: rest)) a
      rw [tokens_cons (by decide), List.length_cons] at left
      obtain ⟨pieces, made, reads⟩ := here.readSequence_eq ends (Nat.lt_of_succ_lt_succ enough) (!true && first) s
      have enough' : 5 * (tokens (separated (b :: alternatives) ++ ')' :: rest)).length + 1 < fuel := by omega
      obtain ⟨w, further⟩ := readAlternatives_separated others (List.cons_ne_nil _ _) enough' false s
      rw [readAlternatives, reads, tokens_cons (c := '|') (by decide)]
      refine ⟨(joinPieces pieces).2.union w, ?_⟩
      show (readAlternatives fuel true false { ignoreCase } s _ >>= _) = _
      rw [further]
      exact congrArg (fun e => Except.ok ((Expr.alt e (.choice ((fs :: ess).map .sequence)),
        (joinPieces pieces).2.union w), s, Token.plain ')' :: tokens rest)) made

/-! ## Groups -/

/-- A group is read as the choice between its alternatives. -/
theorem Reads.group {alternatives : List (List Char)} {ess : List (List Expr)}
    (each : List.Forall₂ (Reads ignoreCase) alternatives ess) (nonempty : alternatives ≠ []) :
    ReadsAtom ignoreCase ("(?:".toList ++ (separated alternatives ++ [')'])) (.choice (ess.map .sequence)) where
  keepsGreed := by
    rintro _ _ ⟨⟩
    decide
  goesOn {rest fuel} enough first s earlier := by
    have group : tokens ("(?:".toList ++ (separated alternatives ++ [')']) ++ rest) =
        .plain '(' :: .plain '?' :: .plain ':' :: tokens (separated alternatives ++ ')' :: rest) := by
      rw [List.append_assoc, List.append_assoc]
      rfl
    have left := length_tokens_append (')' :: rest) (separated alternatives)
    rw [tokens_cons (by decide), List.length_cons] at left
    rw [group] at enough ⊢
    simp only [List.length_cons] at enough
    obtain ⟨fuel, rfl⟩ : ∃ n, fuel = n + 2 := ⟨fuel - 2, by omega⟩
    have enough' : 5 * (tokens (separated alternatives ++ ')' :: rest)).length + 1 < fuel := by omega
    obtain ⟨w, reads⟩ := readAlternatives_separated each nonempty enough' true s
    refine ⟨fuel, ⟨_, w, .plain⟩, by omega, rfl, rfl, ?_⟩
    show (readAlternatives fuel true true { ignoreCase } s _ >>= _) = _
    rw [reads]
    rfl

/-- A repeated group of one alternative, if it has more than one piece. -/
theorem Reads.repeatedGroup {front : List Char} {e f : Expr} {es : List Expr} {q : Char} {counts : Counts}
    (h : Reads ignoreCase front (e :: f :: es)) (known : (q, counts) ∈ repetitions) :
    Reads ignoreCase ("(?:".toList ++ (front ++ [')']) ++ [q])
      [.loop (.sequence (e :: f :: es)) counts.least counts.most .greedy] := by
  have group := Reads.group (.cons h .nil) (List.cons_ne_nil front [])
  rw [separated, List.intercalate_singleton] at group
  exact group.repeated known

/-- What must not follow is read as such. -/
theorem Reads.notFollowedBy {front : List Char} {es : List Expr} (h : Reads ignoreCase front es) :
    Reads ignoreCase ("(?!".toList ++ (front ++ [')'])) [.notFollowedBy (.sequence es)] where
  keepsGreed := by
    rintro _ _ _ ⟨⟩
    decide
  goesOn {rest fuel} _ enough first s earlier := by
    have look : tokens ("(?!".toList ++ (front ++ [')']) ++ rest) =
        .plain '(' :: .plain '?' :: .plain '!' :: tokens (front ++ ')' :: rest) := by
      rw [List.append_assoc, List.append_assoc]
      rfl
    have left := length_tokens_append (')' :: rest) front
    rw [tokens_cons (by decide), List.length_cons] at left
    rw [look] at enough ⊢
    simp only [List.length_cons] at enough
    obtain ⟨fuel, rfl⟩ : ∃ n, fuel = n + 3 := ⟨fuel - 3, by omega⟩
    have ends : ∀ c ∈ (')' :: rest).head?, c = ')' := by
      rintro _ ⟨⟩
      rfl
    have enough' : 5 * (tokens (front ++ ')' :: rest)).length + 1 < fuel := by omega
    obtain ⟨w, reads⟩ := readAlternatives_last h ends enough' true true s
    have ahead : readLook (fuel + 1) false true { ignoreCase } s (tokens (front ++ ')' :: rest)) =
        .ok (⟨.notFollowedBy (.sequence es), .exactly 0, .plain⟩, s, tokens rest) := by
      show (readAlternatives fuel true true { ignoreCase } s _ >>= _) = _
      rw [reads, tokens_cons (by decide)]
      -- Only a look-behind may leave its mark on the progress.
      show Except.ok (_, { s with looseBehind := s.looseBehind || (false && _) }, _) = _
      rw [Bool.false_and, Bool.or_false]
      rfl
    refine ⟨fuel + 1, [⟨.notFollowedBy (.sequence es), .exactly 0, .plain⟩], by omega, rfl, ?_⟩
    show (readLook (fuel + 1) false true { ignoreCase } s _ >>= _) = _
    rw [ahead]
    rfl

/-! ## Whole expressions -/

theorem Reads.readExpr_eq {source : List Char} {es : List Expr} (h : Reads ignoreCase source es) :
    readExpr { ignoreCase } source = .ok (.sequence es) := by
  have none : ∀ c ∈ ([] : List Char).head?, c = ')' := fun _ here => nomatch here
  have enough : 5 * (tokens (source ++ [])).length + 1 < 5 * (tokens source).length + 5 := by
    rw [List.append_nil]
    omega
  obtain ⟨w, reads⟩ := readAlternatives_last h none enough false true { modes := { ignoreCase } }
  rw [List.append_nil] at reads
  rw [readExpr, reads]
  cases ignoreCase <;> rfl

/-- An expression that sets its mode itself is read without regard to case. -/
theorem Reads.readExpr_ignoringCase {source : List Char} {es : List Expr} (h : Reads true source es) :
    readExpr {} ("(?i)".toList ++ source) = .ok (.sequence es) := by
  have none : EndsSequence [] := fun _ here => nomatch here
  have enough : 5 * (tokens (source ++ [])).length < 5 * ((tokens source).length + 4) + 2 := by
    rw [List.append_nil]
    omega
  obtain ⟨pieces, made, reads⟩ := h.readSequence_eq none enough true { modes := { ignoreCase := true } }
  have whole : readSequence (5 * ((tokens source).length + 4) + 4) true {} { modes := {} } []
      (tokens ("(?i)".toList ++ source)) = .ok (pieces, { modes := { ignoreCase := true } }, []) := by
    rw [List.append_nil] at reads
    exact reads
  show (readAlternatives (5 * ((tokens source).length + 4) + 5) false true {} { modes := {} } _ >>= _) = _
  rw [readAlternatives, Bool.not_false, Bool.true_and, whole, ← made]
  rfl

end BundleAudit.Regex
