import BundleAudit.Proofs.Regex.Repetition
import BundleAudit.Proofs.Regex.Search

/-!
# What expressions match

`Expr.Accepts` says which texts an expression matches between what stands before them and what stands behind
them, without saying which of them is tried first. It covers classes, anchors, sequences, alternatives and
repetitions that give characters back (`Expr.IsPlain`). Matching finds nothing else
(`Expr.exists_of_match`), and it finds something if there is something to find (`Expr.isSome_match`).

A text that an expression matches at a place is among all its matches, unless it starts within one that starts
before it (`Expr.mem_findAll_or_covered`).
-/

namespace BundleAudit.Regex

namespace Expr

/-- The expression matches the text `s` behind `before` (nearest character first) and in front of `after`. -/
def Accepts : Expr → (before s after : List Char) → Prop
  | .empty, _, s, _ => s = []
  | .one cls, _, s, _ => ∃ c, s = [c] ∧ cls.contains c = true
  | .anchor a, before, s, after => s = [] ∧ a.holds ⟨before, after, 0, []⟩ = true
  | .seq first second, before, s, after => ∃ s₁ s₂, s = s₁ ++ s₂ ∧
      first.Accepts before s₁ (s₂ ++ after) ∧ second.Accepts (s₁.reverse ++ before) s₂ after
  | .alt first second, before, s, after => first.Accepts before s after ∨ second.Accepts before s after
  | .run cls least most _, _, s, _ =>
    least ≤ s.length ∧ most.all (s.length ≤ ·) = true ∧ ∀ c ∈ s, cls.contains c = true
  | .loop body least most _, before, s, after => Repeats body.Accepts least most before s after
  | _, _, _, _ => False

/-- The expressions whose matches `Accepts` describes. -/
def IsPlain : Expr → Bool
  | .empty | .one _ | .anchor _ => true
  | .seq first second | .alt first second => first.IsPlain && second.IsPlain
  | .run _ _ _ greed => greed != .possessive
  | .loop body _ _ greed => body.IsPlain && greed != .possessive
  | _ => false

end Expr

/-! ## Repetitions of a class -/

/-- The number of characters of a class in front of a text, up to a limit. -/
def reach (cls : CharClass) : List Char → Option Nat → Nat
  | [], _ => 0
  | c :: rest, room => if room == some 0 || !cls.contains c then 0 else reach cls rest (room.map (· - 1)) + 1

theorem le_reach_iff (cls : CharClass) : ∀ (text : List Char) (room : Option Nat) (n : Nat),
    n ≤ reach cls text room ↔
      n ≤ text.length ∧ room.all (n ≤ ·) = true ∧ ∀ c ∈ text.take n, cls.contains c = true
  | [], room, n => by cases n <;> simp [reach]
  | c :: rest, room, 0 => by simp
  | c :: rest, room, n + 1 => by
    have limit : room.all (n + 1 ≤ ·) = true ↔ room ≠ some 0 ∧ (room.map (· - 1)).all (n ≤ ·) = true := by
      cases room with
      | none => simp
      | some most =>
        simp only [Option.all_some, Option.map_some, decide_eq_true_eq, ne_eq, Option.some.injEq]
        omega
    rw [reach, limit, List.take_succ_cons, List.forall_mem_cons, List.length_cons]
    by_cases stop : (room == some 0 || !cls.contains c) = true
    · rw [if_pos stop]
      refine iff_of_false (Nat.not_succ_le_zero n) fun ⟨_, ⟨open_, _⟩, holds, _⟩ => ?_
      simp [open_, holds] at stop
    · rw [if_neg stop, Nat.add_le_add_iff_right, le_reach_iff cls rest, Nat.add_le_add_iff_right]
      simp only [Bool.or_eq_true, beq_iff_eq, Bool.not_eq_true', not_or, Bool.not_eq_false] at stop
      simp [stop.1, stop.2]

namespace Place

theorem textSince_behind {p : Place} {s after : List Char} (split : p.after = s ++ after) :
    p.textSince (p.behind s after) = s := by
  unfold textSince behind
  rw [split, Nat.add_sub_cancel_left, List.take_left]

/-- The place `n` characters later. -/
def forward (p : Place) (n : Nat) : Place := p.behind (p.after.take n) (p.after.drop n)

theorem forward_step {p : Place} {c : Char} {rest : List Char} (here : p.after = c :: rest) (n : Nat) :
    (p.step c rest).forward n = p.forward (n + 1) := by
  unfold forward
  rw [here, List.take_succ_cons, List.drop_succ_cons]
  simp [behind, step]
  omega

end Place

/-- Where a repetition may stop, farthest first. -/
theorem stops_eq (cls : CharClass) : ∀ (text : List Char) (room : Option Nat) (p : Place) (found : List Place),
    p.after = text → stops cls text room p found =
      ((List.range (reach cls text room + 1)).map p.forward).reverse ++ found
  | [], room, p, found, here => by
    rw [stops, reach]
    rfl
  | c :: rest, room, p, found, here => by
    rw [stops, reach]
    by_cases stop : (room == some 0 || !cls.contains c) = true
    · rw [if_pos stop, if_pos stop]
      rfl
    · have farther : (p.step c rest).forward = p.forward ∘ Nat.succ := funext fun n => Place.forward_step here n
      rw [if_neg stop, if_neg stop, stops_eq cls rest _ _ _ rfl, farther, ← List.map_map]
      rw [List.range_succ_eq_map (n := reach cls rest (room.map (· - 1)) + 1), List.map_cons, List.reverse_cons,
        List.append_assoc]
      rfl

/-- A repetition that may stop at a place stops there. -/
theorem mem_run_stops {cls : CharClass} {least : Nat} {most : Option Nat} {p q : Place} :
    let all := stops cls p.after most p []
    q ∈ all.take (all.length - least) ↔ ∃ s after, p.after = s ++ after ∧ q = p.behind s after ∧
      least ≤ s.length ∧ most.all (s.length ≤ ·) = true ∧ ∀ c ∈ s, cls.contains c = true := by
  intro all
  have all_eq : all = ((List.range (reach cls p.after most + 1)).map p.forward).reverse := by
    have := stops_eq cls p.after most p [] rfl
    rwa [List.append_nil] at this
  have mem : q ∈ all.take (all.length - least) ↔ ∃ n, least ≤ n ∧ n ≤ reach cls p.after most ∧ p.forward n = q := by
    rw [all_eq, List.take_reverse, List.mem_reverse, ← List.map_drop, List.mem_map]
    simp only [List.range_eq_range', List.drop_range', List.mem_range'_1, List.length_reverse, List.length_map,
      List.length_range']
    refine exists_congr fun n => ?_
    rw [← and_assoc]
    refine and_congr_left fun _ => ?_
    omega
  rw [mem]
  constructor
  · rintro ⟨n, enough, le, rfl⟩
    obtain ⟨short, within, holds⟩ := (le_reach_iff cls _ _ n).1 le
    have length : (p.after.take n).length = n := List.length_take_of_le short
    refine ⟨_, _, (List.take_append_drop n _).symm, rfl, ?_, ?_, holds⟩
    · rwa [length]
    · rwa [length]
  · rintro ⟨s, after, split, rfl, enough, within, holds⟩
    refine ⟨s.length, enough, (le_reach_iff cls _ _ _).2 ⟨?_, within, ?_⟩, ?_⟩
    · rw [split, List.length_append]
      omega
    · rwa [split, List.take_left]
    · unfold Place.forward
      rw [split, List.take_left, List.drop_left]

/-! ## Ways of matching -/

namespace Expr

theorem anchor_holds_eq (a : Anchor) (p : Place) : a.holds p = a.holds ⟨p.before, p.after, 0, []⟩ := by
  cases a <;> rfl

/-- What is matched is accepted, and the continuation accepts the place behind it. -/
theorem exists_of_match : ∀ {e : Expr} {k : Continuation} {p r : Place}, e.IsPlain = true → e.match k p = some r →
    ∃ s after, p.after = s ++ after ∧ e.Accepts p.before s after ∧ k (p.behind s after) = some r
  | .empty, k, p, r, plain, matched => ⟨[], p.after, rfl, rfl, matched⟩
  | .one cls, k, p, r, plain, matched => by
    rw [Expr.match] at matched
    cases here : p.after with
    | nil => simp [here] at matched
    | cons c rest =>
      simp only [here] at matched
      split at matched
      · next holds => exact ⟨[c], rest, rfl, ⟨c, rfl, holds⟩, matched⟩
      · cases matched
  | .anchor a, k, p, r, plain, matched => by
    rw [Expr.match] at matched
    split at matched
    · next holds =>
      rw [anchor_holds_eq] at holds
      exact ⟨[], p.after, rfl, ⟨rfl, holds⟩, matched⟩
    · cases matched
  | .seq e f, k, p, r, plain, matched => by
    obtain ⟨plain₁, plain₂⟩ := Bool.and_eq_true_iff.1 plain
    rw [Expr.match] at matched
    obtain ⟨s₁, rest, split₁, accepts₁, matched⟩ := exists_of_match plain₁ matched
    obtain ⟨s₂, after, split₂, accepts₂, matched⟩ := exists_of_match plain₂ matched
    obtain rfl : rest = s₂ ++ after := split₂
    rw [Place.behind_behind] at matched
    exact ⟨s₁ ++ s₂, after, by rw [split₁, List.append_assoc], ⟨s₁, s₂, rfl, accepts₁, accepts₂⟩, matched⟩
  | .alt e f, k, p, r, plain, matched => by
    obtain ⟨plain₁, plain₂⟩ := Bool.and_eq_true_iff.1 plain
    rw [Expr.match] at matched
    cases first : e.match k p with
    | some q =>
      rw [first] at matched
      obtain ⟨s, after, split, accepts, matched⟩ := exists_of_match plain₁ (first.trans matched)
      exact ⟨s, after, split, .inl accepts, matched⟩
    | none =>
      rw [first] at matched
      obtain ⟨s, after, split, accepts, matched⟩ := exists_of_match plain₂ matched
      exact ⟨s, after, split, .inr accepts, matched⟩
  | .run cls least most greed, k, p, r, plain, matched => by
    rw [Expr.match] at matched
    have found : ∃ q ∈ (let all := stops cls p.after most p []; all.take (all.length - least)), k q = some r := by
      unfold Matcher.run at matched
      cases greed with
      | greedy => exact List.exists_of_findSome?_eq_some matched
      | lazy =>
        obtain ⟨q, mem, accepted⟩ := List.exists_of_findSome?_eq_some matched
        exact ⟨q, List.mem_reverse.1 mem, accepted⟩
      | possessive => cases plain
    obtain ⟨q, mem, accepted⟩ := found
    obtain ⟨s, after, split, rfl, within⟩ := mem_run_stops.1 mem
    exact ⟨s, after, split, within, accepted⟩
  | .loop body least most greed, k, p, r, plain, matched => by
    obtain ⟨plainBody, yields⟩ := Bool.and_eq_true_iff.1 plain
    have sound : body.match.OnlyFinds body.Accepts := fun matched => exists_of_match plainBody matched
    rw [Expr.match] at matched
    exact sound.loop (bne_iff_ne.1 yields) matched

/-- If something is accepted and the continuation accepts the place behind it, then something is matched. -/
theorem isSome_match : ∀ {e : Expr} {k : Continuation} {p : Place}, e.IsPlain = true →
    ∀ {s after : List Char}, p.after = s ++ after → e.Accepts p.before s after → (k (p.behind s after)).isSome →
      (e.match k p).isSome
  | .empty, k, p, plain, s, after, split, accepts, goesOn => by
    obtain rfl : s = [] := accepts
    obtain rfl : p.after = after := split
    exact goesOn
  | .one cls, k, p, plain, s, after, split, accepts, goesOn => by
    obtain ⟨c, rfl, holds⟩ := accepts
    have here : p.after = c :: after := split
    rw [Expr.match]
    simp only [here, holds, if_true]
    exact goesOn
  | .anchor a, k, p, plain, s, after, split, accepts, goesOn => by
    obtain ⟨rfl, holds⟩ := accepts
    obtain rfl : p.after = after := split
    rw [← anchor_holds_eq] at holds
    rw [Expr.match, if_pos holds]
    exact goesOn
  | .seq e f, k, p, plain, s, after, split, accepts, goesOn => by
    obtain ⟨plain₁, plain₂⟩ := Bool.and_eq_true_iff.1 plain
    obtain ⟨s₁, s₂, rfl, accepts₁, accepts₂⟩ := accepts
    rw [List.append_assoc] at split
    rw [Expr.match]
    refine isSome_match plain₁ split accepts₁ (isSome_match plain₂ rfl accepts₂ ?_)
    rwa [Place.behind_behind]
  | .alt e f, k, p, plain, s, after, split, accepts, goesOn => by
    obtain ⟨plain₁, plain₂⟩ := Bool.and_eq_true_iff.1 plain
    rw [isSome_match_alt]
    rcases accepts with accepts | accepts
    · exact .inl (isSome_match plain₁ split accepts goesOn)
    · exact .inr (isSome_match plain₂ split accepts goesOn)
  | .run cls least most greed, k, p, plain, s, after, split, accepts, goesOn => by
    have mem := mem_run_stops.2 ⟨s, after, split, rfl, accepts⟩
    rw [Expr.match]
    unfold Matcher.run
    cases greed with
    | greedy => exact List.findSome?_isSome_iff.2 ⟨_, mem, goesOn⟩
    | lazy => exact List.findSome?_isSome_iff.2 ⟨_, List.mem_reverse.2 mem, goesOn⟩
    | possessive => cases plain
  | .loop body least most greed, k, p, plain, s, after, split, accepts, goesOn => by
    obtain ⟨plainBody, yields⟩ := Bool.and_eq_true_iff.1 plain
    have complete : body.match.Finds body.Accepts := fun split accepts goesOn =>
      isSome_match plainBody split accepts goesOn
    rw [Expr.match]
    exact complete.loop (bne_iff_ne.1 yields) split accepts goesOn

section
variable {e : Expr} (plain : e.IsPlain = true)
include plain

theorem accepts_of_matchHere? {nonempty : Bool} {p : Place} {m : Match} (h : e.matchHere? nonempty p = some m) :
    m.start = p.offset ∧ ∃ after, p.after = m.text ++ after ∧ e.Accepts p.before m.text after := by
  obtain ⟨r, matched, rfl⟩ := Option.map_eq_some_iff.1 h
  obtain ⟨s, after, split, accepts, ended⟩ := exists_of_match plain matched
  split at ended
  · cases ended
  · obtain rfl := Option.some.inj ended
    rw [Place.textSince_behind split]
    exact ⟨rfl, after, split, accepts⟩

theorem exists_matchHere? {p : Place} {s after : List Char} (split : p.after = s ++ after)
    (accepts : e.Accepts p.before s after) : ∃ m, e.matchHere? false p = some m := by
  have some : (e.matchHere? false p).isSome := by
    unfold matchHere?
    rw [Option.isSome_map]
    exact isSome_match plain split accepts rfl
  exact Option.isSome_iff_exists.1 some

end

theorem isSome_searchFrom? {e : Expr} {back : List Char} : ∀ {front : List Char} {p : Place},
    p.after = front ++ back → (e.matchHere? false (p.behind front back)).isSome →
      (e.searchFrom? (front ++ back) p).isSome
  | [], p, here, matched => by
    have here : p.after = back := here
    rw [Place.behind_nil here] at matched
    cases back with
    | nil => exact matched
    | cons c rest =>
      rw [List.nil_append, searchFrom?]
      cases first : e.matchHere? false p with
      | none => simp [first] at matched
      | some m => rfl
  | c :: front, p, here, matched => by
    rw [List.cons_append, searchFrom?]
    cases first : e.matchHere? false p with
    | some m => rfl
    | none => exact isSome_searchFrom? rfl (by rwa [Place.behind_step])

/-- An expression occurs in a text that has a piece that it accepts. -/
theorem occursIn_of_accepts {e : Expr} (plain : e.IsPlain = true) {front s back : List Char}
    (accepts : e.Accepts front.reverse s back) : e.occursIn (front ++ (s ++ back)) = true := by
  refine isSome_searchFrom? rfl ?_
  obtain ⟨m, matched⟩ := exists_matchHere? plain
    (p := (Place.start (front ++ (s ++ back))).behind front (s ++ back)) rfl (by simpa [Place.behind, Place.start])
  rw [matched]
  rfl

theorem exists_place_of_searchFrom? {e : Expr} {m : Match} : ∀ {text : List Char} {p : Place}, p.after = text →
    e.searchFrom? text p = some m → ∃ front back, text = front ++ back ∧
      e.matchHere? false (p.behind front back) = some m
  | [], p, here, h => ⟨[], [], rfl, by rwa [Place.behind_nil here]⟩
  | c :: rest, p, here, h => by
    rw [searchFrom?] at h
    cases first : e.matchHere? false p with
    | some n =>
      rw [first] at h
      obtain rfl := Option.some.inj h
      exact ⟨[], c :: rest, rfl, by rwa [Place.behind_nil here]⟩
    | none =>
      rw [first] at h
      have later : e.searchFrom? rest (p.step c rest) = some m := h
      obtain ⟨front, back, rfl, matched⟩ := exists_place_of_searchFrom? (p := p.step c rest) rfl later
      exact ⟨c :: front, back, rfl, by rwa [Place.behind_step] at matched⟩

/-- An expression that occurs in a text accepts a piece of it. -/
theorem exists_accepts_of_occursIn {e : Expr} (plain : e.IsPlain = true) {text : List Char}
    (occurs : e.occursIn text = true) :
    ∃ front s back, text = front ++ (s ++ back) ∧ e.Accepts front.reverse s back := by
  obtain ⟨m, found⟩ := Option.isSome_iff_exists.1 occurs
  obtain ⟨front, back, rfl, matched⟩ := exists_place_of_searchFrom? (p := Place.start text) rfl found
  obtain ⟨-, after, split, accepts⟩ := accepts_of_matchHere? plain matched
  obtain rfl : back = m.text ++ after := split
  exact ⟨front, m.text, after, rfl, by simpa [Place.behind, Place.start] using accepts⟩

/-! ## All matches -/

theorem accepts_of_mem_findAll {e : Expr} (plain : e.IsPlain = true) {text : List Char} {m : Match}
    (h : m ∈ e.findAll text) :
    ∃ front after, text = front ++ (m.text ++ after) ∧ m.start = front.length ∧
      e.Accepts front.reverse m.text after := by
  obtain ⟨front, back, nonempty, rfl, matched⟩ := exists_place_of_mem_findAll h
  obtain ⟨start, after, split, accepts⟩ := accepts_of_matchHere? plain matched
  obtain rfl : back = m.text ++ after := split
  refine ⟨front, after, rfl, start.trans (Nat.zero_add _), ?_⟩
  simpa [Place.behind, Place.start] using accepts

theorem lt_covered {found : List Match} {n : Nat} (h : n < covered found) : ∃ m ∈ found, n < m.text.length := by
  unfold covered at h
  cases last : found.getLast? with
  | none => simp [last] at h
  | some m =>
    rw [last] at h
    exact ⟨m, List.mem_of_getLast? last, h⟩

theorem mem_allHere {e : Expr} {p : Place} {m : Match} (matched : e.matchHere? false p = some m) :
    m ∈ e.allHere p := by
  unfold allHere
  rw [matched]
  dsimp only
  split
  · exact List.mem_cons_self
  · exact List.mem_cons_self

/-- A match at a place is found, unless a match that starts before it is found and ends behind its start. -/
theorem mem_findAllFrom_or_covered (e : Expr) : ∀ (rest : List Char) (skip : Nat) (p : Place), p.after = rest →
    ∀ {front back : List Char} {m : Match}, rest = front ++ back →
      e.matchHere? false (p.behind front back) = some m →
        front.length < skip ∨ m ∈ e.findAllFrom rest skip p ∨
          ∃ m' ∈ e.findAllFrom rest skip p, m'.start < m.start ∧ m.start < m'.start + m'.text.length
  | [], skip, p, here, front, back, m, split, matched => by
    obtain ⟨rfl, rfl⟩ := List.append_eq_nil_iff.1 split.symm
    rw [Place.behind_nil here] at matched
    exact .inr (.inl (mem_allHere matched))
  | c :: rest, skip, p, here, [], back, m, split, matched => by
    obtain rfl : c :: rest = back := split
    rw [Place.behind_nil here] at matched
    cases skip with
    | succ skip => exact .inl (Nat.succ_pos skip)
    | zero =>
      have found := mem_allHere matched
      refine .inr (.inl ?_)
      unfold findAllFrom
      cases first : e.allHere p with
      | nil => simp [first] at found
      | cons m' more => exact List.mem_append_left _ (first ▸ found)
  | c :: rest, skip, p, here, d :: front, back, m, split, matched => by
    obtain ⟨rfl, tail⟩ := List.cons.inj split
    have start : m.start = p.offset + (front.length + 1) := (isPrefix_of_matchHere? matched).1
    rw [← Place.behind_step p c front rest] at matched
    have later (skip : Nat) := mem_findAllFrom_or_covered e rest skip (p.step c rest) rfl tail matched
    cases skip with
    | succ skip => exact (later skip).imp_left Nat.succ_lt_succ
    | zero =>
      unfold findAllFrom
      refine .inr ?_
      cases first : e.allHere p with
      | nil => exact (later 0).resolve_left (Nat.not_lt_zero _)
      | cons m' more =>
        -- Either the match is among the later ones, or it starts within those that start here.
        rcases later (covered (m' :: more) - 1) with within | found | ⟨n, found, before, covers⟩
        · obtain ⟨n, mem, short⟩ := lt_covered (show front.length + 1 < covered (m' :: more) by omega)
          obtain ⟨nonempty, matched'⟩ := matchHere?_of_mem_allHere (first ▸ mem)
          have start' := (isPrefix_of_matchHere? matched').1
          exact .inr ⟨n, List.mem_append_left _ mem, by omega, by omega⟩
        · exact .inl (List.mem_append_right _ found)
        · exact .inr ⟨n, List.mem_append_right _ found, before, covers⟩

theorem mem_findAll_or_covered {e : Expr} {front back : List Char} {m : Match}
    (matched : e.matchHere? false ((Place.start (front ++ back)).behind front back) = some m) :
    m ∈ e.findAll (front ++ back) ∨
      ∃ m' ∈ e.findAll (front ++ back), m'.start < m.start ∧ m.start < m'.start + m'.text.length :=
  (mem_findAllFrom_or_covered e _ 0 (Place.start _) rfl rfl matched).resolve_left (Nat.not_lt_zero _)

/-! ## Texts and sequences -/

theorem accepts_sequence_nil {before s after : List Char} : (sequence []).Accepts before s after ↔ s = [] := .rfl

theorem accepts_sequence_cons (e : Expr) {es : List Expr} {before s after : List Char} :
    (sequence (e :: es)).Accepts before s after ↔ ∃ s₁ s₂, s = s₁ ++ s₂ ∧
      e.Accepts before s₁ (s₂ ++ after) ∧ (sequence es).Accepts (s₁.reverse ++ before) s₂ after := by
  cases es with
  | nil =>
    constructor
    · intro accepts
      exact ⟨s, [], (List.append_nil s).symm, accepts, rfl⟩
    · rintro ⟨s₁, s₂, rfl, accepts, rfl⟩
      rwa [List.append_nil]
  | cons f es => exact .rfl

theorem accepts_sequence_append {fs : List Expr} : ∀ {es : List Expr} {before s after : List Char},
    (sequence (es ++ fs)).Accepts before s after ↔ ∃ s₁ s₂, s = s₁ ++ s₂ ∧
      (sequence es).Accepts before s₁ (s₂ ++ after) ∧ (sequence fs).Accepts (s₁.reverse ++ before) s₂ after
  | [], before, s, after => by
    constructor
    · exact fun accepts => ⟨[], s, rfl, rfl, accepts⟩
    · rintro ⟨_, s, rfl, rfl, accepts⟩
      exact accepts
  | e :: es, before, s, after => by
    rw [List.cons_append, accepts_sequence_cons]
    constructor
    · rintro ⟨s₁, _, rfl, first, rest⟩
      obtain ⟨s₂, s₃, rfl, second, third⟩ := accepts_sequence_append.1 rest
      rw [List.append_assoc] at first
      rw [← List.append_assoc, ← List.reverse_append] at third
      exact ⟨s₁ ++ s₂, s₃, (List.append_assoc _ _ _).symm, (accepts_sequence_cons e).2 ⟨s₁, s₂, rfl, first, second⟩,
        third⟩
    · rintro ⟨_, s₃, rfl, front, third⟩
      obtain ⟨s₁, s₂, rfl, first, second⟩ := (accepts_sequence_cons e).1 front
      rw [← List.append_assoc] at first
      rw [List.reverse_append, List.append_assoc] at third
      exact ⟨s₁, s₂ ++ s₃, List.append_assoc _ _ _, first, accepts_sequence_append.2 ⟨s₂, s₃, rfl, second, third⟩⟩

/-- What a sequence matches has in it what each of its members matches. -/
theorem exists_infix_of_accepts {front back : List Expr} {e : Expr} {before s after : List Char}
    (accepts : (sequence (front ++ e :: back)).Accepts before s after) :
    ∃ before' s' after', s' <:+: s ∧ e.Accepts before' s' after' := by
  obtain ⟨s₁, _, rfl, -, rest⟩ := accepts_sequence_append.1 accepts
  obtain ⟨s', s₂, rfl, here, -⟩ := (accepts_sequence_cons _).1 rest
  exact ⟨_, s', _, ⟨s₁, s₂, List.append_assoc _ _ _⟩, here⟩

theorem isPlain_sequence_cons {e : Expr} {es : List Expr} (first : e.IsPlain = true)
    (rest : (sequence es).IsPlain = true) : (sequence (e :: es)).IsPlain = true := by
  cases es with
  | nil => exact first
  | cons f es => exact Bool.and_eq_true_iff.2 ⟨first, rest⟩

theorem isPlain_sequence {es : List Expr} (plain : ∀ e ∈ es, e.IsPlain = true) : (sequence es).IsPlain = true := by
  induction es with
  | nil => rfl
  | cons e es ih =>
    obtain ⟨first, rest⟩ := List.forall_mem_cons.1 plain
    exact isPlain_sequence_cons first (ih rest)

theorem contains_code (c d : Char) : (CharClass.code .none c.toNat).contains d = true ↔ d = c := by
  have code : (CharClass.code .none c.toNat).contains d = true ↔ c.toNat ≤ d.toNat ∧ d.toNat ≤ c.toNat := by
    simp [CharClass.code, CharClass.ofItems, CharClass.foldItem, CharClass.foldRange, CharClass.contains,
      ClassItem.holds, Folding.apply]
  rw [code]
  refine ⟨fun h => Char.toNat_inj.1 (Nat.le_antisymm h.2 h.1), ?_⟩
  rintro rfl
  exact ⟨Nat.le_refl _, Nat.le_refl _⟩

theorem any_holds_iff {cs : List Char} {c : Char} :
    (cs.map fun d => ClassItem.range d.toNat d.toNat).any (·.holds .none c.toNat) = true ↔ c ∈ cs := by
  rw [List.any_map, List.any_eq_true]
  constructor
  · rintro ⟨d, mem, holds⟩
    obtain ⟨low, high⟩ : d.toNat ≤ c.toNat ∧ c.toNat ≤ d.toNat := by simpa [ClassItem.holds] using holds
    rwa [← Char.toNat_inj.1 (Nat.le_antisymm low high)]
  · intro mem
    exact ⟨c, mem, by simp [ClassItem.holds]⟩

theorem contains_oneOf {cs : List Char} {c : Char} : (CharClass.oneOf cs).contains c = true ↔ c ∈ cs := by
  rw [← any_holds_iff]
  simp [CharClass.oneOf, CharClass.contains, Folding.apply]

theorem contains_noneOf {cs : List Char} {c : Char} : (CharClass.noneOf cs).contains c = true ↔ c ∉ cs := by
  rw [← any_holds_iff]
  simp [CharClass.noneOf, CharClass.oneOf, CharClass.contains, Folding.apply]

/-- A text that is taken as it is matches itself alone. -/
theorem accepts_literal : ∀ {text before s after : List Char}, (literal text).Accepts before s after ↔ s = text
  | [], before, s, after => .rfl
  | c :: text, before, s, after => by
    show (sequence (.one (CharClass.code .none c.toNat) :: text.map _)).Accepts before s after ↔ _
    rw [accepts_sequence_cons]
    constructor
    · rintro ⟨s₁, s₂, rfl, ⟨d, rfl, holds⟩, rest⟩
      rw [(contains_code c d).1 holds, accepts_literal.1 rest]
      rfl
    · rintro rfl
      exact ⟨[c], text, rfl, ⟨c, rfl, (contains_code c c).2 rfl⟩, accepts_literal.2 rfl⟩

theorem accepts_many {cls : CharClass} {before s after : List Char} :
    (many cls).Accepts before s after ↔ ∀ c ∈ s, cls.contains c = true := by
  simp [many, Accepts]

theorem isPlain_literal (text : List Char) : (literal text).IsPlain = true := by
  refine isPlain_sequence fun e mem => ?_
  obtain ⟨c, -, rfl⟩ := List.mem_map.1 mem
  rfl

/-! ## Choices and options -/

theorem accepts_choice {before s after : List Char} : ∀ {es : List Expr}, es ≠ [] →
    ((choice es).Accepts before s after ↔ ∃ e ∈ es, e.Accepts before s after)
  | [], h => absurd rfl h
  | [e], _ => by simp [choice]
  | e :: f :: rest, _ => by
    have tail : (choice (f :: rest)).Accepts before s after ↔ _ := accepts_choice (List.cons_ne_nil f rest)
    have either : (choice (e :: f :: rest)).Accepts before s after ↔
      e.Accepts before s after ∨ (choice (f :: rest)).Accepts before s after := .rfl
    rw [either, tail]
    simp

theorem isPlain_choice {es : List Expr} (plain : ∀ e ∈ es, e.IsPlain = true) : (choice es).IsPlain = true := by
  induction es with
  | nil => rfl
  | cons e es ih =>
    obtain ⟨first, rest⟩ := List.forall_mem_cons.1 plain
    cases es with
    | nil => exact first
    | cons f es => exact Bool.and_eq_true_iff.2 ⟨first, ih rest⟩

theorem accepts_optional {e : Expr} {before s after : List Char} :
    (optional e).Accepts before s after ↔ s = [] ∨ e.Accepts before s after := by
  constructor
  · rintro ⟨more, fits, all⟩
    have few : more = 0 ∨ more = 1 := by
      simp only [Option.map_some, Option.all_some, decide_eq_true_eq] at fits
      omega
    rcases few with rfl | rfl
    · exact .inl all
    · obtain ⟨s₁, _, rfl, accepts, rfl⟩ := all
      rw [List.append_nil]
      exact .inr accepts
  · rintro (rfl | accepts)
    · exact ⟨0, rfl, rfl⟩
    · exact ⟨1, rfl, s, [], (List.append_nil s).symm, accepts, rfl⟩

theorem accepts_maybe {cls : CharClass} {before s after : List Char} (accepts : (maybe cls).Accepts before s after) :
    ∀ c ∈ s, cls.contains c = true :=
  accepts.2.2

end Expr

end BundleAudit.Regex
