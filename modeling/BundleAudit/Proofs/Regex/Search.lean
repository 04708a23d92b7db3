import BundleAudit.Regex.Matching

/-!
# Searching with more expressions

An expression that matches wherever another one does occurs in every text in which the other one occurs.
More alternatives match in more places.
-/

namespace BundleAudit.Regex.Expr

variable {e e' : Expr}

theorem isSome_searchFrom?_mono (more : ∀ p, (e.match some p).isSome → (e'.match some p).isSome) :
    ∀ (text : List Char) (p : Place), (e.searchFrom? text p).isSome → (e'.searchFrom? text p).isSome := by
  have here (p : Place) (h : (e.matchHere? false p).isSome) : (e'.matchHere? false p).isSome := by
    simp only [matchHere?, Bool.false_and, Bool.false_eq_true, if_false, Option.isSome_map] at h ⊢
    exact more p h
  intro text
  induction text with
  | nil => exact here
  | cons c rest ih =>
    intro p found
    rw [searchFrom?] at found ⊢
    cases new : e'.matchHere? false p with
    | some m => rfl
    | none =>
      cases old : e.matchHere? false p with
      | some m => simpa [new] using here p (by simp [old])
      | none =>
        rw [old] at found
        exact ih _ found

theorem occursIn_mono (more : ∀ p, (e.match some p).isSome → (e'.match some p).isSome) {text : List Char}
    (occurs : e.occursIn text = true) : e'.occursIn text = true :=
  isSome_searchFrom?_mono more text _ occurs

/-- An alternative matches if one of its sides does. -/
theorem isSome_match_alt {k : Continuation} {p : Place} (e f : Expr) :
    ((alt e f).match k p).isSome ↔ (e.match k p).isSome ∨ (f.match k p).isSome := by
  rw [Expr.match]
  cases e.match k p <;> simp

/-- A choice matches if one of the expressions does. -/
theorem isSome_match_choice {k : Continuation} {p : Place} : ∀ {es : List Expr}, es ≠ [] →
    (((choice es).match k p).isSome ↔ ∃ e ∈ es, (e.match k p).isSome)
  | [], h => absurd rfl h
  | [e], _ => by simp [choice]
  | e :: f :: rest, _ => by
    have tail := isSome_match_choice (k := k) (p := p) (List.cons_ne_nil f rest)
    have either : choice (e :: f :: rest) = alt e (choice (f :: rest)) := rfl
    rw [either, isSome_match_alt, tail]
    simp

theorem isSome_match_choice_mono {es es' : List Expr} (nonempty : es ≠ []) (more : es ⊆ es')
    {k : Continuation} {p : Place} (h : ((choice es).match k p).isSome) :
    ((choice es').match k p).isSome := by
  obtain ⟨e, mem, found⟩ := (isSome_match_choice nonempty).1 h
  exact (isSome_match_choice (List.ne_nil_of_mem (more mem))).2 ⟨e, more mem, found⟩

end BundleAudit.Regex.Expr
