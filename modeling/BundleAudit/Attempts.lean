/-!
# Attempts in order

Attempts, each of which may fail, are made in order up to the first failure.
-/

namespace BundleAudit

variable {α β ε ε' : Type} {f : α → Except ε β}

theorem eq_ok_of_bind {x : Except ε α} {b : β} (h : (x >>= f) = .ok b) :
    ∃ a, x = .ok a ∧ f a = .ok b := by
  cases x with
  | error e => cases h
  | ok a => exact ⟨a, rfl, h⟩

theorem eq_error_of_bind {x : Except ε α} {e : ε} (h : (x >>= f) = .error e) :
    x = .error e ∨ ∃ a, x = .ok a ∧ f a = .error e := by
  cases x with
  | error e' =>
    obtain rfl : e' = e := Except.error.inj h
    exact .inl rfl
  | ok a => exact .inr ⟨a, rfl, h⟩

theorem eq_error_of_mapError {x : Except ε α} {g : ε → ε'} {e : ε'} (h : x.mapError g = .error e) :
    ∃ e', x = .error e' ∧ e = g e' := by
  cases x with
  | error e' => exact ⟨e', rfl, (Except.error.inj h).symm⟩
  | ok a => cases h

theorem bind_isOk {x : Except ε α} (first : ∃ a, x = .ok a) (next : ∀ a, ∃ b, f a = .ok b) :
    ∃ b, (x >>= f) = .ok b := by
  obtain ⟨a, rfl⟩ := first
  exact next a

/-- Either all attempts succeed, or the whole ends with the failure of one of them. -/
theorem mapM_isOk_or_error : ∀ xs : List α,
    (∃ ys, xs.mapM f = .ok ys ∧ ∀ x ∈ xs, ∃ y, f x = .ok y) ∨
      ∃ x ∈ xs, ∃ e, f x = .error e ∧ xs.mapM f = .error e
  | [] => .inl ⟨[], rfl, by simp⟩
  | x :: xs => by
    cases head : f x with
    | error e => exact .inr ⟨x, by simp, e, head, by simp [List.mapM_cons, head, bind, Except.bind]⟩
    | ok y =>
      rcases mapM_isOk_or_error xs with ⟨ys, tail, all⟩ | ⟨x', mem, e, at', tail⟩
      · refine .inl ⟨y :: ys, by simp [List.mapM_cons, head, tail, bind, Except.bind, pure, Except.pure], ?_⟩
        simpa [head] using all
      · refine .inr ⟨x', List.mem_cons_of_mem _ mem, e, at', ?_⟩
        simp [List.mapM_cons, head, tail, bind, Except.bind]

theorem mapM_isOk {xs : List α} (each : ∀ x ∈ xs, ∃ y, f x = .ok y) : ∃ ys, xs.mapM f = .ok ys := by
  rcases mapM_isOk_or_error (f := f) xs with ⟨ys, eq, -⟩ | ⟨x, mem, e, failed, -⟩
  · exact ⟨ys, eq⟩
  · obtain ⟨y, ok⟩ := each x mem
    simp [ok] at failed

theorem mapM_error_of_first {before after : List α} {x : α} {e : ε} (succeed : ∀ y ∈ before, ∃ z, f y = .ok z)
    (fails : f x = .error e) : (before ++ x :: after).mapM f = .error e := by
  obtain ⟨zs, eq⟩ := mapM_isOk succeed
  rw [List.mapM_append, eq, List.mapM_cons, fails]
  rfl

theorem exists_first_of_mapM_error {e : ε} : ∀ {xs : List α}, xs.mapM f = .error e →
    ∃ before x after, xs = before ++ x :: after ∧ (∀ y ∈ before, ∃ z, f y = .ok z) ∧ f x = .error e
  | [], h => nomatch h
  | x :: xs, h => by
    rw [List.mapM_cons] at h
    rcases eq_error_of_bind h with fails | ⟨y, head, rest⟩
    · exact ⟨[], x, xs, rfl, by simp, fails⟩
    · have tail : xs.mapM f = .error e := (eq_error_of_bind rest).resolve_right fun ⟨_, _, made⟩ => nomatch made
      obtain ⟨before, z, after, rfl, succeed, fails⟩ := exists_first_of_mapM_error tail
      exact ⟨x :: before, z, after, rfl, by simpa [head] using succeed, fails⟩

/-- What successful attempts gave. -/
theorem mem_of_mapM : ∀ {xs : List α} {ys : List β}, xs.mapM f = .ok ys → ∀ y, y ∈ ys ↔ ∃ x ∈ xs, f x = .ok y
  | [], ys, h, y => by
    obtain rfl : [] = ys := Except.ok.inj h
    simp
  | x :: xs, ys, h, y => by
    rw [List.mapM_cons] at h
    obtain ⟨z, head, rest⟩ := eq_ok_of_bind h
    obtain ⟨zs, tail, made⟩ := eq_ok_of_bind rest
    obtain rfl : z :: zs = ys := Except.ok.inj made
    simp [head, mem_of_mapM tail y, eq_comm]

/-! ## Attempts that build on each other -/

section
variable {step : β → α → Except ε β}

theorem isOk_of_foldlM : ∀ {xs : List α} {b b' : β}, xs.foldlM step b = .ok b' →
    ∀ x ∈ xs, ∃ c c', step c x = .ok c'
  | [], _, _, _, _, mem => absurd mem List.not_mem_nil
  | x :: xs, b, b', h, y, mem => by
    rw [List.foldlM_cons] at h
    obtain ⟨c, first, rest⟩ := eq_ok_of_bind h
    rcases List.mem_cons.1 mem with rfl | mem
    · exact ⟨b, c, first⟩
    · exact isOk_of_foldlM rest y mem

theorem exists_of_foldlM_error : ∀ {xs : List α} {b : β} {e : ε}, xs.foldlM step b = .error e →
    ∃ x ∈ xs, ∃ c, step c x = .error e
  | [], _, _, h => nomatch h
  | x :: xs, b, e, h => by
    rw [List.foldlM_cons] at h
    rcases eq_error_of_bind h with failed | ⟨c, -, rest⟩
    · exact ⟨x, List.mem_cons_self, b, failed⟩
    · obtain ⟨y, mem, c', failed⟩ := exists_of_foldlM_error rest
      exact ⟨y, List.mem_cons_of_mem _ mem, c', failed⟩

end

end BundleAudit
