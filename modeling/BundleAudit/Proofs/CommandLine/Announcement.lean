import BundleAudit.Proofs.CommandLine.Runs
import BundleAudit.Proofs.Console.Escaping

/-!
# The announcement of a check

The directory and the name of the profile stand in the announcement as escaped texts, each in front of the
closing tag of its style. That tag is plain text if the escaped text ends with a backslash that makes it so,
and a style then stays open; but no closing tag is left without an opening one. Where both are made up of ordinary
characters they are announced as they are (`announce_eq`). What is said where there is nothing to check ends with
its escaped text.
-/

namespace BundleAudit.CommandLine.Program

open BundleAudit.Console

theorem isDigit_of_mem_repr {n : Nat} {c : Char} (mem : c ∈ n.repr.toList) : c.isDigit := by
  rw [Nat.toList_repr] at mem
  exact Nat.isDigit_of_mem_toDigits (by decide) (by decide) mem

theorem repr_plain (n : Nat) : ∀ c ∈ n.repr.toList, c ≠ '\\' ∧ c ≠ '[' := by
  intro c mem
  have digit := isDigit_of_mem_repr mem
  constructor <;> rintro rfl <;> exact absurd digit (by decide)

theorem tags_tag {c : Char} {name t : List Char} {tags : List (List Char)} (starts : startsTag c)
    (all : ∀ d ∈ name, d ≠ ']' ∧ d ≠ '[') (h : Tags t tags) :
    Tags ('[' :: (c :: name ++ ']' :: t)) ((c :: name) :: tags) :=
  .tag (tagAt?_of_tag starts all 0 t) h

/-- What is said of a check, marked up. -/
def announcement (dir name : List Char) (bundles rules : Nat) : List Char :=
  "[bold]bundleguard[/bold] checking [cyan]".toList ++ (escapeMarkup dir ++
    ("[/cyan] with profile [cyan]".toList ++ (escapeMarkup name ++ ("[/cyan] (".toList ++ (bundles.repr.toList ++
      (" bundles, ".toList ++ (rules.repr.toList ++ " rules)\n".toList)))))))

section
variable (renderer : Renderer)

theorem announce_of_named (s : Settings) {p : Profile} {name : String} (named : p.name = some name)
    (bundles rules : Nat) : announce renderer s p bundles rules =
      printMarkup renderer (announcement s.distDir.toList name.toList bundles rules) := by
  unfold announce announcement
  simp only [named, String.toList_append, toString, String.toList_ofList, List.append_assoc]

theorem announcement_isOk (dir name : List Char) (bundles rules : Nat) :
    ∃ text, renderer.render (announcement dir name bundles rules) = .ok text := by
  unfold announcement
  have counts : Tags (" (".toList ++ (bundles.repr.toList ++ (" bundles, ".toList ++
      (rules.repr.toList ++ (" rules)\n".toList ++ []))))) [] :=
    ((((Tags.nil.append (by simp)).append (repr_plain rules)).append (by simp)).append
      (repr_plain bundles)).append (by simp)
  obtain ⟨second, named⟩ :=
    @Tags.escapeMarkup '/' "cyan".toList _ (by decide) (by simp) _ counts name
  have withProfile := (@tags_tag 'c' "yan".toList _ _ (by decide) (by simp) named).append
    (by simp : ∀ c ∈ " with profile ".toList, c ≠ '\\' ∧ c ≠ '[')
  obtain ⟨first, placed⟩ :=
    @Tags.escapeMarkup '/' "cyan".toList _ (by decide) (by simp) _ withProfile dir
  have checking := (@tags_tag 'c' "yan".toList _ _ (by decide) (by simp) placed).append
    (by simp : ∀ c ∈ " checking ".toList, c ≠ '\\' ∧ c ≠ '[')
  have program := (@tags_tag '/' "bold".toList _ _ (by decide) (by simp) checking).append
    (by simp : ∀ c ∈ "bundleguard".toList, c ≠ '\\' ∧ c ≠ '[')
  have whole := @tags_tag 'b' "old".toList _ _ (by decide) (by simp) program
  -- Each closing tag that was made plain text leaves one style open.
  have nested : (nest [] (('b' :: "old".toList) :: ('/' :: "bold".toList) ::
      ('c' :: "yan".toList) :: ((if first then ['/' :: "cyan".toList] else []) ++
        ('c' :: "yan".toList) :: ((if second then ['/' :: "cyan".toList] else []) ++ [])))).isSome := by
    cases first <;> cases second <;> rfl
  refine renderer.render_isOk ?_ nested
  simpa using whole

/-- A check can be announced. -/
theorem runs_announce (s : Settings) {p : Profile} {name : String} (named : p.name = some name)
    (bundles rules : Nat) : Runs (announce renderer s p bundles rules) (.ok ()) "" := by
  obtain ⟨text, shown⟩ := announcement_isOk renderer s.distDir.toList name.toList bundles rules
  rw [announce_of_named renderer s named]
  exact (runs_orFail shown).then (runs_print _)

theorem repr_ordinary (n : Nat) : ∀ c ∈ n.repr.toList, c ≠ '[' ∧ IsOrdinary c := by
  intro c mem
  have digit := isDigit_of_mem_repr mem
  have other : ∀ d : Char, ¬ d.isDigit → c ≠ d := fun d noDigit same => noDigit (same ▸ digit)
  refine ⟨other _ (by decide), other _ (by decide), other _ (by decide), ?_⟩
  simp only [isControl, Bool.or_eq_true, beq_iff_eq, not_or]
  exact ⟨⟨⟨⟨other _ (by decide), other _ (by decide)⟩, other _ (by decide)⟩, other _ (by decide)⟩, other _ (by decide)⟩

/-- An escaped text between the tags of its style. -/
theorem shows_cyan {t text : List Char} {tags : List (List Char)} (h : Shows t tags text) {s : List Char}
    (ordinary : ∀ c ∈ s, IsOrdinary c) :
    Shows ("[cyan]".toList ++ (escapeMarkup s ++ ("[/cyan]".toList ++ t)))
      (('c' :: "yan".toList) :: ('/' :: "cyan".toList) :: tags) (s ++ text) := by
  have closing := @Shows.behindTag _ _ _ h '/' "cyan".toList (by decide) (by simp)
  exact @Shows.behindTag _ _ _ (closing.escapeMarkup ordinary) 'c' "yan".toList (by decide) (by simp)

theorem announcement_eq {dir name : List Char} (placed : ∀ c ∈ dir, IsOrdinary c)
    (named : ∀ c ∈ name, IsOrdinary c) (bundles rules : Nat) :
    renderer.render (announcement dir name bundles rules) =
      .ok ("bundleguard checking ".toList ++ (dir ++ (" with profile ".toList ++ (name ++ (" (".toList ++
        (bundles.repr.toList ++ (" bundles, ".toList ++ (rules.repr.toList ++ " rules)\n".toList)))))))) := by
  unfold announcement
  have plain : ∀ t ∈ [" (", " bundles, ", " rules)\n", " with profile ", " checking ", "bundleguard"],
      ∀ c ∈ t.toList, c ≠ '[' ∧ IsOrdinary c := by
    simp [IsOrdinary, isControl]
  have counts := ((((Shows.nil.append (plain " rules)\n" (by simp))).append (repr_ordinary rules)).append
    (plain " bundles, " (by simp))).append (repr_ordinary bundles)).append (plain " (" (by simp))
  have withProfile := (shows_cyan counts named).append (plain " with profile " (by simp))
  have checking := (shows_cyan withProfile placed).append (plain " checking " (by simp))
  have closing := @Shows.behindTag _ _ _ checking '/' "bold".toList (by decide) (by simp)
  have whole := @Shows.behindTag _ _ _ (closing.append (plain "bundleguard" (by simp))) 'b' "old".toList
    (by decide) (by simp)
  have shown := whole.render renderer rfl
  simpa using shown

/-- A directory and a name of ordinary characters are announced as they are. -/
theorem announce_eq (s : Settings) {p : Profile} {name : String} (named : p.name = some name)
    (dir : ∀ c ∈ s.distDir.toList, IsOrdinary c) (ordinary : ∀ c ∈ name.toList, IsOrdinary c)
    (bundles rules : Nat) : announce renderer s p bundles rules = print [.text
      s!"bundleguard checking {s.distDir} with profile {name} ({bundles} bundles, {rules} rules)\n".toList] := by
  rw [announce_of_named renderer s named, printMarkup, announcement_eq renderer dir ordinary, orFail, pure_bind]
  simp only [String.toList_append, toString, List.append_assoc]

/-- A check without bundles says so. -/
theorem runs_noBundles {α : Type} (e : DiscoveryError) :
    Runs (noBundles renderer e : Program α) (.error (.exit 1)) "" := by
  have fatal := @tags_tag '/' "red".toList _ _ (by decide) (by simp)
    ((Tags.escapeMarkup_end e.message.toList).append (by simp : ∀ c ∈ [' '], c ≠ '\\' ∧ c ≠ '['))
  have whole := @tags_tag 'r' "ed".toList _ _ (by decide) (by simp)
    (fatal.append (by simp : ∀ c ∈ "Fatal:".toList, c ≠ '\\' ∧ c ≠ '['))
  obtain ⟨text, shown⟩ := renderer.render_isOk whole rfl
  unfold noBundles printMarkup
  refine ((runs_orFail (x := renderer.render _) (a := text) ?_).then (runs_print _)).then (runs_stop _)
  simpa using shown

end

end BundleAudit.CommandLine.Program
