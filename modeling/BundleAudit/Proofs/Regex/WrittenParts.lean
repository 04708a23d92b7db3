import BundleAudit.Proofs.Regex.Written

/-!
# Parts of written forms

Sequences inside a sequence, and classes with their members in another order, match the same as the expressions that
the reader makes of their written forms. Up to this, the written form of a sequence of expressions is that of its
members in a row (`ReadsAs.join`), and a whole written form can be read if its parts can (`ReadsAs.readTo`).
-/

namespace BundleAudit.Regex

variable {ignoreCase : Bool}

namespace Expr

theorem match_one_congr {cls cls' : CharClass} (same : ∀ c, cls.contains c = cls'.contains c) :
    (one cls).match = (one cls').match := by
  funext k p
  simp only [Expr.match, same]

theorem match_alt_congr {e f e' f' : Expr} (first : e.match = e'.match) (second : f.match = f'.match) :
    (alt e f).match = (alt e' f').match := by
  funext k p
  simp only [Expr.match, first, second]

theorem match_choice_congr : ∀ {es fs : List Expr}, List.Forall₂ (fun e f => e.match = f.match) es fs →
    (choice es).match = (choice fs).match
  | _, _, .nil => rfl
  | [_], [_], .cons same .nil => same
  | _ :: _ :: _, _ :: _ :: _, .cons same others => match_alt_congr same (match_choice_congr others)

end Expr

/-- A part of a written form is read as expressions that match the same as the given one. -/
def ReadsAs (ignoreCase : Bool) (part : String) (e : Expr) : Prop :=
  ∃ es, Reads ignoreCase part.toList es ∧ (Expr.sequence es).match = e.match

/-- A text in its escaped form. -/
def escaped (text : List Char) : String := String.ofList (escape text)

/-- The written form of a group. -/
def grouped (alternatives : List String) : String := "(?:" ++ "|".intercalate alternatives ++ ")"

namespace ReadsAs

theorem of_reads {part : String} {e : Expr} (h : Reads ignoreCase part.toList [e]) : ReadsAs ignoreCase part e :=
  ⟨[e], h, rfl⟩

/-- A fixed text with its escaped form. -/
theorem fixed (text part : String) (form : part.toList = escape text.toList) :
    ReadsAs ignoreCase part (.literalFolded (casing ignoreCase) text.toList) := by
  refine ⟨_, ?_, rfl⟩
  rw [form]
  exact Reads.escaped text.toList

theorem escaped (text : List Char) : ReadsAs ignoreCase (escaped text) (.literalFolded (casing ignoreCase) text) := by
  refine ⟨_, ?_, rfl⟩
  rw [Regex.escaped, String.toList_ofList]
  exact Reads.escaped text

theorem join {parts : List String} {es : List Expr} (each : List.Forall₂ (ReadsAs ignoreCase) parts es) :
    ReadsAs ignoreCase (String.join parts) (.sequence es) := by
  induction each with
  | nil => exact ⟨[], .nil, rfl⟩
  | cons here others rest =>
    obtain ⟨fs, reads, same⟩ := here
    obtain ⟨gs, reads', same'⟩ := rest
    refine ⟨fs ++ gs, ?_, ?_⟩
    · rw [String.join_cons, String.toList_append]
      exact reads.append reads'
    · funext k p
      rw [Expr.match_sequence_append, same, same', Expr.match_sequence_cons]

theorem exists_reads {parts : List String} {es : List Expr} (each : List.Forall₂ (ReadsAs ignoreCase) parts es) :
    ∃ ess, List.Forall₂ (Reads ignoreCase) (parts.map String.toList) ess ∧
      List.Forall₂ (fun e f => e.match = f.match) (ess.map Expr.sequence) es := by
  induction each with
  | nil => exact ⟨[], .nil, .nil⟩
  | cons here others rest =>
    obtain ⟨fs, reads, same⟩ := here
    obtain ⟨ess, reads', same'⟩ := rest
    exact ⟨fs :: ess, .cons reads reads', .cons same same'⟩

theorem group {alternatives : List String} {es : List Expr}
    (each : List.Forall₂ (ReadsAs ignoreCase) alternatives es) (nonempty : alternatives ≠ []) :
    ReadsAs ignoreCase (grouped alternatives) (.choice es) := by
  obtain ⟨ess, reads, same⟩ := exists_reads each
  have form : (grouped alternatives).toList =
      "(?:".toList ++ (separated (alternatives.map String.toList) ++ [')']) := by
    rw [grouped, String.toList_append, String.toList_append, String.toList_intercalate, List.append_assoc]
    rfl
  refine ⟨[.choice (ess.map .sequence)], ?_, Expr.match_choice_congr same⟩
  rw [form]
  exact (Reads.group reads (mt List.map_eq_nil_iff.1 nonempty)).reads

end ReadsAs

/-- A written form is read as an expression that matches the same as the given one. -/
def ReadTo (ignoreCase : Bool) (source : String) (e : Expr) : Prop :=
  ∃ r, Pattern.read source ignoreCase = .ok r ∧ r.expr.match = e.match

theorem ReadsAs.readTo {source : String} {e : Expr} (h : ReadsAs ignoreCase source e) :
    ReadTo ignoreCase source e := by
  obtain ⟨es, reads, same⟩ := h
  refine ⟨⟨source, .sequence es⟩, ?_, same⟩
  rw [Pattern.read, reads.readExpr_eq]
  rfl

theorem ReadsAs.readTo_ignoringCase {source : String} {e : Expr} (h : ReadsAs true source e) :
    ReadTo false ("(?i)" ++ source) e := by
  obtain ⟨es, reads, same⟩ := h
  refine ⟨⟨"(?i)" ++ source, .sequence es⟩, ?_, same⟩
  rw [Pattern.read, String.toList_append, reads.readExpr_ignoringCase]
  rfl

end BundleAudit.Regex
