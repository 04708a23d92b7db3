import BundleAudit.Proofs.Regex.WrittenParts
import BundleAudit.Registry

/-!
# Rules written around names

The names of a profile stand in the written forms of the expressions of four rules, in their escaped form. Each of
these expressions is what its written form is read as, whatever the names are: the forms in which an export name is
published (`GlobalExport.readTo_forms`), the detectors for a module and the phrases that excuse it
(`DependencyExclusion.readTo_detectors`, `DependencyExclusion.readTo_safe`), the identifiers that excuse an evaluation
and the build targets with their token.

A written form is given by its parts, one for each member of the sequence that the expression is.
-/

namespace BundleAudit

open BundleAudit.Regex

/-! ## Parts of the written forms -/

namespace Regex

theorem readsAtom_blank : ReadsAtom false "\\s".toList (.one .blank) :=
  readsAtom_one 0 (by decide) (fun _ => rfl) fun _ _ _ _ _ => rfl

theorem readsAtom_inLine {ignoreCase : Bool} : ReadsAtom ignoreCase ".".toList (.one .inLine) :=
  readsAtom_one 0 (by decide) (fun _ => rfl) fun _ _ _ _ _ => rfl

theorem readsAtom_quote : ReadsAtom false "[\\\"']".toList (.one (.oneOf ['"', '\''])) :=
  readsAtom_one 3 (by decide) (fun _ => rfl) fun _ _ _ _ _ => rfl

theorem readsAtom_identifierStart : ReadsAtom false "[a-zA-Z_$]".toList (.one GlobalExport.identifierStart) :=
  readsAtom_one 9 (by decide) (fun _ => rfl) fun _ _ _ _ _ => rfl

theorem readsAtom_identifierPart : ReadsAtom false "[\\w$]".toList (.one GlobalExport.identifierPart) :=
  readsAtom_one 3 (by decide) (fun _ => rfl) fun _ _ _ _ _ => rfl

theorem readsAtom_pointOrBracket : ReadsAtom false "[.\\[]".toList (.one (.oneOf ['.', '['])) :=
  readsAtom_one 3 (by decide) (fun _ => rfl) fun _ _ _ _ _ => rfl

theorem readsAtom_escaped {ignoreCase : Bool} {c : Char} (escapable : IsEscapable c) :
    ReadsAtom ignoreCase ['\\', c] (.one (.code (casing ignoreCase) c.toNat)) :=
  (takenAs_escaped escapable).atom rfl

theorem readsAs_edge : ReadsAs false "\\b" .edge := .of_reads .edge

theorem readsAs_quote : ReadsAs false "[\\\"']" (.one (.oneOf ['"', '\''])) := .of_reads readsAtom_quote.reads

theorem readsAs_blanks : ReadsAs false "\\s*" (.many .blank) := .of_reads readsAtom_blank.many

end Regex

namespace GlobalExport

/-! ## Export names -/

/-- The parts of the written form of an access to a name on an object. -/
def writtenAccess (object name : String) : List String :=
  ["\\b", object, "(?:\\.|\\[[\\\"'])", name, "(?:[\\\"']\\])?"]

def writtenWrapperAssignment (name : String) : List String :=
  [grouped ["globalThis", "window", "self", "root", "this", "[a-zA-Z_$]"], "(?:\\.[a-zA-Z_$][\\w$]*)*", "[.\\[]",
    "[\\\"']?", name, "[\\\"']?", "\\]?", "\\s*", "="]

def writtenAliasAssignment (name : String) : List String :=
  ["\\b", "[a-zA-Z_$]", "[\\w$]*", "(?:\\.|\\[[\\\"'])", name, "(?:[\\\"']\\])?", "\\s*", "=", "\\s*", "[a-zA-Z_$]"]

/-- The written forms of what publishes a name. -/
def writtenForms (name : List Char) (roots : List String) : List String :=
  ((if roots.isEmpty then [] else [writtenAccess (grouped (roots.map fun r => escaped r.toList)) (escaped name)]) ++
    [writtenAccess "exports" (escaped name), writtenWrapperAssignment (escaped name),
      writtenAliasAssignment (escaped name)]).map String.join

theorem readsAs_accessOpening : ReadsAs false "(?:\\.|\\[[\\\"'])" accessOpening := by
  have point : Reads false "\\.".toList [.literal ['.']] := (takenAs_escaped (.inr (by decide))).reads
  have bracket : Reads false "\\[[\\\"']".toList [.literal ['['], .one (.oneOf ['"', '\''])] :=
    (takenAs_escaped (.inr (by decide))).reads.append readsAtom_quote.reads
  exact ⟨_, (Reads.group (.cons point (.cons bracket .nil)) (List.cons_ne_nil _ _)).reads, rfl⟩

theorem readsAs_accessClosing : ReadsAs false "(?:[\\\"']\\])?" accessClosing := by
  have inner : Reads false "[\\\"']\\]".toList [.one (.oneOf ['"', '\'']), .literal [']']] :=
    readsAtom_quote.reads.append (takenAs_escaped (.inr (by decide))).reads
  exact ⟨_, inner.repeatedGroup (List.mem_cons_self), rfl⟩

/-- The path of properties in front of an assignment. -/
theorem reads_path : Reads false "(?:\\.[a-zA-Z_$][\\w$]*)*".toList
    [.loop (.sequence [.literal ['.'], .one identifierStart, .many identifierPart]) 0 none .greedy] := by
  have property : Reads false "\\.[a-zA-Z_$][\\w$]*".toList
      [.literal ['.'], .one identifierStart, .many identifierPart] :=
    (takenAs_escaped (.inr (by decide))).reads.append
      (readsAtom_identifierStart.reads.append readsAtom_identifierPart.many)
  exact property.repeatedGroup (List.mem_cons_of_mem _ List.mem_cons_self)

theorem readTo_access {object : String} {e : Expr} (h : ReadsAs false object e) (name : List Char) :
    ReadTo false (String.join (writtenAccess object (escaped name)))
      (.sequence [.edge, e, accessOpening, .literal name, accessClosing]) :=
  (ReadsAs.join (.cons readsAs_edge <| .cons h <| .cons readsAs_accessOpening <| .cons (.escaped name) <|
    .cons readsAs_accessClosing .nil)).readTo

theorem readsAs_roots {roots : List String} (nonempty : roots ≠ []) :
    ReadsAs false (grouped (roots.map fun r => escaped r.toList)) (.choice (roots.map fun r => .literal r.toList)) := by
  refine ReadsAs.group ?_ (mt List.map_eq_nil_iff.1 nonempty)
  rw [List.forall₂_map_left_iff, List.forall₂_map_right_iff]
  exact List.forall₂_same.2 fun r _ => ReadsAs.escaped r.toList

theorem readsAs_start : ReadsAs false "[a-zA-Z_$]" (.one identifierStart) := .of_reads readsAtom_identifierStart.reads

section
variable (name : List Char)

theorem readTo_wrapperAssignment :
    ReadTo false (String.join (writtenWrapperAssignment (escaped name))) (wrapperAssignment name) := by
  have root : ReadsAs false (grouped ["globalThis", "window", "self", "root", "this", "[a-zA-Z_$]"]) wrapperRoot :=
    .group (.cons (.fixed "globalThis" _ (by decide)) <| .cons (.fixed "window" _ (by decide)) <|
      .cons (.fixed "self" _ (by decide)) <| .cons (.fixed "root" _ (by decide)) <|
      .cons (.fixed "this" _ (by decide)) <| .cons readsAs_start .nil) (List.cons_ne_nil _ _)
  have quote : ReadsAs false "[\\\"']?" (.maybe (.oneOf ['"', '\''])) := .of_reads readsAtom_quote.maybe
  have bracket : ReadsAs false "\\]?" (.maybe (.char ']')) :=
    .of_reads (readsAtom_escaped (.inr (by decide))).maybe
  exact (ReadsAs.join (.cons root <| .cons (.of_reads reads_path) <|
    .cons (.of_reads readsAtom_pointOrBracket.reads) <| .cons quote <| .cons (.escaped name) <| .cons quote <|
    .cons bracket <| .cons readsAs_blanks <| .cons (.fixed "=" _ (by decide)) .nil)).readTo

theorem readTo_aliasAssignment :
    ReadTo false (String.join (writtenAliasAssignment (escaped name))) (aliasAssignment name) := by
  have identifier : ReadsAs false "[\\w$]*" (.many identifierPart) := .of_reads readsAtom_identifierPart.many
  exact (ReadsAs.join (.cons readsAs_edge <| .cons readsAs_start <| .cons identifier <|
    .cons readsAs_accessOpening <| .cons (.escaped name) <| .cons readsAs_accessClosing <| .cons readsAs_blanks <|
    .cons (.fixed "=" _ (by decide)) <| .cons readsAs_blanks <| .cons readsAs_start .nil)).readTo

end

/-- Each form is what its written form is read as, whatever the name and the roots are. -/
theorem readTo_forms (name : List Char) (roots : List String) :
    List.Forall₂ (ReadTo false) (writtenForms name roots) (forms name roots) := by
  have always := List.Forall₂.cons (readTo_access (.fixed "exports" "exports" (by decide)) name) <|
    .cons (readTo_wrapperAssignment name) <| .cons (readTo_aliasAssignment name) .nil
  unfold writtenForms forms
  cases roots with
  | nil => exact always
  | cons r roots => exact .cons (readTo_access (readsAs_roots (List.cons_ne_nil r roots)) name) always

end GlobalExport

namespace DependencyExclusion

/-! ## Excluded dependencies -/

/-- The methods of a validator. -/
def writtenMethods : String :=
  grouped ["compile", "validate", "addSchema", "addFormat", "removeSchema", "getSchema", "validateSchema"]

/-- The parts of the written forms of the detectors for a module and the class it is taken to define. -/
def writtenDetectors (dep cls : String) : List String :=
  [["\\b", "require", "\\s*", "\\(", "\\s*", "[\\\"']", dep, "[\\\"']", "\\s*", "\\)"],
   ["\\b", "import", "\\b", ".*", "\\b", "from", "\\s*", "[\\\"']", dep, "[\\\"']"],
   ["\\b", "import", "\\s*", "\\(", "\\s*", "[\\\"']", dep, "[\\\"']", "\\s*", "\\)"],
   ["\\b", "new", "\\s+", cls, "\\b", "\\s*", "\\("],
   ["\\b", dep, "\\.", writtenMethods, "\\b"],
   ["\\b", cls, "\\.", writtenMethods, "\\b"],
   ["\\b", grouped [dep, cls], "\\.default", "\\b"],
   ["\\b", "[\\\"']", dep, "[\\\"']", "\\b", "(?!\\s*[:\\-,])"]].map String.join

theorem readsAs_methods : ReadsAs false writtenMethods methods :=
  .group (.cons (.fixed "compile" _ (by decide)) <| .cons (.fixed "validate" _ (by decide)) <|
    .cons (.fixed "addSchema" _ (by decide)) <| .cons (.fixed "addFormat" _ (by decide)) <|
    .cons (.fixed "removeSchema" _ (by decide)) <| .cons (.fixed "getSchema" _ (by decide)) <|
    .cons (.fixed "validateSchema" _ (by decide)) .nil) (List.cons_ne_nil _ _)

theorem readsAs_noLabel :
    ReadsAs false "(?!\\s*[:\\-,])" (.notFollowedBy (.seq (.many .blank) (.one (.oneOf [':', '-', ','])))) := by
  have mark : ReadsAtom false "[:\\-,]".toList (.one (.oneOf [':', '-', ','])) :=
    readsAtom_one 4 (by decide) (fun _ => rfl) fun _ _ _ _ _ => rfl
  exact .of_reads (readsAtom_blank.many.append mark.reads).notFollowedBy

/-- Each detector is what its written form is read as, whatever the name of the module is. -/
theorem readTo_detectors (d : List Char) : List.Forall₂ (ReadTo false)
    (writtenDetectors (escaped d) (escaped (className d))) ((detectors d).map (·.expr)) := by
  have opening : ReadsAs false "\\(" (.literal "(".toList) := .fixed "(" _ (by decide)
  have closing : ReadsAs false "\\)" (.literal ")".toList) := .fixed ")" _ (by decide)
  have point : ReadsAs false "\\." (.literal ".".toList) := .fixed "." _ (by decide)
  have import_ : ReadsAs false "import" (.literal "import".toList) := .fixed "import" _ (by decide)
  have blanks1 : ReadsAs false "\\s+" (.many1 .blank) := .of_reads readsAtom_blank.many1
  have anything : ReadsAs false ".*" (.many .inLine) := .of_reads readsAtom_inLine.many
  have either : ReadsAs false (grouped [escaped d, escaped (className d)])
      (.alt (.literal d) (.literal (className d))) :=
    .group (.cons (.escaped d) <| .cons (.escaped (className d)) .nil) (List.cons_ne_nil _ _)
  refine .cons (ReadsAs.join ?require).readTo <| .cons (ReadsAs.join ?importFrom).readTo <|
    .cons (ReadsAs.join ?dynamicImport).readTo <| .cons (ReadsAs.join ?constructor).readTo <|
    .cons (ReadsAs.join ?instanceMethod).readTo <| .cons (ReadsAs.join ?staticMethod).readTo <|
    .cons (ReadsAs.join ?defaultExport).readTo <| .cons (ReadsAs.join ?stringLiteral).readTo .nil
  case require =>
    exact .cons readsAs_edge <| .cons (.fixed "require" _ (by decide)) <| .cons readsAs_blanks <| .cons opening <|
      .cons readsAs_blanks <| .cons readsAs_quote <| .cons (.escaped d) <| .cons readsAs_quote <|
      .cons readsAs_blanks <| .cons closing .nil
  case importFrom =>
    exact .cons readsAs_edge <| .cons import_ <| .cons readsAs_edge <| .cons anything <| .cons readsAs_edge <|
      .cons (.fixed "from" _ (by decide)) <| .cons readsAs_blanks <| .cons readsAs_quote <| .cons (.escaped d) <|
      .cons readsAs_quote .nil
  case dynamicImport =>
    exact .cons readsAs_edge <| .cons import_ <| .cons readsAs_blanks <| .cons opening <| .cons readsAs_blanks <|
      .cons readsAs_quote <| .cons (.escaped d) <| .cons readsAs_quote <| .cons readsAs_blanks <| .cons closing .nil
  case constructor =>
    exact .cons readsAs_edge <| .cons (.fixed "new" _ (by decide)) <| .cons blanks1 <|
      .cons (.escaped (className d)) <| .cons readsAs_edge <| .cons readsAs_blanks <| .cons opening .nil
  case instanceMethod =>
    exact .cons readsAs_edge <| .cons (.escaped d) <| .cons point <| .cons readsAs_methods <| .cons readsAs_edge .nil
  case staticMethod =>
    exact .cons readsAs_edge <| .cons (.escaped (className d)) <| .cons point <| .cons readsAs_methods <|
      .cons readsAs_edge .nil
  case defaultExport =>
    exact .cons readsAs_edge <| .cons either <| .cons (.fixed ".default" _ (by decide)) <| .cons readsAs_edge .nil
  case stringLiteral =>
    exact .cons readsAs_edge <| .cons readsAs_quote <| .cons (.escaped d) <| .cons readsAs_quote <|
      .cons readsAs_edge <| .cons readsAs_noLabel .nil

/-- The written form of a part of a phrase. -/
def Part.written (name : String) : Part → String
  | .words s => if s = "\"" then "\\\"" else s
  | .anything => ".*"
  | .separators => "[\\s_-]*"
  | .separator => "[-_\\s]"
  | .point => "\\.?"
  | .unquoted => "[^\\\"]*"
  | .dependency => name

/-- The written forms of the phrases around the name of a module. -/
def writtenPhrases (name : String) : List String := phrases.map fun parts => String.join (parts.map (·.written name))

/-- The words of the phrases are in lower case, up to a quote. -/
def Part.isFixed : Part → Bool
  | .words s => s == "\"" || s.toList.all Char.isLower
  | _ => true

theorem isFixed_of_mem_phrases : ∀ parts ∈ phrases, ∀ part ∈ parts, part.isFixed = true := by decide +kernel

theorem readsAs_words {s : String} (fixed : (Part.words s).isFixed = true) (name : String) :
    ReadsAs true ((Part.words s).written name) (.literalFolded .full s.toList) := by
  by_cases quote : s = "\""
  · subst quote
    show ReadsAs true "\\\"" _
    exact .of_reads (takenAs_escaped (.inl rfl)).reads
  · have lower : ∀ c ∈ s.toList, c.isLower = true := by simpa [Part.isFixed, quote] using fixed
    have noSpecial : specialChars.any Char.isLower = false := by decide
    have plain : ∀ c ∈ s.toList, IsPlainChar c := fun c mem special =>
      List.any_eq_false.1 noSpecial c special (lower c mem)
    have same : (Part.words s).written name = s := if_neg quote
    rw [same]
    exact .fixed s s (escape_of_isPlainChar plain).symm

/-- The separators of words, as the expressions have them. -/
def separatorClass : CharClass :=
  .ofItems .full false [.category .blank false false, .range 0x5f 0x5f, .range 0x2d 0x2d]

theorem readsAs_separators (name : String) (d : List Char) :
    ReadsAs true (Part.separators.written name) (Part.separators.expr d) := by
  have atom : ReadsAtom true "[\\s_-]".toList (.one separatorClass) :=
    readsAtom_one 4 (by decide) (fun _ => rfl) fun _ _ _ _ _ => rfl
  show ReadsAs true "[\\s_-]*" (.many separatorClass)
  exact .of_reads atom.many

/-- One separator is written with its characters in another order. -/
theorem readsAs_separator (name : String) (d : List Char) :
    ReadsAs true (Part.separator.written name) (Part.separator.expr d) := by
  let turned : CharClass := .ofItems .full false [.range 0x2d 0x2d, .range 0x5f 0x5f, .category .blank false false]
  have atom : ReadsAtom true "[-_\\s]".toList (.one turned) :=
    readsAtom_one 4 (by decide) (fun _ => rfl) fun _ _ _ _ _ => rfl
  have same (c : Char) : turned.contains c = separatorClass.contains c := by
    simp only [turned, separatorClass, CharClass.contains, CharClass.ofItems, List.flatMap_cons, List.flatMap_nil,
      List.any_append, List.any_nil, Bool.or_false]
    ac_rfl
  exact ⟨[.one turned], atom.reads, Expr.match_one_congr same⟩

theorem readsAs_unquoted (name : String) (d : List Char) :
    ReadsAs true (Part.unquoted.written name) (Part.unquoted.expr d) := by
  let unquoted : CharClass := .ofItems .full true [.range 0x22 0x22]
  have atom : ReadsAtom true "[^\\\"]".toList (.one unquoted) :=
    readsAtom_one 3 (by decide) (fun _ => rfl) fun _ _ _ _ _ => rfl
  show ReadsAs true "[^\\\"]*" (.many unquoted)
  exact .of_reads atom.many

theorem readsAs_anything (name : String) (d : List Char) :
    ReadsAs true (Part.anything.written name) (Part.anything.expr d) := by
  show ReadsAs true ".*" (.many .inLine)
  exact .of_reads readsAtom_inLine.many

theorem readsAs_point (name : String) (d : List Char) :
    ReadsAs true (Part.point.written name) (Part.point.expr d) := by
  have atom : ReadsAtom true "\\.".toList (.one (.code .full 0x2e)) := readsAtom_escaped (c := '.') (.inr (by decide))
  show ReadsAs true "\\.?" (.maybe (.code .full 0x2e))
  exact .of_reads atom.maybe

theorem Part.readsAs (d : List Char) : ∀ {part : Part}, part.isFixed = true →
    ReadsAs true (part.written (escaped d)) (part.expr d)
  | .words _, fixed => readsAs_words fixed _
  | .anything, _ => readsAs_anything _ d
  | .separators, _ => readsAs_separators _ d
  | .separator, _ => readsAs_separator _ d
  | .point, _ => readsAs_point _ d
  | .unquoted, _ => readsAs_unquoted _ d
  | .dependency, _ => .escaped d

/-- Each phrase is what its written form is read as, without regard to case. -/
theorem readTo_safe (d : List Char) : List.Forall₂ (ReadTo true) (writtenPhrases (escaped d)) (safe d) := by
  unfold writtenPhrases safe
  rw [List.forall₂_map_left_iff, List.forall₂_map_right_iff]
  refine List.forall₂_same.2 fun parts mem => (ReadsAs.join ?_).readTo
  rw [List.forall₂_map_left_iff, List.forall₂_map_right_iff]
  exact List.forall₂_same.2 fun part mem' => Part.readsAs d (isFixed_of_mem_phrases parts mem part mem')

end DependencyExclusion

namespace DynamicEval

/-! ## Identifiers that excuse an evaluation -/

/-- An identifier sets its mode itself. -/
theorem readTo_identifier (name : List Char) : ReadTo false ("(?i)" ++ escaped name) (.literalFolded .full name) :=
  (ReadsAs.escaped name).readTo_ignoringCase

end DynamicEval

namespace BuildTarget

/-! ## Build targets -/

/-- The parts of the written form of a target between quotes. -/
def writtenTarget (target : String) : List String := ["[\\\"']", target, "[\\\"']"]

theorem readTo_quotedTarget (target : List Char) :
    ReadTo false (String.join (writtenTarget (escaped target))) (quotedTarget target) :=
  (ReadsAs.join (.cons readsAs_quote <| .cons (.escaped target) <| .cons readsAs_quote .nil)).readTo

theorem readTo_token (token : List Char) : ReadTo false (escaped token) (.literal token) :=
  (ReadsAs.escaped token).readTo

end BuildTarget

end BundleAudit
