import BundleAudit.FileSystem.Path

/-!
# Paths and their texts

The path that a text stands for is plain: it holds no empty name, no single point and no slash. A plain path
is known by its text (`Path.ofString_toString`), so that the text of an entry of a directory leads back to the
entry.
-/

namespace BundleAudit.FileSystem

namespace Path

/-! ## The names between slashes -/

theorem splitSlashes_eq_splitOn : ∀ s : List Char, splitSlashes s = s.splitOn '/'
  | [] => rfl
  | c :: rest => by
    rw [splitSlashes, splitSlashes_eq_splitOn rest, List.splitOn, List.splitOn,
      List.splitOnP_cons_eq_if_modifyHead]
    split
    · rfl
    · cases split : rest.splitOnP (· == '/') with
      | nil => exact absurd split (List.splitOnP_ne_nil _ _)
      | cons first names => rfl

theorem slash_notMem_of_mem_splitSlashes : ∀ {s name : List Char}, name ∈ splitSlashes s → '/' ∉ name
  | [], name, mem => by
    obtain rfl := List.mem_singleton.1 mem
    exact List.not_mem_nil
  | c :: rest, name, mem => by
    have later : ∀ other ∈ splitSlashes rest, '/' ∉ other := fun other =>
      slash_notMem_of_mem_splitSlashes
    rw [splitSlashes] at mem
    split at mem
    · rcases List.mem_cons.1 mem with rfl | mem
      · exact List.not_mem_nil
      · exact later name mem
    · next other =>
      have start : '/' ≠ c := fun same => other (by simp [← same])
      cases split : splitSlashes rest with
      | nil =>
        rw [split] at mem
        obtain rfl := List.mem_singleton.1 mem
        simpa using start
      | cons first names =>
        rw [split] at mem
        rcases List.mem_cons.1 mem with rfl | mem
        · simp [start, later first (by simp [split])]
        · exact later name (by simp [split, mem])

/-! ## Plain paths -/

/-- A name that stands between slashes and counts. -/
structure IsPart (name : String) : Prop where
  nonempty : name ≠ ""
  no_point : name ≠ "."
  no_slash : '/' ∉ name.toList

structure IsPlain (p : Path) : Prop where
  root : p.root ∈ ["", "/", "//"]
  parts : ∀ name ∈ p.parts, IsPart name

theorem rootOf_mem (s : List Char) : rootOf s ∈ ["", "/", "//"] := by
  unfold rootOf
  split <;> simp

theorem isPlain_ofString (s : String) : (ofString s).IsPlain := by
  refine ⟨rootOf_mem _, fun name mem => ?_⟩
  obtain ⟨chars, kept, rfl⟩ := List.mem_map.1 mem
  obtain ⟨split, counts⟩ := List.mem_filter.1 kept
  obtain ⟨nonempty, noPoint⟩ : chars ≠ [] ∧ chars ≠ ['.'] := by simpa using counts
  refine ⟨fun empty => nonempty ?_, fun point => noPoint ?_, ?_⟩
  · simpa using congrArg String.toList empty
  · simpa using congrArg String.toList point
  · simpa using slash_notMem_of_mem_splitSlashes split

theorem IsPlain.child {p : Path} (plain : p.IsPlain) {name : String} (part : IsPart name) :
    (p.child name).IsPlain := by
  refine ⟨plain.root, fun other mem => ?_⟩
  rcases List.mem_append.1 mem with mem | mem
  · exact plain.parts other mem
  · exact List.mem_singleton.1 mem ▸ part

/-! ## The text of a plain path -/

section
variable {parts : List String} (plain : ∀ name ∈ parts, IsPart name)
include plain

theorem filter_splitSlashes_intercalate :
    (splitSlashes ("/".intercalate parts).toList).filter (fun name => name != [] && name != ['.']) =
      parts.map String.toList := by
  cases parts with
  | nil => rfl
  | cons first rest =>
    have noSlash : ∀ name ∈ (first :: rest).map String.toList, '/' ∉ name := by
      intro name mem
      obtain ⟨part, mem', rfl⟩ := List.mem_map.1 mem
      exact (plain part mem').no_slash
    rw [splitSlashes_eq_splitOn, String.toList_intercalate]
    show (List.splitOn '/' (['/'].intercalate _)).filter _ = _
    rw [List.splitOn_intercalate '/' noSlash (by simp), List.filter_eq_self]
    -- No name of a plain path is dropped.
    intro name mem
    obtain ⟨part, mem', rfl⟩ := List.mem_map.1 mem
    have nonempty := (plain part mem').nonempty
    have noPoint : part.toList ≠ ['.'] := fun point =>
      (plain part mem').no_point (String.toList_inj.1 point)
    simp [nonempty, noPoint]

theorem head?_intercalate_ne_slash : ("/".intercalate parts).toList.head? ≠ some '/' := by
  rw [String.toList_intercalate]
  cases parts with
  | nil => simp
  | cons first rest =>
    have part := plain first List.mem_cons_self
    obtain ⟨c, chars, shape⟩ := List.exists_cons_of_ne_nil (fun empty => part.nonempty
      (String.toList_eq_nil_iff.1 empty))
    have other : c ≠ '/' := fun same => part.no_slash (by simp [shape, same])
    cases rest <;> simp [shape, List.intercalate, other]

end

theorem rootOf_append {root : String} (mem : root ∈ ["", "/", "//"]) {s : List Char}
    (other : s.head? ≠ some '/') : rootOf (root.toList ++ s) = root := by
  have cases : root = "" ∨ root = "/" ∨ root = "//" := by simpa using mem
  rcases cases with rfl | rfl | rfl
  all_goals
    cases s with
    | nil => rfl
    | cons c rest =>
      have ne : c ≠ '/' := fun same => other (by simp [same])
      simp [rootOf, ne]

theorem filter_splitSlashes_append {root : String} (mem : root ∈ ["", "/", "//"]) (s : List Char) :
    (splitSlashes (root.toList ++ s)).filter (fun name => name != [] && name != ['.']) =
      (splitSlashes s).filter fun name => name != [] && name != ['.'] := by
  have cases : root = "" ∨ root = "/" ∨ root = "//" := by simpa using mem
  rcases cases with rfl | rfl | rfl <;> rfl

theorem mem_intercalate {c : Char} (other : c ≠ '/') : ∀ {parts : List String},
    c ∈ ("/".intercalate parts).toList ↔ ∃ part ∈ parts, c ∈ part.toList
  | [] => by simp
  | [part] => by simp
  | part :: next :: parts => by
    have rest : c ∈ ("/".intercalate (next :: parts)).toList ↔
        ∃ part ∈ next :: parts, c ∈ part.toList := mem_intercalate other
    rw [String.toList_intercalate] at rest ⊢
    have shape : "/".toList.intercalate ((part :: next :: parts).map String.toList) =
        part.toList ++ '/' :: "/".toList.intercalate ((next :: parts).map String.toList) := by
      simp [List.intercalate]
    rw [shape, List.mem_append, List.mem_cons, rest]
    simp [other]

/-- The characters of the text of a path are those of its root and its names. -/
theorem mem_toString {p : Path} {c : Char} (slash : c ≠ '/') (point : c ≠ '.') :
    c ∈ p.toString.toList ↔ c ∈ p.root.toList ∨ ∃ part ∈ p.parts, c ∈ part.toList := by
  rw [← mem_intercalate slash, ← List.mem_append, ← String.toList_append]
  unfold toString
  by_cases empty : p.root ++ "/".intercalate p.parts = ""
  · simp [empty, point]
  · simp [empty]

/-- A plain path is the one that its text stands for. -/
theorem ofString_toString {p : Path} (plain : p.IsPlain) : ofString p.toString = p := by
  obtain ⟨root, parts⟩ := p
  have other := head?_intercalate_ne_slash plain.parts
  have read := rootOf_append plain.root other
  have split := (filter_splitSlashes_append plain.root _).trans (filter_splitSlashes_intercalate plain.parts)
  have text : (Path.mk root parts).toString = root ++ "/".intercalate parts ∨
      root ++ "/".intercalate parts = "" ∧ (Path.mk root parts).toString = "." := by
    unfold toString
    by_cases empty : root ++ "/".intercalate parts = ""
    · exact .inr ⟨empty, by simp [empty]⟩
    · exact .inl (by simp [empty])
  rw [← String.toList_append] at read split
  rcases text with text | ⟨empty, text⟩
  · rw [text, ofString, read, split, List.map_map]
    simp [Function.comp_def]
  · -- The point stands for the path without root and names.
    rw [empty] at read split
    obtain rfl : parts = [] := by simpa [splitSlashes] using split.symm
    obtain rfl : "" = root := read
    rw [text]
    rfl

/-- A single name is a path. -/
theorem ofString_of_isPart {name : String} (part : IsPart name) :
    ofString name = ⟨"", [name]⟩ ∧ (Path.mk "" [name]).toString = name := by
  have text : (Path.mk "" [name]).toString = name := by
    have nonempty := part.nonempty
    simp [toString, nonempty]
  have plain : (Path.mk "" [name]).IsPlain := ⟨List.mem_cons_self, by simpa using part⟩
  have read := ofString_toString plain
  rw [text] at read
  exact ⟨read, text⟩

end Path

/-- A name that an entry of a directory can have. -/
structure IsName (name : String) : Prop extends Path.IsPart name where
  no_step_back : name ≠ ".."
  no_null : '\x00' ∉ name.toList

instance (name : String) : Decidable (IsName name) :=
  decidable_of_iff
    ((name ≠ "" ∧ name ≠ "." ∧ '/' ∉ name.toList) ∧ name ≠ ".." ∧ '\x00' ∉ name.toList)
    ⟨fun h => ⟨⟨h.1.1, h.1.2.1, h.1.2.2⟩, h.2.1, h.2.2⟩,
      fun h => ⟨⟨h.nonempty, h.no_point, h.no_slash⟩, h.no_step_back, h.no_null⟩⟩

namespace Path

variable {name : String}

theorem ofString_toString_child (directory : String) (named : IsName name) :
    ofString ((ofString directory).child name).toString = (ofString directory).child name :=
  ofString_toString ((isPlain_ofString directory).child named.toIsPart)

theorem baseName_child (directory : String) (named : IsName name) :
    baseName ((ofString directory).child name).toString = name := by
  rw [baseName, ofString_toString_child directory named]
  simp [Path.name, child]

end Path

end BundleAudit.FileSystem
