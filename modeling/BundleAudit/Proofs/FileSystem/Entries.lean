import BundleAudit.FileSystem.Tree
import BundleAudit.Attempts
import BundleAudit.Proofs.FileSystem.Path
import Mathlib.Data.List.Nodup

/-!
# Entries of directories

A directory lists the names of its entries, each once. A path that leads to the directory leads on to its
entries: only the length of a name or of the whole path can still be refused (`Tree.isFile_child`).
-/

namespace BundleAudit

theorem nodup_eraseDups {α : Type} [BEq α] [LawfulBEq α] : ∀ xs : List α, xs.eraseDups.Nodup
  | [] => by simp
  | x :: xs => by
    rw [List.eraseDups_cons, List.nodup_cons]
    refine ⟨?_, nodup_eraseDups _⟩
    simp [List.mem_eraseDups]
termination_by xs => xs.length
decreasing_by exact Nat.lt_succ_of_le (List.length_filter_le _ _)

namespace FileSystem.Tree

variable {t : Tree}

/-! ## What is listed -/

theorem mem_children {place : Place} {name : String} :
    name ∈ t.children place ↔ ∃ e ∈ t.entries, ∃ rest, e.1 = place ++ name :: rest := by
  unfold children
  rw [List.mem_eraseDups, List.mem_filterMap]
  refine exists_congr fun ⟨other, e⟩ => and_congr_right fun _ => ?_
  dsimp only
  constructor
  · intro found
    split at found
    · next below =>
      obtain ⟨rest, shape⟩ := List.isPrefixOf_iff_prefix.1 below
      rw [← shape, List.drop_left] at found
      obtain ⟨rest', rfl⟩ := List.head?_eq_some_iff.1 found
      exact ⟨rest', shape.symm⟩
    · cases found
  · rintro ⟨rest, shape⟩
    have below : place.isPrefixOf other = true := List.isPrefixOf_iff_prefix.2 ⟨_, shape.symm⟩
    rw [if_pos below, shape, List.drop_left]
    rfl

theorem nodup_children (place : Place) : (t.children place).Nodup := nodup_eraseDups _

/-- A file stands at the place. -/
def holdsFile (t : Tree) (place : Place) : Bool := (t.entry? place).any Entry.isFile

theorem holdsFile_iff {place : Place} :
    t.holdsFile place = true ↔ ∃ e, t.entry? place = some e ∧ e.isFile := by
  unfold holdsFile
  cases t.entry? place <;> simp

theorem mem_children_of_file {place : Place} {name : String} (file : t.holdsFile (place ++ [name]) = true) :
    name ∈ t.children place := by
  obtain ⟨e, entry, isFile⟩ := holdsFile_iff.1 file
  exact mem_children.2 ⟨_, mem_entries_of_isFile entry isFile, [], rfl⟩

/-- The names in the tree are such as a file can have. -/
def IsNamed (t : Tree) : Prop := ∀ e ∈ t.entries, ∀ name ∈ e.1, IsName name

instance : Decidable t.IsNamed :=
  inferInstanceAs (Decidable (∀ e ∈ t.entries, ∀ name ∈ e.1, IsName name))

theorem IsNamed.of_mem_children (named : t.IsNamed) {place : Place} {name : String}
    (mem : name ∈ t.children place) : IsName name := by
  obtain ⟨e, listed, rest, shape⟩ := mem_children.1 mem
  exact named e listed name (by simp [shape])

/-! ## Walking on -/

/-- A walk goes on from where its first names lead to. -/
theorem walkFrom_append {text text' : String} : ∀ {names : List String} {place there : Place},
    t.walkFrom text' place names = .ok there → ∀ rest,
      t.walkFrom text place (names ++ rest) = t.walkFrom text there rest
  | [], place, there, arrived, rest => by
    rw [walkFrom] at arrived
    split at arrived
    · rw [Except.ok.inj arrived]
      rfl
    · cases arrived
  | name :: names, place, there, arrived, rest => by
    -- Both walks look at the same place and the same name, so that only the place is carried on.
    rw [walkFrom] at arrived
    rw [List.cons_append, walkFrom]
    cases entry : t.entry? place with
    | none => simp [entry] at arrived
    | some e =>
      cases e with
      | file bytes => simp [entry] at arrived
      | locked => simp [entry] at arrived
      | directory =>
        simp only [entry] at arrived ⊢
        split at arrived
        · cases arrived
        · next short =>
          rw [if_neg short]
          split at arrived
          · next point =>
            rw [if_pos point]
            exact walkFrom_append arrived rest
          · next other =>
            rw [if_neg other]
            split at arrived
            · next back =>
              rw [if_pos back]
              exact walkFrom_append arrived rest
            · next forth =>
              rw [if_neg forth]
              exact walkFrom_append arrived rest

/-- A name that can be asked for in a directory: neither the name nor the whole path is too long. -/
structure Fits (directory : Path) (name : String) : Prop where
  path : (directory.child name).toString.utf8ByteSize < pathLimit
  name : name.utf8ByteSize ≤ nameLimit

instance (directory : Path) (name : String) : Decidable (Fits directory name) :=
  decidable_of_iff ((directory.child name).toString.utf8ByteSize < pathLimit ∧
    name.utf8ByteSize ≤ nameLimit) ⟨fun h => ⟨h.1, h.2⟩, fun h => ⟨h.path, h.name⟩⟩

section
variable {directory : Path} {place : Place} (there : t.directory? directory = .ok (some place))
include there

theorem locate_of_directory? : t.locate directory = .ok place ∧ t.entry? place = some .directory := by
  unfold directory? at there
  cases located : t.locate directory with
  | error e => cases e <;> simp [located] at there
  | ok found =>
    simp only [located] at there
    split at there
    · next entry =>
      obtain rfl : found = place := by simpa using there
      exact ⟨rfl, entry⟩
    · cases there

/-- The path of a directory holds no character that ends a text for the system. -/
theorem null_notMem_of_directory? : '\x00' ∉ directory.toString.toList := by
  have located := (locate_of_directory? there).1
  unfold locate at located
  dsimp only at located
  split at located
  · cases located
  · next clean => simpa using clean

variable {name : String} (named : IsName name)
include named

theorem null_notMem_child : '\x00' ∉ (directory.child name).toString.toList := by
  have clean := null_notMem_of_directory? there
  rw [Path.mem_toString (by decide) (by decide)] at clean ⊢
  simp only [Path.child, List.mem_append, List.mem_singleton]
  rintro (root | ⟨part, mem | rfl, inside⟩)
  · exact clean (.inl root)
  · exact clean (.inr ⟨part, mem, inside⟩)
  · exact named.no_null inside

theorem locate_child : t.locate (directory.child name) =
    if Fits directory name then
      match t.entry? (place ++ [name]) with
      | some _ => .ok (place ++ [name])
      | none => .error (.notFound (directory.child name).toString)
    else .error (.nameTooLong (directory.child name).toString) := by
  obtain ⟨located, entry⟩ := locate_of_directory? there
  have clean : ((directory.child name).toString.contains '\x00') = false := by
    simpa using null_notMem_child there named
  have arrived : t.walkFrom directory.toString
      (if directory.root.isEmpty then t.workingDirectory else []) directory.parts = .ok place := by
    unfold locate at located
    dsimp only at located
    split at located
    · cases located
    · split at located
      · cases located
      · exact located
  have onward : t.walkFrom (directory.child name).toString
      (if directory.root.isEmpty then t.workingDirectory else []) (directory.parts ++ [name]) =
        t.walkFrom (directory.child name).toString place [name] := walkFrom_append arrived [name]
  unfold locate
  dsimp only
  rw [clean, if_neg (by simp)]
  by_cases long : (directory.child name).toString.utf8ByteSize ≥ pathLimit
  · rw [if_pos long, if_neg fun fits => Nat.not_lt.2 long fits.path]
  · rw [if_neg long]
    refine onward.trans ?_
    rw [walkFrom, entry]
    dsimp only
    by_cases short : name.utf8ByteSize ≤ nameLimit
    · rw [if_neg (Nat.not_lt.2 short), if_neg (by simpa using named.no_point),
        if_neg (by simpa using named.no_step_back), if_pos ⟨Nat.not_le.1 long, short⟩]
      rfl
    · rw [if_pos (Nat.not_le.1 short), if_neg fun fits => short fits.name]

theorem isFile_child : t.isFile (directory.child name) =
    if Fits directory name then .ok (t.holdsFile (place ++ [name]))
    else .error (.nameTooLong (directory.child name).toString) := by
  unfold isFile holdsFile
  rw [locate_child there named]
  by_cases fits : Fits directory name
  · rw [if_pos fits, if_pos fits]
    cases entry : t.entry? (place ++ [name]) with
    | none => rfl
    | some e => cases e <;> simp [entry]
  · rw [if_neg fits, if_neg fits]

end

end FileSystem.Tree

end BundleAudit
