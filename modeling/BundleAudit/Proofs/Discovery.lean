import BundleAudit.Discovery
import BundleAudit.Proofs.FileSystem.Entries
import BundleAudit.Proofs.Report.StableSort
import Mathlib.Data.List.TakeDrop
import Mathlib.Data.List.TakeWhile

/-!
# What discovery finds

The bundles of a directory are told by their names (`Discovery.IsBundle`), in whatever order the directory is
listed. Discovery finds each of them once (`Discovery.search_of_directory`), unless the path of the directory
or of one of its entries is too long to be looked at. It ends in an error of its own if there is none.
-/

namespace BundleAudit

open BundleAudit.FileSystem BundleAudit.Text

namespace Discovery

/-! ## Names -/

/-- A number and a point stand in front of the name. -/
def IsChunk (name : String) : Prop :=
  ∃ digits rest, name.toList = digits ++ '.' :: rest ∧ digits ≠ [] ∧ ∀ d ∈ digits, isDigit d = true

theorem isChunkName_iff {name : String} : isChunkName name = true ↔ IsChunk name := by
  have point : isDigit '.' = false := by decide
  unfold isChunkName IsChunk
  rw [List.span_eq_takeWhile_dropWhile]
  constructor
  · intro chunk
    split at chunk
    · next d digits rest front =>
      obtain ⟨first, second⟩ := Prod.mk.inj front
      refine ⟨d :: digits, rest, ?_, List.cons_ne_nil _ _, fun c mem => ?_⟩
      · rw [← first, ← second, List.takeWhile_append_dropWhile]
      · exact List.mem_takeWhile_imp (first ▸ mem)
    · cases chunk
  · rintro ⟨digits, rest, shape, nonempty, all⟩
    obtain ⟨d, digits, rfl⟩ := List.exists_cons_of_ne_nil nonempty
    have first : name.toList.takeWhile isDigit = d :: digits := by
      rw [shape, List.takeWhile_append_of_pos all, List.takeWhile_cons_of_neg (by simp [point]),
        List.append_nil]
    have second : name.toList.dropWhile isDigit = '.' :: rest := by
      rw [shape, List.dropWhile_append_of_pos all, List.dropWhile_cons_of_neg (by simp [point])]
    rw [first, second]
    rfl

theorem occurs_iff {part : List Char} : ∀ {s : List Char}, occurs part s = true ↔ part <:+: s
  | [] => by simp [occurs]
  | c :: rest => by
    rw [occurs, Bool.or_eq_true, List.isPrefixOf_iff_prefix, occurs_iff, List.infix_cons_iff]

/-- A file of a directory that is a bundle by its name. -/
structure IsBundle (t : Tree) (place : Place) (marker ext name : String) : Prop where
  file : ∃ e, t.entry? (place ++ [name]) = some e ∧ e.isFile
  marked : marker.toList <:+: name.toList
  ending : ext.toList <:+ name.toList
  whole : ¬ IsChunk name

theorem isCandidateName_iff {marker ext name : String} :
    isCandidateName marker ext name = true ↔ marker.toList <:+: name.toList ∧ ext.toList <:+ name.toList := by
  rw [isCandidateName, Bool.and_eq_true, occurs_iff, List.isSuffixOf_iff_suffix]

/-- The names are those of the bundles of the directory, each once and in ascending order. -/
structure Lists (t : Tree) (place : Place) (marker ext : String) (names : List String) : Prop where
  ascending : names.Pairwise (· < ·)
  mem : ∀ name, name ∈ names ↔ IsBundle t place marker ext name

theorem Lists.nodup {t : Tree} {place : Place} {marker ext : String} {names : List String}
    (lists : Lists t place marker ext names) : names.Nodup :=
  lists.ascending.imp fun lt same => absurd (same ▸ lt) (String.lt_irrefl _)

/-- There is one such list. -/
theorem Lists.eq {t : Tree} {place : Place} {marker ext : String} {names names' : List String}
    (lists : Lists t place marker ext names) (lists' : Lists t place marker ext names') : names = names' := by
  have perm : names.Perm names' := by
    refine (List.perm_ext_iff_of_nodup lists.nodup lists'.nodup).2 fun name => ?_
    rw [lists.mem, lists'.mem]
  exact perm.eq_of_pairwise (fun m n _ _ mn nm => absurd (String.lt_trans mn nm) (String.lt_irrefl m))
    lists.ascending lists'.ascending

/-- The names of the bundles of a directory. -/
def namesIn (t : Tree) (place : Place) (marker ext : String) : List String :=
  ((t.children place).mergeSort fun m n => (compare m n).isLE).filter fun name =>
    t.holdsFile (place ++ [name]) && isCandidateName marker ext name && !isChunkName name

theorem namesIn_perm (t : Tree) (place : Place) (marker ext : String) :
    (namesIn t place marker ext).Perm ((t.children place).filter fun name =>
      t.holdsFile (place ++ [name]) && isCandidateName marker ext name && !isChunkName name) :=
  (List.mergeSort_perm _ _).filter _

theorem lists_namesIn (t : Tree) (place : Place) (marker ext : String) :
    Lists t place marker ext (namesIn t place marker ext) := by
  refine ⟨(ascending_mergeSort (t.nodup_children place)).filter _, fun name => ?_⟩
  rw [namesIn, List.mem_filter, List.mem_mergeSort, Bool.and_eq_true, Bool.and_eq_true, Tree.holdsFile_iff,
    isCandidateName_iff, Bool.not_eq_true', ← Bool.not_eq_true, isChunkName_iff]
  constructor
  · rintro ⟨-, ⟨file, marked, ending⟩, whole⟩
    exact ⟨file, marked, ending, whole⟩
  · intro bundle
    have listed := Tree.mem_children_of_file (Tree.holdsFile_iff.2 bundle.file)
    exact ⟨listed, ⟨bundle.file, bundle.marked, bundle.ending⟩, bundle.whole⟩

/-! ## Searching -/

/-- The path of a bundle of a directory. -/
def pathOf (directory name : String) : String := ((Path.ofString directory).child name).toString

/-- The paths of the bundles of a directory, or why there are none. -/
def search (t : Tree) (directory marker ext : String) :
    Except FileError (Except DiscoveryError (List String)) := do
  match ← find t directory marker ext with
  | .error e => return .error e
  | .ok found => return found.bundles marker ext

/-- The path of a directory, or of one of its entries, is too long to be looked at. -/
inductive IsOverlong (t : Tree) (directory : Path) : Prop
  | directory {text : String} (long : t.locate directory = .error (.nameTooLong text)) : IsOverlong t directory
  | entry {place : Place} {name : String} (there : t.directory? directory = .ok (some place))
    (listed : name ∈ t.children place) (long : ¬ Tree.Fits directory name) : IsOverlong t directory

theorem eq_none_or_exists_directory {t : Tree} {directory : Path} (short : ¬ IsOverlong t directory) :
    t.directory? directory = .ok none ∨ ∃ place, t.directory? directory = .ok (some place) ∧
      ∀ name ∈ t.children place, Tree.Fits directory name := by
  cases looked : t.directory? directory with
  | error e =>
    unfold Tree.directory? at looked
    split at looked
    · split at looked <;> cases looked
    · next long => exact absurd (.directory long) short
    · cases looked
  | ok found =>
    cases found with
    | none => exact .inl rfl
    | some place =>
      refine .inr ⟨place, rfl, fun name listed => ?_⟩
      by_contra long
      exact short (.entry looked listed long)

/-- How a search ends. -/
inductive Ends (t : Tree) (directory marker ext : String) :
    Except FileError (Except DiscoveryError (List String)) → Prop
  | refused (e : FileError) (overlong : IsOverlong t (Path.ofString directory)) :
    Ends t directory marker ext (.error e)
  | noDirectory (short : ¬ IsOverlong t (Path.ofString directory))
    (none : t.directory? (Path.ofString directory) = .ok none) :
    Ends t directory marker ext (.ok (.error (.noDirectory (Path.ofString directory).toString)))
  | noBundles {place : Place} (short : ¬ IsOverlong t (Path.ofString directory))
    (there : t.directory? (Path.ofString directory) = .ok (some place))
    (none : ∀ name, ¬ IsBundle t place marker ext name) :
    Ends t directory marker ext (.ok (.error (.noBundles marker ext (Path.ofString directory).toString)))
  | bundles {place : Place} {names : List String} (short : ¬ IsOverlong t (Path.ofString directory))
    (there : t.directory? (Path.ofString directory) = .ok (some place))
    (lists : Lists t place marker ext names) (some : names ≠ []) :
    Ends t directory marker ext (.ok (.ok (names.map (pathOf directory))))

section
variable {t : Tree} {directory : Path} {place : Place} (there : t.directory? directory = .ok (some place))
include there

theorem fileNames_of_fits : ∀ {names : List String}, (∀ name ∈ names, IsName name) →
    (∀ name ∈ names, Tree.Fits directory name) →
      fileNames t directory names = .ok (names.filter fun name => t.holdsFile (place ++ [name]))
  | [], _, _ => rfl
  | name :: rest, named, fits => by
    have first : t.isFile (directory.child name) = .ok (t.holdsFile (place ++ [name])) := by
      rw [Tree.isFile_child there (named name List.mem_cons_self), if_pos (fits name List.mem_cons_self)]
    have others := fileNames_of_fits (fun other mem => named other (List.mem_cons_of_mem _ mem))
      fun other mem => fits other (List.mem_cons_of_mem _ mem)
    rw [fileNames, first, others, List.filter_cons]
    rfl

theorem fileNames_of_long : ∀ {names : List String}, (∀ name ∈ names, IsName name) →
    (∃ name ∈ names, ¬ Tree.Fits directory name) → ∃ e, fileNames t directory names = .error e
  | [], _, ⟨_, mem, _⟩ => nomatch mem
  | name :: rest, named, long => by
    have first := Tree.isFile_child there (named name List.mem_cons_self)
    by_cases fits : Tree.Fits directory name
    · obtain ⟨other, mem, long⟩ := long
      have behind : other ∈ rest := (List.mem_cons.1 mem).resolve_left fun same => long (same ▸ fits)
      obtain ⟨e, failed⟩ := fileNames_of_long (fun other mem => named other (List.mem_cons_of_mem _ mem))
        ⟨other, behind, long⟩
      rw [if_pos fits] at first
      exact ⟨e, by rw [fileNames, first, failed]; rfl⟩
    · rw [if_neg fits] at first
      exact ⟨_, by rw [fileNames, first]; rfl⟩

end

section
variable {t : Tree} (named : t.IsNamed) {directory marker ext : String}

theorem search_of_noDirectory (none : t.directory? (Path.ofString directory) = .ok none) :
    search t directory marker ext = .ok (.error (.noDirectory (Path.ofString directory).toString)) := by
  unfold search find
  simp only [none]
  rfl

theorem search_of_long {text : String} (long : t.locate (Path.ofString directory) = .error (.nameTooLong text)) :
    search t directory marker ext = .error (.nameTooLong text) := by
  have refused : t.directory? (Path.ofString directory) = .error (.nameTooLong text) := by
    unfold Tree.directory?
    rw [long]
  unfold search find
  simp only [refused]
  rfl

include named

theorem candidates_of_fits (marker ext : String) {place : Place}
    (there : t.directory? (Path.ofString directory) = .ok (some place))
    (fits : ∀ name ∈ t.children place, Tree.Fits (Path.ofString directory) name) : ∃ chunks,
      candidates t (Path.ofString directory) place marker ext = .ok ⟨namesIn t place marker ext, chunks⟩ := by
  have read : fileNames t (Path.ofString directory)
      ((t.children place).mergeSort fun m n => (compare m n).isLE) =
        .ok (((t.children place).mergeSort fun m n => (compare m n).isLE).filter fun name =>
          t.holdsFile (place ++ [name])) := by
    refine fileNames_of_fits there (fun name mem => ?_) fun name mem => ?_
    · exact named.of_mem_children (List.mem_mergeSort.1 mem)
    · exact fits name (List.mem_mergeSort.1 mem)
  unfold candidates namesIn
  dsimp only
  rw [read]
  refine ⟨_, congrArg Except.ok (congrArg₂ Candidates.mk ?_ rfl)⟩
  rw [List.filter_filter, List.filter_filter]
  exact List.filter_congr fun name _ => by ac_rfl

theorem search_of_directory {place : Place}
    (there : t.directory? (Path.ofString directory) = .ok (some place))
    (fits : ∀ name ∈ t.children place, Tree.Fits (Path.ofString directory) name) :
    search t directory marker ext =
      .ok (if namesIn t place marker ext = [] then
          .error (.noBundles marker ext (Path.ofString directory).toString)
        else .ok ((namesIn t place marker ext).map (pathOf directory))) := by
  obtain ⟨chunks, found⟩ := candidates_of_fits named marker ext there fits
  unfold search find
  simp only [there, found, bind, Except.bind, pure, Except.pure, bundles, List.isEmpty_iff]
  rfl

theorem search_of_overlong (overlong : IsOverlong t (Path.ofString directory)) :
    ∃ e, search t directory marker ext = .error e := by
  cases overlong with
  | directory long => exact ⟨_, search_of_long long⟩
  | @entry place name there listed long =>
    have sorted : ∀ other ∈ (t.children place).mergeSort fun m n => (compare m n).isLE, IsName other :=
      fun other mem => named.of_mem_children (List.mem_mergeSort.1 mem)
    obtain ⟨e, failed⟩ := fileNames_of_long there sorted ⟨name, List.mem_mergeSort.2 listed, long⟩
    refine ⟨e, ?_⟩
    unfold search find candidates
    simp only [there, failed, bind, Except.bind]

theorem search_ends (directory marker ext : String) :
    Ends t directory marker ext (search t directory marker ext) := by
  by_cases short : IsOverlong t (Path.ofString directory)
  · obtain ⟨e, failed⟩ := search_of_overlong named short
    rw [failed]
    exact .refused e short
  · rcases eq_none_or_exists_directory short with none | ⟨place, there, fits⟩
    · rw [search_of_noDirectory none]
      exact .noDirectory short none
    · have lists := lists_namesIn t place marker ext
      rw [search_of_directory named there fits]
      split
      · next empty => exact .noBundles short there fun name => by simp [← lists.mem, empty]
      · next some => exact .bundles short there lists some

/-- A search is refused if and only if a path is too long. -/
theorem search_refused_iff (marker ext : String) :
    (∃ e, search t directory marker ext = .error e) ↔ IsOverlong t (Path.ofString directory) := by
  refine ⟨fun ⟨e, failed⟩ => ?_, search_of_overlong named⟩
  have ends := search_ends named directory marker ext
  rw [failed] at ends
  cases ends with
  | refused e overlong => exact overlong

/-- Discovery ends in an error of its own if and only if there is no directory, or no bundle in it. -/
theorem search_raises_iff (marker ext : String) :
    (∃ e, search t directory marker ext = .ok (.error e)) ↔ ¬ IsOverlong t (Path.ofString directory) ∧
      ∀ place name, t.directory? (Path.ofString directory) = .ok (some place) →
        ¬ IsBundle t place marker ext name := by
  have ends := search_ends named directory marker ext
  generalize search t directory marker ext = result at ends
  cases ends with
  | refused e overlong =>
    refine iff_of_false ?_ fun h => h.1 overlong
    rintro ⟨_, raised⟩
    cases raised
  | noDirectory short none =>
    refine iff_of_true ⟨_, rfl⟩ ⟨short, fun place name there => ?_⟩
    rw [none] at there
    cases there
  | noBundles short there none =>
    refine iff_of_true ⟨_, rfl⟩ ⟨short, fun place name there' => ?_⟩
    obtain rfl := Option.some.inj (Except.ok.inj (there.symm.trans there'))
    exact none name
  | bundles short there lists some =>
    refine iff_of_false ?_ fun h => ?_
    · rintro ⟨_, raised⟩
      cases raised
    · obtain ⟨name, mem⟩ := List.exists_mem_of_ne_nil _ some
      exact h.2 _ name there ((lists.mem name).1 mem)

end

/-- A directory whose name is too long is not reported as missing. -/
theorem search_of_long_name {t : Tree} (start : t.entry? t.workingDirectory = some .directory)
    {directory : String} (named : IsName directory) (long : Tree.nameLimit < directory.utf8ByteSize)
    (marker ext : String) : search t directory marker ext = .error (.nameTooLong directory) := by
  obtain ⟨path, text⟩ := Path.ofString_of_isPart named.toIsPart
  have clean : directory.contains '\x00' = false := by simpa using named.no_null
  have relative : "".isEmpty = true := rfl
  refine search_of_long ?_
  rw [path]
  unfold Tree.locate
  simp only [text, clean, Bool.false_eq_true, if_false, Tree.walkFrom, relative, if_true, start]
  rw [if_pos long, ite_self]

theorem search_of_three_hundred_letters :
    let t : Tree := { entries := [], workingDirectory := [] }
    let directory := String.ofList (List.replicate 300 'x')
    t.entry? t.workingDirectory = some .directory ∧ IsName directory ∧
      Tree.nameLimit < directory.utf8ByteSize ∧
        search t directory ".umd." ".js" = .error (.nameTooLong directory) := by
  intro t directory
  have long : Tree.nameLimit < directory.utf8ByteSize := by decide +kernel
  have letter : ∀ c ∈ directory.toList, c = 'x' := by
    intro c mem
    rw [String.toList_ofList] at mem
    exact List.eq_of_mem_replicate mem
  have other : ∀ short : String, short.utf8ByteSize ≤ Tree.nameLimit → directory ≠ short := by
    intro short le same
    exact absurd long (same ▸ Nat.not_lt.2 le)
  have named : IsName directory :=
    { nonempty := other _ (by decide)
      no_point := other _ (by decide)
      no_step_back := other _ (by decide)
      no_slash := fun mem => absurd (letter _ mem) (by decide)
      no_null := fun mem => absurd (letter _ mem) (by decide) }
  exact ⟨rfl, named, long, search_of_long_name rfl named long _ _⟩

end Discovery

end BundleAudit
