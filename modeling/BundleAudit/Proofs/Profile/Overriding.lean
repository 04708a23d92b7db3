import BundleAudit.Proofs.Profile.Parents

/-!
# Overriding

A later parent overrides an earlier one on a key that it sets, except in one case: if what it sets is the
default value, it looks like a parent that does not set the key, and the earlier parent wins
(`value_of_laterParent`).
-/

namespace BundleAudit.Profile

open BundleAudit.FileSystem

variable {presets t : Tree}

/-- A profile has the values that its document itself gives. -/
theorem value_of_own {ref : Reference} {origin : Origin} {d : Draft} {p : Profile} {key : Key} {v : KeyValue}
    (read : readReference presets t ref = .ok (origin, d)) (loaded : loadReference presets t [] ref = .ok p)
    (inherited : key.IsInherited) (own : d.own? key = some v) : p.value key = v := by
  have loads : d.LoadsAs presets t p := .reference read loaded
  obtain ⟨parents, -, -, -, built⟩ := Draft.resolve_eq_ok_iff.1 loads.resolve
  rw [(Draft.becomes_of_build built).values key inherited, own]
  rfl

/-- A valid document that does not set a key itself, and inherits from two profiles of which the later one sets
it, loads with what the later one sets if that is not the default, and else with what the earlier one has. So
the later parent overrides the earlier one unless it sets the default against another value. -/
theorem value_of_laterParent {d dB : Draft} {nameA nameB : String} {a b : Profile} {origin : Origin} {key : Key}
    {v : KeyValue} (valid : d.isValid) (names : d.parents = .ok [.ok nameA, .ok nameB])
    (listed : Listed presets t [(nameA, a), (nameB, b)]) (inherited : key.IsInherited)
    (silent : d.own? key = none)
    (read : readReference presets t (.ofString nameB) = .ok (origin, dB)) (given : dB.own? key = some v) :
    (∃ p, d.LoadsAs presets t p) ∧ ∀ p, d.LoadsAs presets t p →
      (p.value key = if v = key.default then a.value key else v) ∧
        (p.value key = v ↔ v ≠ key.default ∨ a.value key = key.default) := by
  refine ⟨Draft.loadsAs_of_isValid valid listed names, fun p loads => ?_⟩
  have later : b.value key = v := value_of_own read (listed (nameB, b) (by simp)) inherited given
  have value : p.value key = if v = key.default then a.value key else v := by
    rw [(loads.becomes listed names).values key inherited, silent]
    by_cases default : v = key.default
    · by_cases default' : a.value key = key.default <;> simp [lastOther?, later, default, default']
    · by_cases default' : a.value key = key.default <;> simp [lastOther?, later, default, default']
  refine ⟨value, ?_⟩
  rw [value]
  by_cases default : v = key.default
  · simp [default]
  · simp [default]

/-! ## An instance -/

/-- Two documents, of which the second one sets the name of the export to the default. -/
def resetting : Tree :=
  siblings (asciiBytes "\"export_name\": \"A\"") (asciiBytes "\"export_name\": \"OptaveJavaScriptSDK\"")

/-- A document that inherits from both, in order. -/
structure Resets (t : Tree) (d dB : Draft) (a b : Profile) : Prop where
  read : Draft.ofText siblingsChild.toList = .ok d
  valid : d.isValid
  only : d.OnlyInherits ["a", "b"]
  listed : Listed presetTree t [("a", a), ("b", b)]
  later : readReference presetTree t (.ofString "b") = .ok (.file ["w", "b"], dB)
  given : dB.own? (.text .exportName) = some (.text "OptaveJavaScriptSDK")
  earlier : a.value (.text .exportName) = .text "A"

theorem exists_resets : ∃ d dB a b, Resets resetting d dB a b := by
  have leafA : (leaf? (asciiBytes "\"export_name\": \"A\"")).map (·.own? (.text .exportName)) =
      some (some (.text "A")) := by
    decide +kernel
  have leafB : (leaf? (asciiBytes "\"export_name\": \"OptaveJavaScriptSDK\"")).map (·.own? (.text .exportName)) =
      some (some (.text "OptaveJavaScriptSDK")) := by
    decide +kernel
  obtain ⟨dA, leafA, ownA⟩ := Option.map_eq_some_iff.1 leafA
  obtain ⟨dB, leafB, ownB⟩ := Option.map_eq_some_iff.1 leafB
  obtain ⟨findsA, findsB⟩ := find_siblings presetTree (asciiBytes "\"export_name\": \"A\"")
    (asciiBytes "\"export_name\": \"OptaveJavaScriptSDK\"")
  obtain ⟨a, loadsA, valuesA⟩ := loadReference_of_leaf? findsA leafA
  obtain ⟨b, loadsB, valuesB⟩ := loadReference_of_leaf? findsB leafB
  have nameA : Reference.ofString "a" = .file "a" := by decide
  have nameB : Reference.ofString "b" = .file "b" := by decide
  obtain ⟨d, read, only⟩ := onlyInherits_siblingsChild
  have valid : (Draft.ofText siblingsChild.toList).toOption.all (·.isValid) = true := by decide +kernel
  rw [read] at valid
  have none : Listed presetTree resetting [] := .nil
  exact ⟨d, dB, a, b, {
    read := read
    valid := by simpa [Except.toOption] using valid
    only := only
    listed := .cons (nameA ▸ loadsA) (.cons (nameB ▸ loadsB) none)
    later := nameB ▸ readReference_of_leaf? findsB leafB
    given := ownB
    earlier := by rw [valuesA _ (by decide), ownA]; rfl }⟩

theorem value_of_laterParent_of_resetting :
    ∃ d dB a b, Resets resetting d dB a b ∧ ∃ p, d.LoadsAs presetTree resetting p ∧
      (p.value (.text .exportName) = .text "OptaveJavaScriptSDK" ↔
        KeyValue.text "OptaveJavaScriptSDK" ≠ Key.default (.text .exportName) ∨
          a.value (.text .exportName) = Key.default (.text .exportName)) := by
  obtain ⟨d, dB, a, b, resets⟩ := exists_resets
  obtain ⟨⟨p, loads⟩, values⟩ := value_of_laterParent resets.valid resets.only.parents resets.listed
    (by decide) (resets.only.own? _) resets.later resets.given
  exact ⟨d, dB, a, b, resets, p, loads, (values p loads).2⟩

/-- The later parent sets the name of the export, and the name that the earlier one sets is taken. -/
theorem exportName_of_resetting :
    ∃ dB, readReference presetTree resetting (.ofString "b") = .ok (.file ["w", "b"], dB) ∧
      dB.own? (.text .exportName) = some (.text "OptaveJavaScriptSDK") ∧
      ∃ p, ofText resetting siblingsChild.toList = .ok p ∧ p.parents = ["a", "b"] ∧ p.text .exportName = "A" := by
  obtain ⟨d, dB, a, b, resets⟩ := exists_resets
  obtain ⟨p, resolved⟩ := resets.only.loadsAs resets.listed
  have later : b.value (.text .exportName) = .text "OptaveJavaScriptSDK" :=
    value_of_own resets.later (resets.listed ("b", b) (by simp)) (by decide) resets.given
  have loads : d.LoadsAs presetTree resetting p := .text resolved
  have value := (loads.becomes resets.listed resets.only.parents).values (.text .exportName) (by decide)
  rw [resets.only.own?] at value
  refine ⟨dB, resets.later, resets.given, p, ?_, ?_, ?_⟩
  · simp only [ofText, resets.read]
    exact resolved
  · have names := Draft.parents_of_resolve resolved
    rw [resets.only.parents] at names
    exact (List.map_injective_iff.2 (fun _ _ same => Except.ok.inj same) (Except.ok.inj names)).symm
  · have last : lastOther? (.text .exportName) [a.value (.text .exportName), b.value (.text .exportName)] =
        some (.text "A") := by
      rw [resets.earlier, later]
      decide
    simp only [List.map_cons, List.map_nil, last] at value
    exact KeyValue.text.inj value

end BundleAudit.Profile
