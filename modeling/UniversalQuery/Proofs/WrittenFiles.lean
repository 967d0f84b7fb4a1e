import UniversalQuery.ModelFile.Storage
import UniversalQuery.Proofs.Outcomes

set_option autoImplicit false

/-! A file that was written is read again. -/

namespace UniversalQuery.FileTree

variable {tree written : FileTree}

/-- A way through directories stays open where directories stay and none becomes a file. -/
theorem enter_mono
    (directories : ∀ names, tree.hasDirectory names = true → written.hasDirectory names = true)
    (files : ∀ names, tree.hasDirectory names = true → tree.content? names = none →
      written.content? names = none)
    {names : List String} {place found : Option (List String)}
    (entered : tree.enter place names = .ok found) : written.enter place names = .ok found := by
  induction names generalizing place with
  | nil =>
    cases place with
    | none => exact entered
    | some place => exact entered
  | cons name names ih =>
    cases place with
    | none =>
      rw [enter] at entered ⊢
      split_ifs at entered with up
      rw [if_pos up]
      exact ih entered
    | some place =>
      rw [enter] at entered ⊢
      by_cases up : name = ".."
      · rw [if_pos up] at entered ⊢
        exact ih entered
      · rw [if_neg up] at entered ⊢
        split_ifs at entered with isFile directory
        have noFile : written.content? (place ++ [name]) = none :=
          files _ directory (Option.not_isSome_iff_eq_none.mp isFile)
        rw [noFile, if_neg (by simp), if_pos (directories _ directory)]
        exact ih entered

theorem locate_mono
    (directories : ∀ names, tree.hasDirectory names = true → written.hasDirectory names = true)
    (files : ∀ names, tree.hasDirectory names = true → tree.content? names = none →
      written.content? names = none)
    {path : String} {location : Location} (located : tree.locate path = .ok location) :
    written.locate path = .ok location := by
  unfold locate at located ⊢
  split_ifs at located ⊢
  dsimp only at located ⊢
  split at located
  · exact located
  · split_ifs at located ⊢
    · obtain ⟨place, entered, same⟩ := exists_of_map_eq_ok located
      rw [enter_mono directories files entered, ← same]
      rfl
    · obtain ⟨place, entered, same⟩ := exists_of_bind_eq_ok located
      rw [enter_mono directories files entered]
      exact same

section Written

variable {names : List String} {content : String}

private theorem hasDirectory_written {directory : List String}
    (there : tree.hasDirectory directory = true) :
    hasDirectory ((names, content) :: tree.filter (·.1 != names)) directory = true := by
  rw [hasDirectory, Bool.or_eq_true] at there ⊢
  refine there.imp_right fun inside => ?_
  obtain ⟨file, member, below⟩ := List.any_eq_true.mp inside
  rw [List.any_eq_true]
  by_cases same : file.1 = names
  · exact ⟨(names, content), List.mem_cons_self, same ▸ below⟩
  · refine ⟨file, List.mem_cons_of_mem _ (List.mem_filter.mpr ⟨member, ?_⟩), below⟩
    simpa using same

private theorem content?_written_of_ne {other : List String} (apart : other ≠ names)
    (absent : tree.content? other = none) :
    content? ((names, content) :: tree.filter (·.1 != names)) other = none := by
  rw [content?, List.lookup_eq_none_iff] at absent ⊢
  intro file inside
  rcases List.mem_cons.mp inside with rfl | kept
  · simpa using apart
  · exact absent file (List.mem_filter.mp kept).1

end Written

/-- What is written to a path is read from it. -/
theorem read_of_write {path content : String} (writes : tree.write path content = .ok written) :
    written.read path = .ok content := by
  obtain ⟨location, located, writes⟩ := exists_of_bind_eq_ok writes
  cases location with
  | directory => cases writes
  | entry names =>
    dsimp only at writes
    split_ifs at writes with refused
    cases writes
    rw [not_or] at refused
    obtain ⟨noDirectory, isFile⟩ := refused
    have relocated :
        locate ((names, content) :: tree.filter (·.1 != names)) path = .ok (.entry names) := by
      refine locate_mono (fun _ => hasDirectory_written) ?_ located
      intro directory there
      refine content?_written_of_ne ?_
      rintro rfl
      exact noDirectory there
    have found :
        content? ((names, content) :: tree.filter (·.1 != names)) names = some content := by
      simp [content?]
    unfold read
    rw [relocated]
    simp [bind, Except.bind, found, isFile]

end UniversalQuery.FileTree
