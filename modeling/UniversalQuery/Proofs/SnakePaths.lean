import UniversalQuery.FieldPath
import UniversalQuery.Proofs.SnakeSegments

set_option autoImplicit false

/-! Snake case and the names of a path. A key is converted on the two sides of every character
outside its words apart, so the names between its dots are converted one by one. -/

namespace UniversalQuery

/-! ## Texts between separators -/

namespace FieldPath

theorem intercalate_dot_cons (first : List Char) {rest : List (List Char)} (more : rest ≠ []) :
    ['.'].intercalate (first :: rest) = first ++ '.' :: ['.'].intercalate rest := by
  rw [List.intercalate_cons_of_ne_nil more, List.append_assoc, List.singleton_append]

/-- Pieces without dots are found again when the text with dots between them is cut. -/
theorem cutAtDots_intercalate {segments : List (List Char)} (nonempty : segments ≠ [])
    (solid : ∀ segment ∈ segments, '.' ∉ segment) :
    cutAtDots [] (['.'].intercalate segments) = segments := by
  induction segments with
  | nil => exact absurd rfl nonempty
  | cons first rest ih =>
    obtain ⟨firstSolid, restSolid⟩ := List.forall_mem_cons.mp solid
    by_cases last : rest = []
    · simp [last, cutAtDots_of_not_mem firstSolid]
    · rw [intercalate_dot_cons first last, cutAtDots_append firstSolid, ih last restSolid]
      rfl

end FieldPath

/-! ## Conversion of the names -/

/-- Converting a key is cutting it at its dots, converting each piece, and putting the dots back. -/
theorem snakeChars_intercalate (segments : List (List Char)) :
    snakeChars (['.'].intercalate segments) = ['.'].intercalate (segments.map snakeChars) := by
  induction segments with
  | nil => rfl
  | cons first rest ih =>
    by_cases last : rest = []
    · simp [last]
    · have more : rest.map snakeChars ≠ [] := by simpa using last
      rw [FieldPath.intercalate_dot_cons first last, snakeChars_append_cons _ _ isWordChar_dot, ih,
        List.map_cons, FieldPath.intercalate_dot_cons _ more]

private theorem dot_mem_snakeChars_iff {text : List Char} : '.' ∈ snakeChars text ↔ '.' ∈ text :=
  dot_mem_mapRuns_iff List.not_mem_nil

theorem cutAtDots_snakeChars (text : List Char) :
    FieldPath.cutAtDots [] (snakeChars text) = (FieldPath.cutAtDots [] text).map snakeChars := by
  have whole : ['.'].intercalate (FieldPath.cutAtDots [] text) = text := by
    simpa using FieldPath.intercalate_cutAtDots [] text
  have pieces : (FieldPath.cutAtDots [] text).map snakeChars ≠ [] := by
    simpa using FieldPath.cutAtDots_ne_nil [] text
  have solid : ∀ segment ∈ (FieldPath.cutAtDots [] text).map snakeChars, '.' ∉ segment := by
    intro segment member
    obtain ⟨piece, cut, rfl⟩ := List.mem_map.mp member
    rw [dot_mem_snakeChars_iff]
    exact FieldPath.dot_not_mem_of_mem_cutAtDots List.not_mem_nil cut
  calc
    FieldPath.cutAtDots [] (snakeChars text)
      = FieldPath.cutAtDots [] (snakeChars (['.'].intercalate (FieldPath.cutAtDots [] text))) := by
        rw [whole]
    _ = FieldPath.cutAtDots []
          (['.'].intercalate ((FieldPath.cutAtDots [] text).map snakeChars)) := by
        rw [snakeChars_intercalate]
    _ = (FieldPath.cutAtDots [] text).map snakeChars :=
        FieldPath.cutAtDots_intercalate pieces solid

/-! ## Keys -/

theorem snakeKey_append_singleton_append (left right : String) {c : Char}
    (outside : isWordChar c = false) :
    snakeKey (left ++ String.singleton c ++ right) =
      snakeKey left ++ String.singleton c ++ snakeKey right := by
  have apart := snakeChars_append_cons left.toList right.toList outside
  rw [← String.toList_inj]
  simpa [snakeKey] using apart

theorem parts_snakeKey (key : String) :
    FieldPath.parts (snakeKey key) = (FieldPath.parts key).map snakeKey := by
  rw [FieldPath.parts_eq_map, FieldPath.parts_eq_map, snakeKey, String.toList_ofList,
    cutAtDots_snakeChars, List.map_map, List.map_map]
  apply List.map_congr_left
  intro piece _
  simp [snakeKey]

theorem rootField_snakeKey (key : String) :
    rootField (snakeKey key) = snakeKey (rootField key) := by
  have names := parts_snakeKey key
  rw [FieldPath.parts, FieldPath.parts, List.map_cons] at names
  exact (List.cons.inj names).1

/-- Neither cutting a text into words nor lowercasing them brings a dot into it. -/
theorem dot_not_mem_word {text word : List Char} (solid : '.' ∉ text)
    (cut : word ∈ Text.words text) : '.' ∉ word ∧ '.' ∉ Text.lowercaseWord word := by
  have plain : '.' ∉ word := fun member => solid (Text.mem_of_mem_words cut member)
  exact ⟨plain, Text.not_mem_lowercaseWord (by decide) plain⟩

/-- Snake case is local. A character that no run of words can hold stays where it is, and what
stands on its two sides is converted apart. Words bring no dots with them, so the names of a path
are those of the key, converted one by one; a key is a path exactly if it is one in snake case, and
the field that it refers to is converted like any key. -/
theorem snakeKey_local :
    (∀ (left right : String) (c : Char), Text.isAlphanumeric c = false → c ≠ '_' →
      snakeKey (left ++ String.singleton c ++ right) =
        snakeKey left ++ String.singleton c ++ snakeKey right) ∧
    (∀ text : List Char, '.' ∉ text → ∀ word ∈ Text.words text,
      '.' ∉ word ∧ '.' ∉ Text.lowercaseWord word) ∧
    (∀ key : String, FieldPath.parts (snakeKey key) = (FieldPath.parts key).map snakeKey) ∧
    (∀ key : String, '.' ∈ (snakeKey key).toList ↔ '.' ∈ key.toList) ∧
    (∀ key : String, rootField (snakeKey key) = snakeKey (rootField key)) := by
  refine ⟨?_, ?_, parts_snakeKey, fun _ => dot_mem_snakeKey_iff, rootField_snakeKey⟩
  · intro left right c notAlphanumeric notUnderscore
    apply snakeKey_append_singleton_append
    exact isWordChar_eq_false_iff.mpr ⟨notAlphanumeric, notUnderscore⟩
  · intro text solid word cut
    exact dot_not_mem_word solid cut

theorem snakeKey_local_contact :
    Text.isAlphanumeric '-' = false ∧ '-' ≠ '_' ∧
    snakeKey (".jobInfo..contactE" ++ String.singleton '-' ++ "MAILBox_.") =
      snakeKey ".jobInfo..contactE" ++ String.singleton '-' ++ snakeKey "MAILBox_." ∧
    snakeKey ".jobInfo..contactE" ++ String.singleton '-' ++ snakeKey "MAILBox_." =
      ".job_info..contact_e-mail_box_." ∧
    '.' ∉ "jobInfo".toList ∧ "Info".toList ∈ Text.words "jobInfo".toList ∧
    '.' ∉ Text.lowercaseWord "Info".toList ∧
    FieldPath.parts (snakeKey ".jobInfo..contactE") =
      (FieldPath.parts ".jobInfo..contactE").map snakeKey ∧
    rootField (snakeKey "jobInfo.Title") = snakeKey (rootField "jobInfo.Title") := by
  obtain ⟨apart, words, names, -, roots⟩ := snakeKey_local
  have notAlphanumeric : Text.isAlphanumeric '-' = false := by decide +kernel
  have notUnderscore : '-' ≠ '_' := by decide
  have converted : snakeKey ".jobInfo..contactE" ++ String.singleton '-' ++ snakeKey "MAILBox_." =
      ".job_info..contact_e-mail_box_." := by decide +kernel
  have solid : '.' ∉ "jobInfo".toList := by decide +kernel
  have cut : "Info".toList ∈ Text.words "jobInfo".toList := by decide +kernel
  exact ⟨notAlphanumeric, notUnderscore, apart _ _ _ notAlphanumeric notUnderscore, converted,
    solid, cut, (words _ solid _ cut).2, names _, roots _⟩

end UniversalQuery
