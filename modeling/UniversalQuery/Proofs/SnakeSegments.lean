import UniversalQuery.FieldPath
import UniversalQuery.Proofs.LetterCase
import UniversalQuery.SnakeCase

set_option autoImplicit false

/-! Snake case and the dots of a path. The characters of a converted run are underscores and
lowercase forms of its own characters, among which there is no dot; dots stand outside all runs and
are kept. -/

namespace UniversalQuery

namespace Text

/-! ## Characters of lowercase words -/

/-- All lowercase forms of other characters stand at or after the small a, so a mark before it is no
part of them. -/
theorem not_mem_lowercase {c mark : Char} (low : 0 < mark.toNat ∧ mark.toNat < 0x61)
    (other : c ≠ mark) : mark ∉ lowercase c := by
  intro member
  obtain ⟨same, -⟩ | dotted | ⟨shift, listed, inside, same⟩ := mem_lowercase_cases member
  · exact other same.symm
  · obtain rfl | rfl := dotted
    · exact absurd low.2 (by decide)
    · exact absurd low.2 (by decide)
  · have far := small_le_of_mem_lowerShifts shift listed
    have beyond := (CodeSpan.contains_iff.mp inside).1
    by_cases valid : (c.toNat + shift.2).toNat.isValidChar
    · have code := toNat_ofNat valid
      rw [← same] at code
      omega
    · have zero : mark.toNat = 0 := by
        rw [same, Char.ofNat, dif_neg valid]
        rfl
      omega

theorem mem_lowercaseWord {word : List Char} {d : Char} (member : d ∈ lowercaseWord word) :
    d = 'ς' ∨ ∃ c ∈ word, d ∈ lowercase c := by
  fun_induction lowercaseWord word with
  | case1 => cases member
  | case2 => exact .inl (List.mem_singleton.mp member)
  | case3 c other => exact .inr ⟨c, List.mem_cons_self, member⟩
  | case4 c rest _ ih =>
    rcases List.mem_append.mp member with first | later
    · exact .inr ⟨c, List.mem_cons_self, first⟩
    · rcases ih later with sigma | ⟨source, inside, lowered⟩
      · exact .inl sigma
      · exact .inr ⟨source, List.mem_cons_of_mem _ inside, lowered⟩

theorem not_mem_lowercaseWord {word : List Char} {mark : Char}
    (low : 0 < mark.toNat ∧ mark.toNat < 0x61) (plain : mark ∉ word) :
    mark ∉ lowercaseWord word := by
  intro member
  obtain rfl | ⟨c, inside, lowered⟩ := mem_lowercaseWord member
  · exact absurd low.2 (by decide)
  · refine not_mem_lowercase low ?_ lowered
    rintro rfl
    exact plain inside

/-! ## Cutting adds no character -/

theorem mem_of_mem_splitAtCase {mode : CaseMode} {piece text word : List Char} {c : Char}
    (cut : word ∈ splitAtCase mode piece text) (member : c ∈ word) : c ∈ piece ∨ c ∈ text := by
  fun_induction splitAtCase mode piece text with
  | case1 => cases cut
  | case2 mode piece last =>
    rw [List.mem_singleton.mp cut, List.mem_reverse, List.mem_cons] at member
    rcases member with rfl | held
    · exact .inr List.mem_cons_self
    · exact .inl held
  | case3 mode piece head next rest _ ih =>
    rcases List.mem_cons.mp cut with rfl | later
    · rw [List.mem_reverse, List.mem_cons] at member
      rcases member with rfl | held
      · exact .inr List.mem_cons_self
      · exact .inl held
    · rcases ih later with none | inside
      · cases none
      · exact .inr (List.mem_cons_of_mem _ inside)
  | case4 mode piece head next rest _ _ ih =>
    rcases List.mem_cons.mp cut with rfl | later
    · exact .inl (List.mem_reverse.mp member)
    · rcases ih later with held | inside
      · rw [List.mem_singleton.mp held]
        exact .inr List.mem_cons_self
      · exact .inr (List.mem_cons_of_mem _ inside)
  | case5 mode piece head next rest _ _ ih =>
    rcases ih cut with held | inside
    · rcases List.mem_cons.mp held with rfl | held
      · exact .inr List.mem_cons_self
      · exact .inl held
    · exact .inr (List.mem_cons_of_mem _ inside)

theorem mem_of_mem_alphanumericPieces {held text piece : List Char} {c : Char}
    (cut : piece ∈ alphanumericPieces held text) (member : c ∈ piece) : c ∈ held ∨ c ∈ text := by
  induction text generalizing held with
  | nil =>
    rw [List.mem_singleton.mp cut, List.mem_reverse] at member
    exact .inl member
  | cons head rest ih =>
    rw [alphanumericPieces] at cut
    split at cut
    · rcases ih cut with kept | inside
      · rcases List.mem_cons.mp kept with rfl | kept
        · exact .inr List.mem_cons_self
        · exact .inl kept
      · exact .inr (List.mem_cons_of_mem _ inside)
    · rcases List.mem_cons.mp cut with rfl | later
      · exact .inl (List.mem_reverse.mp member)
      · rcases ih later with none | inside
        · cases none
        · exact .inr (List.mem_cons_of_mem _ inside)

theorem mem_of_mem_words {text word : List Char} {c : Char} (cut : word ∈ words text)
    (member : c ∈ word) : c ∈ text := by
  obtain ⟨piece, held, split⟩ := List.mem_flatMap.mp cut
  rcases mem_of_mem_splitAtCase split member with none | inside
  · cases none
  · rcases mem_of_mem_alphanumericPieces held inside with none | inside
    · cases none
    · exact inside

end Text

open Text

/-! ## Runs -/

theorem isWordChar_dot : isWordChar '.' = false := by decide +kernel

theorem eq_underscore_of_mem_takeWhile {text : List Char} {c : Char}
    (member : c ∈ text.takeWhile (· == '_')) : c = '_' :=
  eq_of_beq (List.all_eq_true.mp List.all_takeWhile c member)

private theorem mem_intercalate_underscore {pieces : List (List Char)} {c : Char}
    (member : c ∈ ['_'].intercalate pieces) : c = '_' ∨ ∃ piece ∈ pieces, c ∈ piece := by
  induction pieces with
  | nil => cases member
  | cons piece rest ih =>
    cases rest with
    | nil => exact .inr ⟨piece, List.mem_cons_self, by simpa using member⟩
    | cons next later =>
      rw [List.intercalate_cons_of_ne_nil (List.cons_ne_nil _ _), List.append_assoc] at member
      rcases List.mem_append.mp member with first | member
      · exact .inr ⟨piece, List.mem_cons_self, first⟩
      · rcases List.mem_cons.mp member with rfl | member
        · exact .inl rfl
        · rcases ih member with line | ⟨other, listed, inside⟩
          · exact .inl line
          · exact .inr ⟨other, List.mem_cons_of_mem _ listed, inside⟩

/-- The characters of converted words are underscores, final sigmas and lowercase forms. -/
theorem mem_snakeWords {text : List Char} {d : Char} (member : d ∈ snakeWords text) :
    d = '_' ∨ d = 'ς' ∨ ∃ c ∈ text, d ∈ lowercase c := by
  obtain line | ⟨piece, listed, inside⟩ := mem_intercalate_underscore member
  · exact .inl line
  · obtain ⟨word, cut, rfl⟩ := List.mem_map.mp listed
    obtain sigma | ⟨c, letter, lowered⟩ := mem_lowercaseWord inside
    · exact .inr (.inl sigma)
    · exact .inr (.inr ⟨c, mem_of_mem_words cut letter, lowered⟩)

theorem mem_snakeRun {run : List Char} {d : Char} (member : d ∈ snakeRun run) :
    d = '_' ∨ d = 'ς' ∨ ∃ c ∈ run, d ∈ lowercase c := by
  have core : ∀ c ∈ ((run.dropWhile (· == '_')).reverse.dropWhile (· == '_')).reverse, c ∈ run := by
    intro c inside
    have held := (List.dropWhile_sublist _).subset (List.mem_reverse.mp inside)
    exact (List.dropWhile_sublist _).subset (List.mem_reverse.mp held)
  obtain inside | trailing := List.mem_append.mp member
  · obtain leading | inside := List.mem_append.mp inside
    · exact .inl (eq_underscore_of_mem_takeWhile leading)
    · refine (mem_snakeWords inside).imp_right (Or.imp_right ?_)
      rintro ⟨c, held, lowered⟩
      exact ⟨c, core c held, lowered⟩
  · exact .inl (eq_underscore_of_mem_takeWhile trailing)

theorem dot_not_mem_snakeRun {run : List Char} (solid : '.' ∉ run) : '.' ∉ snakeRun run := by
  intro member
  obtain line | sigma | ⟨c, inside, lowered⟩ := mem_snakeRun member
  · cases line
  · cases sigma
  · refine not_mem_lowercase (by decide) ?_ lowered
    rintro rfl
    exact solid inside

/-- Dots end runs and are kept, and no run has a dot in it. -/
theorem dot_mem_mapRuns_iff {run text : List Char} (solid : '.' ∉ run) :
    '.' ∈ mapRuns snakeRun run text ↔ '.' ∈ text := by
  induction text generalizing run with
  | nil =>
    have none : '.' ∉ snakeRun run.reverse :=
      dot_not_mem_snakeRun fun member => solid (List.mem_reverse.mp member)
    simp [mapRuns, none]
  | cons c rest ih =>
    rw [mapRuns]
    split
    · rename_i inside
      have other : '.' ≠ c := by
        rintro rfl
        rw [isWordChar_dot] at inside
        cases inside
      rw [ih (by rw [List.mem_cons, not_or]; exact ⟨other, solid⟩), List.mem_cons]
      simp [other]
    · have none : '.' ∉ snakeRun run.reverse :=
        dot_not_mem_snakeRun fun member => solid (List.mem_reverse.mp member)
      rw [List.mem_append, List.mem_cons, List.mem_cons, ih List.not_mem_nil]
      simp [none]

/-- A key is a path exactly if it is one in snake case. -/
theorem dot_mem_snakeKey_iff {key : String} :
    '.' ∈ (snakeKey key).toList ↔ '.' ∈ key.toList := by
  rw [snakeKey, String.toList_ofList, snakeChars]
  exact dot_mem_mapRuns_iff List.not_mem_nil

end UniversalQuery
