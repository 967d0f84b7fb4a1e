import Mathlib.Data.List.Chain
import UniversalQuery.Proofs.SnakeSegments

set_option autoImplicit false

/-! Snake case changes no key that is in snake case. The underscores that it puts between words
never meet each other or those around a run, and the characters of its words have no other lowercase
form. So a second pass finds the same words. -/

namespace UniversalQuery

open Text

/-! ## Underscores side by side -/

def NeverDoubled (text : List Char) : Prop :=
  text.IsChain fun c next => c = '_' → next ≠ '_'

/-- Underscores stand side by side at the two ends only: no part that neither begins nor ends with
one has two of them together. -/
def IsGapless (text : List Char) : Prop :=
  ∀ part, part <:+: text → part.head? ≠ some '_' → part.getLast? ≠ some '_' → NeverDoubled part

section Underscores

variable {lead text trail part : List Char}

theorem IsGapless.within (gapless : IsGapless text) (inside : part <:+: text) : IsGapless part :=
  fun inner within => gapless inner (within.trans inside)

theorem isInfix_of_lead (line : ∀ c ∈ lead, c = '_') (starts : part.head? ≠ some '_')
    (inside : part <:+: lead ++ text) : part <:+: text := by
  induction lead with
  | nil => exact inside
  | cons c lead ih =>
    obtain ⟨rfl, later⟩ := List.forall_mem_cons.mp line
    rw [List.cons_append, List.infix_cons_iff] at inside
    obtain here | inside := inside
    · cases part with
      | nil => exact List.nil_infix
      | cons first part =>
        obtain ⟨same, -⟩ := List.cons_prefix_cons.mp here
        rw [same] at starts
        exact absurd rfl starts
    · exact ih later inside

private theorem isInfix_of_trail (line : ∀ c ∈ trail, c = '_') (ends : part.getLast? ≠ some '_')
    (inside : part <:+: text ++ trail) : part <:+: text := by
  rw [← List.reverse_infix] at inside ⊢
  rw [List.reverse_append] at inside
  apply isInfix_of_lead _ _ inside
  · intro c member
    exact line c (List.mem_reverse.mp member)
  · rwa [List.head?_reverse]

/-- Underscores may be put around a text in which none stand side by side. -/
theorem isGapless_enclosed (before : ∀ c ∈ lead, c = '_') (after : ∀ c ∈ trail, c = '_')
    (single : NeverDoubled text) : IsGapless (lead ++ text ++ trail) := by
  intro part inside starts ends
  rw [List.append_assoc] at inside
  exact List.IsChain.infix single
    (isInfix_of_trail after ends (isInfix_of_lead before starts inside))

private theorem neverDoubled_of_not_mem (plain : '_' ∉ text) : NeverDoubled text := by
  induction text with
  | nil => exact .nil
  | cons c text ih =>
    rw [List.mem_cons, not_or] at plain
    apply List.isChain_cons.mpr
    refine ⟨fun next _ line => ?_, ih plain.2⟩
    exact absurd line.symm plain.1

private theorem neverDoubled_intercalate {pieces : List (List Char)}
    (each : ∀ piece ∈ pieces, piece ≠ [] ∧ '_' ∉ piece) :
    NeverDoubled (['_'].intercalate pieces) := by
  induction pieces with
  | nil => exact .nil
  | cons piece others ih =>
    obtain ⟨⟨-, plain⟩, later⟩ := List.forall_mem_cons.mp each
    cases others with
    | nil => simpa using neverDoubled_of_not_mem plain
    | cons next others =>
      have rest := ih later
      obtain ⟨nonempty, nextPlain⟩ := later next List.mem_cons_self
      obtain ⟨first, letters, rfl⟩ := List.exists_cons_of_ne_nil nonempty
      rw [List.intercalate_cons_of_ne_nil (List.cons_ne_nil _ _), List.append_assoc]
      apply List.isChain_append.mpr
      refine ⟨neverDoubled_of_not_mem plain, List.isChain_cons.mpr ⟨?_, rest⟩, ?_⟩
      · intro c head _ line
        have same : c = first := by
          cases others <;> simpa [List.intercalate_cons_of_ne_nil, eq_comm] using head
        rw [← same, line] at nextPlain
        exact nextPlain List.mem_cons_self
      · intro c last _ _ line
        rw [line] at last
        exact absurd (List.mem_of_mem_getLast? last) plain

end Underscores

/-! ## Words -/

namespace Text

theorem isAlphanumeric_underscore : isAlphanumeric '_' = false := by decide +kernel

/-- No word is empty. A word that ends before a character that is held back has characters, since
only they make the mode upper. -/
theorem ne_nil_of_mem_splitAtCase {mode : CaseMode} {held text word : List Char}
    (nonempty : mode = .upper → held ≠ []) (cut : word ∈ splitAtCase mode held text) :
    word ≠ [] := by
  fun_induction splitAtCase mode held text with
  | case1 => cases cut
  | case2 mode held c =>
    rw [List.mem_singleton.mp cut]
    simp
  | case3 mode held c next rest _ ih =>
    obtain rfl | later := List.mem_cons.mp cut
    · simp
    · exact ih (fun upper => by cases upper) later
  | case4 mode held c next rest _ turn ih =>
    obtain rfl | later := List.mem_cons.mp cut
    · simpa using nonempty turn.1
    · exact ih (fun _ => List.cons_ne_nil _ _) later
  | case5 mode held c next rest _ _ ih => exact ih (fun _ => List.cons_ne_nil _ _) cut

private theorem isAlphanumeric_of_mem_piece {held text piece : List Char} {c : Char}
    (before : ∀ c ∈ held, isAlphanumeric c = true) (cut : piece ∈ alphanumericPieces held text)
    (member : c ∈ piece) : isAlphanumeric c = true := by
  induction text generalizing held with
  | nil =>
    rw [List.mem_singleton.mp cut, List.mem_reverse] at member
    exact before c member
  | cons head rest ih =>
    rw [alphanumericPieces] at cut
    split at cut
    · rename_i inside
      exact ih (List.forall_mem_cons.mpr ⟨inside, before⟩) cut
    · obtain rfl | later := List.mem_cons.mp cut
      · exact before c (List.mem_reverse.mp member)
      · exact ih (fun _ none => by cases none) later

private theorem underscore_not_mem_of_mem_words {text word : List Char} (cut : word ∈ words text) :
    '_' ∉ word := by
  intro member
  obtain ⟨piece, held, split⟩ := List.mem_flatMap.mp cut
  obtain none | inside := mem_of_mem_splitAtCase split member
  · cases none
  · have alphanumeric := isAlphanumeric_of_mem_piece (fun _ none => by cases none) held inside
    rw [isAlphanumeric_underscore] at alphanumeric
    cases alphanumeric

private theorem ne_nil_of_mem_words {text word : List Char} (cut : word ∈ words text) :
    word ≠ [] := by
  obtain ⟨piece, held, split⟩ := List.mem_flatMap.mp cut
  exact ne_nil_of_mem_splitAtCase (fun upper => by cases upper) split

private theorem lowercase_ne_nil (c : Char) : lowercase c ≠ [] := by
  unfold lowercase
  split
  · simp
  · split <;> simp

private theorem lowercaseWord_ne_nil {word : List Char} (nonempty : word ≠ []) :
    lowercaseWord word ≠ [] := by
  fun_cases lowercaseWord word with
  | case1 => exact absurd rfl nonempty
  | case2 => simp
  | case3 c => exact lowercase_ne_nil c
  | case4 c => simp [lowercase_ne_nil c]

end Text

/-! ## Runs in snake case -/

theorem solid_of_mem_lowercased {text piece : List Char}
    (listed : piece ∈ (words text).map lowercaseWord) : piece ≠ [] ∧ '_' ∉ piece := by
  obtain ⟨word, cut, rfl⟩ := List.mem_map.mp listed
  exact ⟨lowercaseWord_ne_nil (ne_nil_of_mem_words cut),
    not_mem_lowercaseWord (by decide) (underscore_not_mem_of_mem_words cut)⟩

theorem neverDoubled_snakeWords (text : List Char) : NeverDoubled (snakeWords text) :=
  neverDoubled_intercalate fun _ => solid_of_mem_lowercased

theorem isGapless_snakeRun (run : List Char) : IsGapless (snakeRun run) :=
  isGapless_enclosed (fun _ => eq_underscore_of_mem_takeWhile)
    (fun _ => eq_underscore_of_mem_takeWhile) (neverDoubled_snakeWords _)

private theorem isSettled_marks : IsSettled '_' ∧ IsSettled 'ς' := by decide +kernel

private theorem isSettled_of_mem_snakeRun {run : List Char} {d : Char}
    (settles : ∀ c ∈ run, Settles c) (member : d ∈ snakeRun run) : IsSettled d := by
  obtain rfl | rfl | ⟨c, inside, lowered⟩ := mem_snakeRun member
  · exact isSettled_marks.1
  · exact isSettled_marks.2
  · exact isSettled_of_mem_lowercase (settles c inside) lowered

/-! ## A second pass -/

namespace Text

private theorem splitAtCase_of_notUpper {mode : CaseMode} {held text : List Char}
    (nonempty : text ≠ []) (notUpper : ∀ c ∈ text, isUppercase c = false) :
    splitAtCase mode held text = [held.reverse ++ text] := by
  fun_induction splitAtCase mode held text with
  | case1 => exact absurd rfl nonempty
  | case2 => simp
  | case3 mode held c next rest turn =>
    rw [notUpper next (by simp)] at turn
    cases turn.2
  | case4 mode held c next rest _ turn =>
    rw [notUpper c (by simp)] at turn
    cases turn.2.1
  | case5 mode held c next rest _ _ ih =>
    rw [ih (List.cons_ne_nil _ _) (List.forall_mem_cons.mp notUpper).2]
    simp

private theorem alphanumericPieces_ne_nil (held text : List Char) :
    alphanumericPieces held text ≠ [] := by
  induction text generalizing held with
  | nil => simp [alphanumericPieces]
  | cons c rest ih =>
    rw [alphanumericPieces]
    split
    · exact ih _
    · simp

private theorem intercalate_alphanumericPieces {held text : List Char}
    (inside : ∀ c ∈ text, isWordChar c = true) :
    ['_'].intercalate (alphanumericPieces held text) = held.reverse ++ text := by
  induction text generalizing held with
  | nil => simp [alphanumericPieces]
  | cons c rest ih =>
    obtain ⟨first, later⟩ := List.forall_mem_cons.mp inside
    rw [alphanumericPieces]
    split
    · rw [ih later]
      simp
    · rename_i separates
      have line : c = '_' := by simpa [isWordChar, separates] using first
      have pieces := alphanumericPieces_ne_nil [] rest
      rw [List.intercalate_cons_of_ne_nil pieces, ih later, line]
      simp

private theorem ne_nil_of_mem_alphanumericPieces {held text piece : List Char}
    (starts : held = [] → text ≠ [] ∧ text.head? ≠ some '_') (ends : text.getLast? ≠ some '_')
    (single : NeverDoubled text) (inside : ∀ c ∈ text, isWordChar c = true)
    (cut : piece ∈ alphanumericPieces held text) : piece ≠ [] := by
  induction text generalizing held with
  | nil =>
    rw [List.mem_singleton.mp cut, ne_eq, List.reverse_eq_nil_iff]
    exact fun empty => (starts empty).1 rfl
  | cons c rest ih =>
    obtain ⟨first, later⟩ := List.forall_mem_cons.mp inside
    obtain ⟨apart, single⟩ := List.isChain_cons.mp single
    have ends' : rest.getLast? ≠ some '_' := by
      cases rest with
      | nil => simp
      | cons next rest => simpa using ends
    rw [alphanumericPieces] at cut
    split at cut
    · exact ih (fun empty => by cases empty) ends' single later cut
    · rename_i separates
      have line : c = '_' := by simpa [isWordChar, separates] using first
      obtain rfl | cut := List.mem_cons.mp cut
      · rw [ne_eq, List.reverse_eq_nil_iff]
        intro empty
        exact (starts empty).2 (by rw [line, List.head?_cons])
      · refine ih (fun _ => ⟨?_, ?_⟩) ends' single later cut
        · rintro rfl
          exact ends (by rw [line, List.getLast?_singleton])
        · intro next
          exact apart '_' next line rfl

private theorem lowercaseWord_of_settled {word : List Char} (settled : ∀ c ∈ word, IsSettled c) :
    lowercaseWord word = word := by
  have sigma : isUppercase 'Σ' = true := by decide +kernel
  fun_induction lowercaseWord word with
  | case1 => rfl
  | case2 =>
    have notUpper := (settled 'Σ' List.mem_cons_self).notUpper
    rw [sigma] at notUpper
    cases notUpper
  | case3 c => exact (settled c List.mem_cons_self).lower
  | case4 c rest _ ih =>
    obtain ⟨first, later⟩ := List.forall_mem_cons.mp settled
    rw [first.lower, ih later]
    rfl

end Text

theorem snakeWords_of_settled {text : List Char} (starts : text.head? ≠ some '_')
    (ends : text.getLast? ≠ some '_') (single : NeverDoubled text)
    (inside : ∀ c ∈ text, isWordChar c = true) (settled : ∀ c ∈ text, IsSettled c) :
    snakeWords text = text := by
  by_cases empty : text = []
  · rw [empty]
    rfl
  · have kept : ∀ piece ∈ alphanumericPieces [] text, ∀ c ∈ piece, IsSettled c := by
      intro piece cut c member
      obtain none | held := mem_of_mem_alphanumericPieces cut member
      · cases none
      · exact settled c held
    have cut : words text = alphanumericPieces [] text := by
      have whole : ∀ piece ∈ alphanumericPieces [] text,
          splitAtCase .boundary [] piece = [piece] := by
        intro piece cut
        apply splitAtCase_of_notUpper
        · exact ne_nil_of_mem_alphanumericPieces (fun _ => ⟨empty, starts⟩) ends single inside cut
        · exact fun c member => (kept piece cut c member).notUpper
      rw [words, List.flatMap_congr whole]
      simp
    have lower : (alphanumericPieces [] text).map lowercaseWord = alphanumericPieces [] text := by
      rw [List.map_congr_left fun piece cut => lowercaseWord_of_settled (kept piece cut)]
      simp
    rw [snakeWords, cut, lower, intercalate_alphanumericPieces inside]
    rfl

private theorem head?_dropWhile_underscore (text : List Char) :
    (text.dropWhile (· == '_')).head? ≠ some '_' := by
  intro line
  have stops := List.head?_dropWhile_not (· == '_') text
  rw [line] at stops
  cases stops

private theorem reverse_takeWhile_underscore (text : List Char) :
    (text.takeWhile (· == '_')).reverse = text.takeWhile (· == '_') := by
  rw [List.eq_replicate_of_mem fun _ => eq_underscore_of_mem_takeWhile, List.reverse_replicate]

/-- A run is what stands between its leading and its trailing underscores, with them around it. -/
theorem exists_core (run : List Char) :
    ∃ lead core trail, (∀ c ∈ lead, c = '_') ∧ (∀ c ∈ trail, c = '_') ∧
      run = lead ++ core ++ trail ∧ core.head? ≠ some '_' ∧ core.getLast? ≠ some '_' ∧
      snakeRun run = lead ++ snakeWords core ++ trail := by
  have body : (run.dropWhile (· == '_')).reverse.takeWhile (· == '_') ++
      (run.dropWhile (· == '_')).reverse.dropWhile (· == '_') =
      (run.dropWhile (· == '_')).reverse := List.takeWhile_append_dropWhile
  have split : run.dropWhile (· == '_') =
      ((run.dropWhile (· == '_')).reverse.dropWhile (· == '_')).reverse ++
        (run.dropWhile (· == '_')).reverse.takeWhile (· == '_') := by
    rw [← List.reverse_inj, List.reverse_append, List.reverse_reverse,
      reverse_takeWhile_underscore, body]
  refine ⟨_, _, _, fun _ => eq_underscore_of_mem_takeWhile,
    fun _ => eq_underscore_of_mem_takeWhile, ?_, ?_, ?_, rfl⟩
  · rw [List.append_assoc, ← split, List.takeWhile_append_dropWhile]
  · intro line
    apply head?_dropWhile_underscore run
    rw [split, List.head?_append, line]
    rfl
  · rw [List.getLast?_reverse]
    exact head?_dropWhile_underscore _

theorem snakeRun_of_settled {run : List Char} (gapless : IsGapless run)
    (inside : ∀ c ∈ run, isWordChar c = true) (settled : ∀ c ∈ run, IsSettled c) :
    snakeRun run = run := by
  obtain ⟨lead, core, trail, -, -, split, starts, ends, snake⟩ := exists_core run
  have part : core <:+: run := ⟨lead, trail, split.symm⟩
  have kept : snakeWords core = core :=
    snakeWords_of_settled starts ends (gapless core part starts ends)
      (fun c member => inside c (part.subset member))
      (fun c member => settled c (part.subset member))
  rw [snake, kept, split]

private theorem snakeRun_held {held text : List Char} (gapless : IsGapless (held.reverse ++ text))
    (inside : ∀ c ∈ held, isWordChar c = true) (settled : ∀ c ∈ held, IsSettled c) :
    snakeRun held.reverse = held.reverse := by
  apply snakeRun_of_settled (gapless.within (List.prefix_append _ _).isInfix)
  · simpa using inside
  · simpa using settled

theorem mapRuns_of_settled {held text : List Char} (gapless : IsGapless (held.reverse ++ text))
    (inside : ∀ c ∈ held, isWordChar c = true) (settledHeld : ∀ c ∈ held, IsSettled c)
    (settled : ∀ c ∈ text, IsSettled c) : mapRuns snakeRun held text = held.reverse ++ text := by
  induction text generalizing held with
  | nil => rw [mapRuns, snakeRun_held gapless inside settledHeld, List.append_nil]
  | cons c text ih =>
    obtain ⟨first, later⟩ := List.forall_mem_cons.mp settled
    rw [mapRuns]
    split
    · rename_i word
      have extended : (c :: held).reverse ++ text = held.reverse ++ c :: text := by simp
      rw [ih, extended]
      · rwa [extended]
      · exact List.forall_mem_cons.mpr ⟨word, inside⟩
      · exact List.forall_mem_cons.mpr ⟨first, settledHeld⟩
      · exact later
    · -- The combining dot of a dotted i ends a run where there was none before.
      have rest : mapRuns snakeRun [] text = text := by
        apply ih
        · exact gapless.within ⟨held.reverse ++ [c], [], by simp⟩
        · exact fun _ none => by cases none
        · exact fun _ none => by cases none
        · exact later
      rw [snakeRun_held gapless inside settledHeld, rest]

/-- A converted run is kept, also where a lowercase form has cut it into several. -/
theorem mapRuns_snakeRun {run : List Char} (settles : ∀ c ∈ run, Settles c) :
    mapRuns snakeRun [] (snakeRun run) = snakeRun run :=
  mapRuns_of_settled (isGapless_snakeRun run) (by simp) (by simp)
    fun _ => isSettled_of_mem_snakeRun settles

theorem mapRuns_mapRuns {held text : List Char} (settlesHeld : ∀ c ∈ held, Settles c)
    (settles : ∀ c ∈ text, Settles c) :
    mapRuns snakeRun [] (mapRuns snakeRun held text) = mapRuns snakeRun held text := by
  have run : mapRuns snakeRun [] (snakeRun held.reverse) = snakeRun held.reverse :=
    mapRuns_snakeRun fun c member => settlesHeld c (List.mem_reverse.mp member)
  induction text generalizing held with
  | nil => exact run
  | cons c text ih =>
    obtain ⟨first, later⟩ := List.forall_mem_cons.mp settles
    rw [mapRuns]
    split
    · have extended := List.forall_mem_cons.mpr ⟨first, settlesHeld⟩
      apply ih extended later
      exact mapRuns_snakeRun fun d member => extended d (List.mem_reverse.mp member)
    · rename_i outside
      rw [mapRuns_append_cons _ _ _ _ (Bool.eq_false_iff.mpr outside), run]
      rw [ih (by simp) later (mapRuns_snakeRun (by simp))]

/-- A key whose characters are not uppercase once they are lowercased. -/
def IsSettling (key : String) : Prop :=
  ∀ c ∈ key.toList, Settles c

instance (key : String) : Decidable (IsSettling key) :=
  decidable_of_iff (key.toList.all fun c => decide (Settles c)) (by simp [IsSettling])

/-- Snake case changes nothing in snake case. -/
theorem snakeKey_snakeKey {key : String} (settles : IsSettling key) :
    snakeKey (snakeKey key) = snakeKey key := by
  have same : snakeChars (snakeChars key.toList) = snakeChars key.toList :=
    mapRuns_mapRuns (by simp) settles
  rw [snakeKey, snakeKey, String.toList_ofList, same]

/-- A capital letter without a small one starts a new word in the second pass. -/
example : snakeKey (snakeKey "A𝐀") ≠ snakeKey "A𝐀" := by decide +kernel

end UniversalQuery
