import Mathlib.Data.List.DropRight
import UniversalQuery.Proofs.SnakeRuns

set_option autoImplicit false

/-! What snake case keeps of a key. Apart from underscores and the case of letters the text stays as
it is, and the underscores at the two ends of a run stay as well. -/

namespace UniversalQuery

open Text

/-! ## Texts without underscores -/

def withoutUnderscores (text : List Char) : List Char :=
  text.filter (· != '_')

@[simp] theorem withoutUnderscores_append (left right : List Char) :
    withoutUnderscores (left ++ right) = withoutUnderscores left ++ withoutUnderscores right :=
  List.filter_append left right

@[simp] theorem withoutUnderscores_underscore (text : List Char) :
    withoutUnderscores ('_' :: text) = withoutUnderscores text := rfl

private theorem withoutUnderscores_of_not_mem {text : List Char} (plain : '_' ∉ text) :
    withoutUnderscores text = text := by
  apply List.filter_eq_self.mpr
  intro c member
  rw [bne_iff_ne]
  rintro rfl
  exact plain member

private theorem withoutUnderscores_intercalate {pieces : List (List Char)}
    (plain : ∀ piece ∈ pieces, '_' ∉ piece) :
    withoutUnderscores (['_'].intercalate pieces) = pieces.flatten := by
  induction pieces with
  | nil => rfl
  | cons piece rest ih =>
    obtain ⟨first, later⟩ := List.forall_mem_cons.mp plain
    by_cases last : rest = []
    · simp [last, withoutUnderscores_of_not_mem first]
    · simp [List.intercalate_cons_of_ne_nil last, withoutUnderscores_of_not_mem first, ih later]

/-- The underscores of a run are what is not alphanumeric in it. -/
theorem filter_isAlphanumeric {text : List Char} (inside : ∀ c ∈ text, isWordChar c = true) :
    text.filter isAlphanumeric = withoutUnderscores text := by
  apply List.filter_congr
  intro c member
  by_cases line : c = '_'
  · rw [line, isAlphanumeric_underscore]
    rfl
  · have letter : isAlphanumeric c = true := by simpa [isWordChar, line] using inside c member
    rw [letter, bne_iff_ne.mpr line]

/-! ## Letters -/

/-- A text with the final sigma written like any other small sigma. -/
def oneSigma (text : List Char) : List Char :=
  text.map fun c => if c = 'ς' then 'σ' else c

@[simp] theorem oneSigma_append (left right : List Char) :
    oneSigma (left ++ right) = oneSigma left ++ oneSigma right :=
  List.map_append

/-- Without underscores a text is the lowercase form of another one, character by character. -/
def KeepsLetters (text form : List Char) : Prop :=
  oneSigma (withoutUnderscores form) = oneSigma ((withoutUnderscores text).flatMap lowercase)

theorem KeepsLetters.append {left right leftForm rightForm : List Char}
    (first : KeepsLetters left leftForm) (second : KeepsLetters right rightForm) :
    KeepsLetters (left ++ right) (leftForm ++ rightForm) := by
  unfold KeepsLetters at *
  simp [first, second]

/-- What is neither a letter nor a digit is its own lowercase form. -/
theorem keepsLetters_self {text : List Char} (marks : ∀ c ∈ text, isAlphanumeric c = false) :
    KeepsLetters text text := by
  have alone : ∀ c ∈ withoutUnderscores text, lowercase c = [c] := by
    intro c member
    exact lowercase_of_not_isAlphanumeric (marks c (List.mem_of_mem_filter member))
  rw [KeepsLetters, List.flatMap_congr alone, List.flatMap_singleton']

namespace Text

/-- Lowercasing a word is lowercasing its characters, but for a sigma at its end. -/
theorem oneSigma_lowercaseWord (word : List Char) :
    oneSigma (lowercaseWord word) = oneSigma (word.flatMap lowercase) := by
  have sigma : lowercase 'Σ' = ['σ'] := by decide +kernel
  fun_induction lowercaseWord word with
  | case1 => rfl
  | case2 =>
    rw [List.flatMap_singleton, sigma]
    rfl
  | case3 c other => rw [List.flatMap_singleton]
  | case4 c rest _ ih => rw [List.flatMap_cons, oneSigma_append, oneSigma_append, ih]

/-- Cutting at case boundaries loses nothing. -/
theorem flatten_splitAtCase {mode : CaseMode} {held text : List Char}
    (empty : text = [] → held = []) :
    (splitAtCase mode held text).flatten = held.reverse ++ text := by
  fun_induction splitAtCase mode held text with
  | case1 => simp [empty rfl]
  | case2 => simp
  | case3 mode held c next rest _ ih => simp [ih]
  | case4 mode held c next rest _ _ ih => simp [ih]
  | case5 mode held c next rest _ _ ih => simp [ih]

private theorem flatten_alphanumericPieces (held text : List Char) :
    (alphanumericPieces held text).flatten = held.reverse ++ text.filter isAlphanumeric := by
  induction text generalizing held with
  | nil => simp [alphanumericPieces]
  | cons c rest ih => by_cases inside : isAlphanumeric c <;> simp [alphanumericPieces, inside, ih]

/-- The words of a text are its letters and digits, each once and in their order. -/
theorem flatten_words (text : List Char) : (words text).flatten = text.filter isAlphanumeric := by
  have whole : ∀ piece : List Char, (splitAtCase .boundary [] piece).flatten = piece :=
    fun piece => flatten_splitAtCase fun _ => rfl
  rw [words, List.flatMap_def, List.flatten_flatten, List.map_map]
  simp [Function.comp_def, whole, flatten_alphanumericPieces]

private theorem oneSigma_flatten_map_lowercaseWord (pieces : List (List Char)) :
    oneSigma (pieces.map lowercaseWord).flatten = oneSigma (pieces.flatten.flatMap lowercase) := by
  induction pieces with
  | nil => rfl
  | cons piece rest ih => simp [oneSigma_lowercaseWord, ih]

end Text

private theorem keepsLetters_snakeWords {text : List Char}
    (inside : ∀ c ∈ text, isWordChar c = true) :
    KeepsLetters text (snakeWords text) := by
  have plain : ∀ piece ∈ (words text).map lowercaseWord, '_' ∉ piece :=
    fun _ listed => (solid_of_mem_lowercased listed).2
  rw [KeepsLetters, snakeWords, withoutUnderscores_intercalate plain,
    oneSigma_flatten_map_lowercaseWord, flatten_words, filter_isAlphanumeric inside]

private theorem keepsLetters_line {text : List Char} (line : ∀ c ∈ text, c = '_') :
    KeepsLetters text text := by
  apply keepsLetters_self
  intro c member
  rw [line c member, isAlphanumeric_underscore]

private theorem keepsLetters_snakeRun {run : List Char} (inside : ∀ c ∈ run, isWordChar c = true) :
    KeepsLetters run (snakeRun run) := by
  obtain ⟨lead, core, trail, before, after, split, -, -, snake⟩ := exists_core run
  have part : core <:+: run := ⟨lead, trail, split.symm⟩
  have middle := keepsLetters_snakeWords fun c member => inside c (part.subset member)
  rw [snake, split]
  exact ((keepsLetters_line before).append middle).append (keepsLetters_line after)

/-- By induction on what follows the current run: the run is converted by itself, and the character
that ends it is its own lowercase form. -/
theorem keepsLetters_mapRuns {held text : List Char} (inside : ∀ c ∈ held, isWordChar c = true) :
    KeepsLetters (held.reverse ++ text) (mapRuns snakeRun held text) := by
  induction text generalizing held with
  | nil =>
    rw [mapRuns, List.append_nil]
    exact keepsLetters_snakeRun (by simpa using inside)
  | cons c rest ih =>
    rw [mapRuns]
    split
    · rename_i word
      have extended : ∀ d ∈ c :: held, isWordChar d = true :=
        List.forall_mem_cons.mpr ⟨word, inside⟩
      simpa using ih extended
    · rename_i outside
      have other := (isWordChar_eq_false_iff.mp (Bool.eq_false_iff.mpr outside)).1
      have run : KeepsLetters held.reverse (snakeRun held.reverse) :=
        keepsLetters_snakeRun (by simpa using inside)
      have mark : KeepsLetters [c] [c] := keepsLetters_self (by simpa using other)
      have later : KeepsLetters rest (mapRuns snakeRun [] rest) := ih (by simp)
      exact run.append (mark.append later)

theorem keepsLetters_snakeKey (key : String) : KeepsLetters key.toList (snakeKey key).toList := by
  rw [snakeKey, String.toList_ofList]
  exact keepsLetters_mapRuns (by simp)

/-! ## Underscores at the ends of a run -/

/-- What stands between the underscores at the two ends of a text. -/
def trimmed (text : List Char) : List Char :=
  (text.dropWhile (· == '_')).rdropWhile (· == '_')

structure IsTrimmed (text : List Char) : Prop where
  nonempty : text ≠ []
  starts : text.head? ≠ some '_'
  ends : text.getLast? ≠ some '_'

theorem IsTrimmed.reverse {text : List Char} (solid : IsTrimmed text) : IsTrimmed text.reverse where
  nonempty := by simpa using solid.nonempty
  starts := by simpa using solid.ends
  ends := by simpa using solid.starts

section Enclosed

variable {lead inner trail : List Char}

theorem takeWhile_enclosed (before : ∀ c ∈ lead, c = '_') (solid : IsTrimmed inner) :
    (lead ++ inner ++ trail).takeWhile (· == '_') = lead := by
  obtain ⟨first, letters, rfl⟩ := List.exists_cons_of_ne_nil solid.nonempty
  have letter : first ≠ '_' := by simpa using solid.starts
  rw [List.append_assoc, List.takeWhile_append_of_pos (by simpa using before)]
  simp [letter]

theorem dropWhile_enclosed (before : ∀ c ∈ lead, c = '_') (solid : IsTrimmed inner) :
    (lead ++ inner ++ trail).dropWhile (· == '_') = inner ++ trail := by
  obtain ⟨first, letters, rfl⟩ := List.exists_cons_of_ne_nil solid.nonempty
  have letter : first ≠ '_' := by simpa using solid.starts
  rw [List.append_assoc, List.dropWhile_append_of_pos (by simpa using before)]
  simp [letter]

private theorem rtakeWhile_enclosed (solid : IsTrimmed inner) (after : ∀ c ∈ trail, c = '_') :
    (lead ++ inner ++ trail).rtakeWhile (· == '_') = trail := by
  have mirrored : ∀ c ∈ trail.reverse, c = '_' := by simpa using after
  rw [List.rtakeWhile, List.reverse_append, List.reverse_append, ← List.append_assoc,
    takeWhile_enclosed mirrored solid.reverse, List.reverse_reverse]

private theorem rdropWhile_enclosed (solid : IsTrimmed inner) (after : ∀ c ∈ trail, c = '_') :
    (lead ++ inner ++ trail).rdropWhile (· == '_') = lead ++ inner := by
  have mirrored : ∀ c ∈ trail.reverse, c = '_' := by simpa using after
  rw [List.rdropWhile, List.reverse_append, List.reverse_append, ← List.append_assoc,
    dropWhile_enclosed mirrored solid.reverse, List.reverse_append, List.reverse_reverse,
    List.reverse_reverse]

private theorem trimmed_enclosed (before : ∀ c ∈ lead, c = '_') (solid : IsTrimmed inner)
    (after : ∀ c ∈ trail, c = '_') : trimmed (lead ++ inner ++ trail) = inner := by
  have rest : ([] ++ inner ++ trail).rdropWhile (· == '_') = [] ++ inner :=
    rdropWhile_enclosed solid after
  rw [trimmed, dropWhile_enclosed before solid]
  exact rest

end Enclosed

/-- How a run is kept: with the same underscores at its two ends, as it is if there is nothing else
in it, and with single underscores only in the rest. -/
structure KeepsUnderscores (run form : List Char) : Prop where
  leading : form.takeWhile (· == '_') = run.takeWhile (· == '_')
  trailing : form.rtakeWhile (· == '_') = run.rtakeWhile (· == '_')
  line : (∀ c ∈ run, c = '_') → form = run
  single : NeverDoubled (trimmed form)

private theorem keepsUnderscores_line {line : List Char} (only : ∀ c ∈ line, c = '_') :
    KeepsUnderscores line line := by
  have none : trimmed line = [] := by
    rw [trimmed, List.dropWhile_eq_nil_iff.mpr (by simpa using only)]
    rfl
  refine ⟨rfl, rfl, fun _ => rfl, ?_⟩
  rw [none]
  exact .nil

private theorem keepsUnderscores_enclosed {lead core inner trail : List Char}
    (before : ∀ c ∈ lead, c = '_') (after : ∀ c ∈ trail, c = '_') (source : IsTrimmed core)
    (target : IsTrimmed inner) (single : NeverDoubled inner) :
    KeepsUnderscores (lead ++ core ++ trail) (lead ++ inner ++ trail) where
  leading := by rw [takeWhile_enclosed before source, takeWhile_enclosed before target]
  trailing := by rw [rtakeWhile_enclosed source after, rtakeWhile_enclosed target after]
  line only := by
    obtain ⟨first, letters, rfl⟩ := List.exists_cons_of_ne_nil source.nonempty
    have same : first = '_' := only first (by simp)
    exact absurd (congrArg some same) source.starts
  single := by rwa [trimmed_enclosed before target after]

private theorem isTrimmed_intercalate {pieces : List (List Char)} (nonempty : pieces ≠ [])
    (each : ∀ piece ∈ pieces, piece ≠ [] ∧ '_' ∉ piece) :
    IsTrimmed (['_'].intercalate pieces) := by
  induction pieces with
  | nil => exact absurd rfl nonempty
  | cons piece rest ih =>
    obtain ⟨⟨letters, plain⟩, later⟩ := List.forall_mem_cons.mp each
    have starts : piece.head? ≠ some '_' := fun line => plain (List.mem_of_mem_head? line)
    by_cases last : rest = []
    · have ends : piece.getLast? ≠ some '_' := fun line => plain (List.mem_of_mem_getLast? line)
      rw [last, List.intercalate_singleton]
      exact ⟨letters, starts, ends⟩
    · obtain ⟨more, -, ends⟩ := ih last later
      rw [List.intercalate_cons_of_ne_nil last, List.append_assoc]
      refine ⟨by simp, ?_, ?_⟩
      · rwa [List.head?_append_of_ne_nil _ letters]
      · rwa [List.getLast?_append_of_ne_nil _ (by simp), List.getLast?_append_of_ne_nil _ more]

private theorem isTrimmed_snakeWords {core : List Char} (inside : ∀ c ∈ core, isWordChar c = true)
    (letter : ∃ c ∈ core, c ≠ '_') : IsTrimmed (snakeWords core) := by
  apply isTrimmed_intercalate
  · intro none
    have empty : words core = [] := by simpa using none
    have kept : withoutUnderscores core = [] := by
      rw [← filter_isAlphanumeric inside, ← flatten_words, empty, List.flatten_nil]
    obtain ⟨c, member, other⟩ := letter
    have held : c ∈ withoutUnderscores core := List.mem_filter.mpr ⟨member, by simpa using other⟩
    rw [kept] at held
    cases held
  · exact fun _ => solid_of_mem_lowercased

theorem keepsUnderscores_snakeRun {run : List Char} (inside : ∀ c ∈ run, isWordChar c = true) :
    KeepsUnderscores run (snakeRun run) := by
  obtain ⟨lead, core, trail, before, after, split, starts, ends, snake⟩ := exists_core run
  have part : core <:+: run := ⟨lead, trail, split.symm⟩
  rw [snake, split]
  by_cases only : core = []
  · have none : snakeWords [] = [] := rfl
    rw [only, none, List.append_nil]
    exact keepsUnderscores_line (List.forall_mem_append.mpr ⟨before, after⟩)
  · obtain ⟨first, letters, rfl⟩ := List.exists_cons_of_ne_nil only
    have letter : first ≠ '_' := by simpa using starts
    have target : IsTrimmed (snakeWords (first :: letters)) :=
      isTrimmed_snakeWords (fun c member => inside c (part.subset member))
        ⟨first, List.mem_cons_self, letter⟩
    exact keepsUnderscores_enclosed before after ⟨only, starts, ends⟩ target
      (neverDoubled_snakeWords _)

/-! ## Runs of a key -/

/-- A run of word characters with no other one right before or right after it. -/
structure IsMaximalRun (left run right : List Char) : Prop where
  inside : ∀ c ∈ run, isWordChar c = true
  before : ∀ c ∈ left.getLast?, isWordChar c = false
  after : ∀ c ∈ right.head?, isWordChar c = false

private theorem mapRuns_of_inside {held run : List Char} (inside : ∀ c ∈ run, isWordChar c = true) :
    mapRuns snakeRun held run = snakeRun (held.reverse ++ run) := by
  induction run generalizing held with
  | nil => rw [mapRuns, List.append_nil]
  | cons c rest ih =>
    obtain ⟨first, later⟩ := List.forall_mem_cons.mp inside
    rw [mapRuns, if_pos first, ih later]
    simp

theorem snakeChars_of_inside {run : List Char} (inside : ∀ c ∈ run, isWordChar c = true) :
    snakeChars run = snakeRun run :=
  mapRuns_of_inside inside

/-- What stands before a boundary between runs and what follows it are converted apart. -/
theorem snakeChars_append_of_before {left rest : List Char}
    (before : ∀ c ∈ left.getLast?, isWordChar c = false) :
    snakeChars (left ++ rest) = snakeChars left ++ snakeChars rest := by
  obtain rfl | ⟨front, c, rfl⟩ := List.eq_nil_or_concat' left
  · rfl
  · have outside : isWordChar c = false := before c (by simp)
    have alone := snakeChars_append_cons front [] outside
    rw [List.append_assoc, List.singleton_append, snakeChars_append_cons front rest outside, alone]
    simp

private theorem snakeChars_append_of_after {run right : List Char}
    (after : ∀ c ∈ right.head?, isWordChar c = false) :
    snakeChars (run ++ right) = snakeChars run ++ snakeChars right := by
  cases right with
  | nil => simp
  | cons c rest =>
    have outside : isWordChar c = false := after c rfl
    have alone : snakeChars (c :: rest) = c :: snakeChars rest :=
      snakeChars_append_cons [] rest outside
    rw [snakeChars_append_cons run rest outside, alone]

theorem IsMaximalRun.snakeChars_eq {left run right : List Char}
    (maximal : IsMaximalRun left run right) :
    snakeChars (left ++ run ++ right) = snakeChars left ++ snakeRun run ++ snakeChars right := by
  rw [snakeChars_append_of_after maximal.after, snakeChars_append_of_before maximal.before,
    snakeChars_of_inside maximal.inside]

/-- Snake case changes nothing but underscores and the case of letters. Without underscores, a key
in snake case is the lowercase form of the key, character by character, but for the form of sigma.
Every run of a key has its place in the result, with its own underscores at its ends and no two side
by side between them. -/
theorem snakeKey_keeps_letters_and_ends :
    (∀ key : String,
      oneSigma (withoutUnderscores (snakeKey key).toList) =
        oneSigma ((withoutUnderscores key.toList).flatMap lowercase)) ∧
    (∀ left run right : String, IsMaximalRun left.toList run.toList right.toList →
      snakeKey (left ++ run ++ right) = snakeKey left ++ snakeKey run ++ snakeKey right ∧
      KeepsUnderscores run.toList (snakeKey run).toList) := by
  refine ⟨keepsLetters_snakeKey, ?_⟩
  intro left run right maximal
  have alone := snakeChars_of_inside maximal.inside
  constructor
  · rw [← String.toList_inj]
    simpa [snakeKey, alone] using maximal.snakeChars_eq
  · rw [snakeKey, String.toList_ofList, alone]
    exact keepsUnderscores_snakeRun maximal.inside

theorem snakeKey_keeps_letters_and_ends_homeMail :
    IsMaximalRun "infoÉ.".toList "_homeE__MailΣ__".toList "-x".toList ∧
    snakeKey ("infoÉ." ++ "_homeE__MailΣ__" ++ "-x") =
      snakeKey "infoÉ." ++ snakeKey "_homeE__MailΣ__" ++ snakeKey "-x" ∧
    KeepsUnderscores "_homeE__MailΣ__".toList (snakeKey "_homeE__MailΣ__").toList ∧
    snakeKey "_homeE__MailΣ__" = "_home_e_mail_ς__" := by
  have inside : "_homeE__MailΣ__".toList.all isWordChar = true := by decide +kernel
  have marks : isWordChar '.' = false ∧ isWordChar '-' = false := by decide +kernel
  have maximal : IsMaximalRun "infoÉ.".toList "_homeE__MailΣ__".toList "-x".toList := by
    refine ⟨List.all_eq_true.mp inside, ?_, ?_⟩
    · simpa using marks.1
    · simpa using marks.2
  have converted : snakeKey "_homeE__MailΣ__" = "_home_e_mail_ς__" := by decide +kernel
  obtain ⟨place, ends⟩ := snakeKey_keeps_letters_and_ends.2 _ _ _ maximal
  exact ⟨maximal, place, ends, converted⟩

end UniversalQuery
