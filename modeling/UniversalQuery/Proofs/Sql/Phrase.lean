import UniversalQuery.Proofs.Sql.PredicateReader

set_option autoImplicit false

/-! Phrases: token lists in which parentheses stand wherever precedence asks for them. A phrase is
read as its formula, up to how operands of one operator are grouped, and its text is cut into its
tokens. -/

namespace UniversalQuery.Sql

open Formula

variable {α β : Type}

/-- A token list with its formula and the loosest operator outside its parentheses. -/
inductive Phrase : BooleanOperator → List (Token α) → Formula α → Prop where
  | leaf {comparison : α} : Phrase .and [.leaf comparison] (.leaf comparison)
  | parenthesized {operator : BooleanOperator} {tokens : List (Token α)} {formula : Formula α} :
      Phrase operator tokens formula → Phrase .and (.opening :: (tokens ++ [.closing])) formula
  | loosened {tokens : List (Token α)} {formula : Formula α} :
      Phrase .and tokens formula → Phrase .or tokens formula
  | joined {operator : BooleanOperator} {left right : List (Token α)} {first second : Formula α} :
      Phrase operator left first → Phrase operator right second →
      Phrase operator (left ++ .connective operator :: right) (.join operator [first, second])

/-! ## Reading -/

/-- Tokens that add factors to the present alternative. -/
def AddsFactors (tokens : List (Token α)) (formula : Formula α) : Prop :=
  ∃ factors, Agrees (.join .and factors) formula ∧ ∀ outer level rest,
    readOperand outer level (tokens ++ rest) =
      readOperator outer ⟨level.alternatives, level.factors ++ factors⟩ rest

/-- Tokens that may end alternatives, read where an alternative starts. -/
def AddsAlternatives (tokens : List (Token α)) (formula : Formula α) : Prop :=
  ∃ added : Level α, Agrees added.formula formula ∧ ∀ outer alternatives rest,
    readOperand outer ⟨alternatives, []⟩ (tokens ++ rest) =
      readOperator outer ⟨alternatives ++ added.alternatives, added.factors⟩ rest

/-- What reading a phrase adds depends on its loosest operator. -/
def Adds : BooleanOperator → List (Token α) → Formula α → Prop
  | .and => AddsFactors
  | .or => AddsAlternatives

theorem AddsFactors.leaf (comparison : α) :
    AddsFactors [.leaf comparison] (.leaf comparison) := by
  refine ⟨[.leaf comparison], Agrees.join_singleton .and _, fun outer level rest => ?_⟩
  rw [List.singleton_append, readOperand]

theorem AddsFactors.loosened {tokens : List (Token α)} {formula : Formula α}
    (adds : AddsFactors tokens formula) : AddsAlternatives tokens formula := by
  obtain ⟨factors, agrees, reads⟩ := adds
  refine ⟨⟨[], factors⟩, (Agrees.join_singleton .or _).trans agrees, ?_⟩
  intro outer alternatives rest
  simp [reads]

theorem Adds.alternatives {operator : BooleanOperator} {tokens : List (Token α)}
    {formula : Formula α} (adds : Adds operator tokens formula) :
    AddsAlternatives tokens formula := by
  cases operator with
  | and => exact AddsFactors.loosened adds
  | or => exact adds

/-- A level that is closed is one factor of the level around it. -/
theorem AddsAlternatives.parenthesized {tokens : List (Token α)} {formula : Formula α}
    (adds : AddsAlternatives tokens formula) :
    AddsFactors (.opening :: (tokens ++ [.closing])) formula := by
  obtain ⟨added, agrees, reads⟩ := adds
  refine ⟨[added.formula], (Agrees.join_singleton .and _).trans agrees, ?_⟩
  intro outer level rest
  rw [List.cons_append, List.append_assoc, List.singleton_append, readOperand, reads, readOperator]
  rfl

theorem AddsFactors.joined {left right : List (Token α)} {first second : Formula α}
    (before : AddsFactors left first) (after : AddsFactors right second) :
    AddsFactors (left ++ .connective .and :: right) (.join .and [first, second]) := by
  obtain ⟨lefts, agreesLeft, readsLeft⟩ := before
  obtain ⟨rights, agreesRight, readsRight⟩ := after
  refine ⟨lefts ++ rights, ?_, ?_⟩
  · exact (Agrees.join_append .and lefts rights).symm.trans
      (Agrees.join_pair .and agreesLeft agreesRight)
  · intro outer level rest
    rw [List.append_assoc, List.cons_append, readsLeft, readOperator, readsRight,
      List.append_assoc]

theorem AddsAlternatives.joined {left right : List (Token α)} {first second : Formula α}
    (before : AddsAlternatives left first) (after : AddsAlternatives right second) :
    AddsAlternatives (left ++ .connective .or :: right) (.join .or [first, second]) := by
  obtain ⟨lefts, agreesLeft, readsLeft⟩ := before
  obtain ⟨rights, agreesRight, readsRight⟩ := after
  refine ⟨⟨lefts.alternatives ++ [lefts.factors] ++ rights.alternatives, rights.factors⟩, ?_, ?_⟩
  · have pair := (Agrees.join_append .or _ _).symm.trans
      (Agrees.join_pair .or agreesLeft agreesRight)
    simpa [Level.formula] using pair
  · intro outer alternatives rest
    rw [List.append_assoc, List.cons_append, readsLeft, readOperator, readsRight]
    simp only [List.append_assoc]

theorem Phrase.adds {operator : BooleanOperator} {tokens : List (Token α)} {formula : Formula α}
    (phrase : Phrase operator tokens formula) : Adds operator tokens formula := by
  induction phrase with
  | leaf => exact AddsFactors.leaf _
  | parenthesized _ ih => exact ih.alternatives.parenthesized
  | loosened _ ih => exact AddsFactors.loosened ih
  | @joined operator _ _ _ _ _ _ leftIH rightIH =>
    cases operator with
    | and => exact AddsFactors.joined leftIH rightIH
    | or => exact AddsAlternatives.joined leftIH rightIH

theorem Phrase.tokens_ne_nil {operator : BooleanOperator} {tokens : List (Token α)}
    {formula : Formula α} (phrase : Phrase operator tokens formula) : tokens ≠ [] := by
  induction phrase with
  | leaf => exact List.cons_ne_nil _ _
  | parenthesized => exact List.cons_ne_nil _ _
  | loosened _ ih => exact ih
  | joined => simp

/-- A phrase is read as a formula that agrees with its own. -/
theorem Phrase.reads {operator : BooleanOperator} {tokens : List (Token α)} {formula : Formula α}
    (phrase : Phrase operator tokens formula) :
    ∃ reading, readTokens tokens = some reading ∧ Agrees reading formula := by
  obtain ⟨added, agrees, reads⟩ := phrase.adds.alternatives
  refine ⟨added.formula, ?_, agrees⟩
  have whole := reads [] [] []
  rw [List.append_nil, List.nil_append, readOperator] at whole
  cases tokens with
  | nil => exact absurd rfl phrase.tokens_ne_nil
  | cons token rest => exact whole

/-! ## Other leaves -/

def Level.map (convert : α → β) (level : Level α) : Level β :=
  ⟨level.alternatives.map (List.map (Formula.map convert)), level.factors.map (Formula.map convert)⟩

theorem Level.formula_map (convert : α → β) (level : Level α) :
    (level.map convert).formula = level.formula.map convert := by
  simp [Level.formula, Level.map, Function.comp_def]

mutual

/-- Reading does not look at the leaves. -/
theorem readOperand_map (convert : α → β) (outer : List (Level α)) (level : Level α) :
    (tokens : List (Token α)) →
    readOperand (outer.map (Level.map convert)) (level.map convert)
      (tokens.map (Token.map convert)) =
        (readOperand outer level tokens).map (Formula.map convert)
  | [] => by simp [readOperand]
  | .leaf comparison :: rest => by
    have tail := readOperator_map convert outer
      ⟨level.alternatives, level.factors ++ [.leaf comparison]⟩ rest
    simpa [readOperand, Token.map, Level.map] using tail
  | .opening :: rest => by
    have tail := readOperand_map convert (level :: outer) ⟨[], []⟩ rest
    simpa [readOperand, Token.map, Level.map] using tail
  | .closing :: rest => by simp [readOperand, Token.map]
  | .connective operator :: rest => by simp [readOperand, Token.map]

theorem readOperator_map (convert : α → β) (outer : List (Level α)) (level : Level α) :
    (tokens : List (Token α)) →
    readOperator (outer.map (Level.map convert)) (level.map convert)
      (tokens.map (Token.map convert)) =
        (readOperator outer level tokens).map (Formula.map convert)
  | [] => by
    cases outer with
    | nil => simp [readOperator, Level.formula_map]
    | cons around outer => simp [readOperator]
  | .connective .and :: rest => by
    simpa [readOperator, Token.map] using readOperand_map convert outer level rest
  | .connective .or :: rest => by
    have tail := readOperand_map convert outer ⟨level.alternatives ++ [level.factors], []⟩ rest
    simpa [readOperator, Token.map, Level.map] using tail
  | .closing :: rest => by
    cases outer with
    | nil => simp [readOperator, Token.map]
    | cons around outer =>
      have tail := readOperator_map convert outer
        ⟨around.alternatives, around.factors ++ [level.formula]⟩ rest
      simp only [List.map_cons, Token.map, readOperator, Level.formula_map]
      simpa [Level.map] using tail
  | .leaf comparison :: rest => by simp [readOperator, Token.map]
  | .opening :: rest => by simp [readOperator, Token.map]

end

theorem readTokens_map (convert : α → β) (tokens : List (Token α)) :
    readTokens (tokens.map (Token.map convert)) =
      (readTokens tokens).map (Formula.map convert) := by
  cases tokens with
  | nil => simp [readTokens]
  | cons token rest => exact readOperand_map convert [] ⟨[], []⟩ (token :: rest)

end UniversalQuery.Sql
