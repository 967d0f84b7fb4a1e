import Mathlib.Data.List.Forall2

set_option autoImplicit false

/-! Computations that may fail. How one ends says how its parts end. -/

namespace UniversalQuery

variable {α β ε : Type}

theorem exists_of_bind_eq_ok {computation : Except ε α} {next : α → Except ε β} {result : β}
    (succeeds : computation >>= next = .ok result) :
    ∃ value, computation = .ok value ∧ next value = .ok result := by
  cases computation with
  | error error => cases succeeds
  | ok value => exact ⟨value, rfl, succeeds⟩

theorem eq_or_exists_of_bind_eq_error {computation : Except ε α} {next : α → Except ε β}
    {error : ε} (fails : computation >>= next = .error error) :
    computation = .error error ∨ ∃ value, computation = .ok value ∧ next value = .error error := by
  cases computation with
  | error other =>
    cases fails
    exact .inl rfl
  | ok value => exact .inr ⟨value, rfl, fails⟩

theorem exists_of_map_eq_ok {computation : Except ε α} {convert : α → β} {result : β}
    (succeeds : computation.map convert = .ok result) :
    ∃ value, computation = .ok value ∧ convert value = result := by
  cases computation with
  | error error => cases succeeds
  | ok value => exact ⟨value, rfl, Except.ok.inj succeeds⟩

theorem eq_error_of_map_eq_error {computation : Except ε α} {convert : α → β} {error : ε}
    (fails : computation.map convert = .error error) : computation = .error error := by
  cases computation with
  | error other =>
    cases fails
    rfl
  | ok value => cases fails

theorem exists_of_mapError_eq_ok {δ : Type} {computation : Except ε α} {convert : ε → δ}
    {result : α} (succeeds : computation.mapError convert = .ok result) :
    computation = .ok result := by
  cases computation with
  | error error => cases succeeds
  | ok value =>
    cases succeeds
    rfl

theorem exists_of_mapError_eq_error {δ : Type} {computation : Except ε α} {convert : ε → δ}
    {error : δ} (fails : computation.mapError convert = .error error) :
    ∃ cause, computation = .error cause ∧ convert cause = error := by
  cases computation with
  | error cause => exact ⟨cause, rfl, Except.error.inj fails⟩
  | ok value => cases fails

/-- A computation that fails with what a check finds succeeds exactly if the check finds nothing. -/
theorem exists_eq_ok_iff {computation : Except ε α} {problem? : Option ε}
    (fails : ∀ error, computation = .error error ↔ problem? = some error) :
    (∃ result, computation = .ok result) ↔ problem? = none := by
  cases computation with
  | ok result =>
    refine iff_of_true ⟨result, rfl⟩ (Option.eq_none_iff_forall_ne_some.mpr fun error found => ?_)
    cases (fails error).mpr found
  | error error =>
    rw [(fails error).mp rfl]
    exact iff_of_false (fun ⟨_, succeeds⟩ => by cases succeeds) (Option.some_ne_none error)

theorem forall₂_of_mapM_eq_ok {convert : α → Except ε β} {items : List α} {results : List β}
    (succeeds : items.mapM convert = .ok results) :
    List.Forall₂ (fun item result => convert item = .ok result) items results := by
  induction items generalizing results with
  | nil =>
    cases succeeds
    exact .nil
  | cons item rest ih =>
    rw [List.mapM_cons] at succeeds
    obtain ⟨result, converted, tail⟩ := exists_of_bind_eq_ok succeeds
    obtain ⟨others, remaining, same⟩ := exists_of_bind_eq_ok tail
    cases same
    exact .cons converted (ih remaining)

theorem mapM_eq_some_iff {convert : α → Option β} {items : List α} {results : List β} :
    items.mapM convert = some results ↔
      List.Forall₂ (fun item result => convert item = some result) items results := by
  induction items generalizing results with
  | nil =>
    rw [List.mapM_nil, List.forall₂_nil_left_iff]
    exact Option.some_inj.trans eq_comm
  | cons item rest ih =>
    rw [List.mapM_cons, List.forall₂_cons_left_iff]
    constructor
    · intro succeeds
      obtain ⟨result, converted, tail⟩ := Option.bind_eq_some_iff.mp succeeds
      obtain ⟨others, remaining, same⟩ := Option.bind_eq_some_iff.mp tail
      exact ⟨result, others, converted, ih.mp remaining, (Option.some.inj same).symm⟩
    · rintro ⟨result, others, converted, remaining, rfl⟩
      rw [converted, ih.mpr remaining]
      rfl

/-- A list of computations fails with the first of the problems of its items. -/
theorem mapM_eq_error_iff {convert : α → Except ε β} {problem? : α → Option ε}
    (fails : ∀ item error, convert item = .error error ↔ problem? item = some error)
    {items : List α} {error : ε} :
    items.mapM convert = .error error ↔ (items.filterMap problem?).head? = some error := by
  induction items with
  | nil => exact iff_of_false (fun fails => by cases fails) (Option.some_ne_none error).symm
  | cons item rest ih =>
    rw [List.mapM_cons]
    cases converted : convert item with
    | error first =>
      rw [List.filterMap_cons_some ((fails item first).mp converted), List.head?_cons]
      exact ⟨fun same => congrArg some (Except.error.inj same),
        fun same => congrArg Except.error (Option.some.inj same)⟩
    | ok result =>
      have sound := (exists_eq_ok_iff (fails item)).mp ⟨result, converted⟩
      rw [List.filterMap_cons_none sound, ← ih]
      constructor
      · intro failed
        change (rest.mapM convert >>= fun others => .ok (result :: others)) = .error error at failed
        rcases eq_or_exists_of_bind_eq_error failed with here | ⟨others, -, later⟩
        · exact here
        · cases later
      · intro failed
        rw [failed]
        rfl

end UniversalQuery
