import UniversalQuery.CommandLine.Run
import UniversalQuery.Proofs.BuiltModel

set_option autoImplicit false

/-! Checking model files against compiling with them. A check of files succeeds exactly if requests
on these files get as far as their query. -/

namespace UniversalQuery.CommandLine

/-! ## Checks -/

private theorem exists_checkFiles_iff (read : ReadFile) (checked : Checked) (models : List String) :
    (∃ result, checkFiles read checked models = .ok result ∧ result.invalid = 0) ↔
      checked.invalid = 0 ∧
        ∀ path ∈ models, ∃ file, ModelFile.load read path = .ok file ∧ file.problems = [] := by
  induction models generalizing checked with
  | nil => simp [checkFiles]
  | cons path rest ih =>
    rw [List.forall_mem_cons, checkFiles]
    cases loaded : ModelFile.load read path with
    | error error => simp
    | ok file =>
      -- Counts only grow, so none at the end means none here.
      dsimp only
      rw [ih]
      cases found : file.problems with
      | nil => simp [Checked.add, found]
      | cons problem others => simp [Checked.add, found]

theorem exitCode_validate_iff (read : ReadFile) (models : List String) :
    (validate read models).exitCode = 0 ↔
      ∀ path ∈ models, ∃ file, ModelFile.load read path = .ok file ∧ file.problems = [] := by
  have files := exists_checkFiles_iff read ⟨"", 0, 0⟩ models
  rw [and_iff_right rfl] at files
  rw [← files, validate]
  cases ended : checkFiles read ⟨"", 0, 0⟩ models with
  | error stopped => simp [Outcome.failure]
  | ok checked =>
    dsimp only
    by_cases clean : checked.invalid = 0 <;> simp [clean, Outcome.success, Outcome.failure]

/-! ## Requests -/

def CommandError.isAboutModel : CommandError → Bool
  | .modelNotLoaded _ _ | .modelNotBuilt _ _ => true
  | _ => false

/-- A request that does not fail with its model file, whatever may fail after it. -/
def GetsPastModel (read : ReadFile) (input : String) (request : Request) : Prop :=
  ∀ error, transpile read input request = .error error → error.isAboutModel = false

private theorem isAboutModel_of_targetModel {file : ModelFile} {model : Model} {request : Request}
    {error : CommandError} (built : file.build = .ok model)
    (failed : targetModel file request = .error error) : error.isAboutModel = false := by
  rcases eq_or_exists_of_bind_eq_error failed with unbuilt | ⟨whole, -, later⟩
  · rw [ModelFile.model, built] at unbuilt
    cases unbuilt
  · split at later
    · cases later
    · split at later
      · cases later
      · cases later
        rfl

theorem isAboutModel_of_readText {read : ReadFile} {path : String} {error : CommandError}
    (failed : readText read path = .error error) : error.isAboutModel = false := by
  obtain ⟨cause, -, rfl⟩ := exists_of_mapError_eq_error failed
  rfl

private theorem isAboutModel_of_readQuery {text : String} {error : CommandError}
    (failed : readQuery text = .error error) : error.isAboutModel = false := by
  unfold readQuery at failed
  split at failed
  · cases failed
  · split at failed
    · cases failed
    · cases failed
      rfl

private theorem isAboutModel_of_readRecord {path text : String} {error : CommandError}
    (failed : readRecord path text = .error error) : error.isAboutModel = false := by
  unfold readRecord at failed
  split at failed
  · cases failed
    rfl
  · cases failed
  · cases failed
    rfl

private theorem isAboutModel_of_requestedQuery {read : ReadFile} {input : String}
    {request : Request} {error : CommandError}
    (failed : requestedQuery read input request = .error error) :
    error.isAboutModel = false := by
  unfold requestedQuery at failed
  split at failed
  · split at failed
    · rcases eq_or_exists_of_bind_eq_error failed with unread | ⟨text, -, later⟩
      · exact isAboutModel_of_readText unread
      · exact isAboutModel_of_readQuery later
    · exact isAboutModel_of_readQuery failed
  · cases failed

private theorem isAboutModel_of_requestedRecord {read : ReadFile} {request : Request}
    {error : CommandError} (failed : requestedRecord read request = .error error) :
    error.isAboutModel = false := by
  unfold requestedRecord at failed
  split at failed
  · split at failed
    · rcases eq_or_exists_of_bind_eq_error failed with unread | ⟨text, -, later⟩
      · exact isAboutModel_of_readText unread
      · exact isAboutModel_of_readRecord later
    · cases failed
      rfl
  · cases failed

/-- After the model every stage of a request fails for a reason of its own. -/
theorem getsPastModel_of_build {read : ReadFile} {input : String} {request : Request}
    {file : ModelFile} {model : Model} (loaded : ModelFile.load read request.model = .ok file)
    (built : file.build = .ok model) : GetsPastModel read input request := by
  intro error failed
  rcases eq_or_exists_of_bind_eq_error failed with unloaded | ⟨other, same, failed⟩
  · rw [loaded] at unloaded
    cases unloaded
  rw [loaded] at same
  cases same
  rcases eq_or_exists_of_bind_eq_error failed with untargeted | ⟨target, -, failed⟩
  · exact isAboutModel_of_targetModel built untargeted
  rcases eq_or_exists_of_bind_eq_error failed with unread | ⟨query, -, failed⟩
  · exact isAboutModel_of_requestedQuery unread
  rcases eq_or_exists_of_bind_eq_error failed with unread | ⟨record, -, failed⟩
  · exact isAboutModel_of_requestedRecord unread
  split at failed
  · rcases eq_or_exists_of_bind_eq_error failed with uncompiled | ⟨statement, -, written⟩
    · obtain ⟨cause, -, rfl⟩ := exists_of_mapError_eq_error uncompiled
      rfl
    · cases written
  · rcases eq_or_exists_of_bind_eq_error failed with unfiltered | ⟨json, -, written⟩
    · obtain ⟨cause, -, rfl⟩ := exists_of_mapError_eq_error unfiltered
      rfl
    · cases written

theorem getsPastModel_iff {read : ReadFile} {input : String} {request : Request} :
    GetsPastModel read input request ↔
      ∃ file, ModelFile.load read request.model = .ok file ∧ ∃ model, file.build = .ok model := by
  constructor
  · intro past
    cases loaded : ModelFile.load read request.model with
    | error error =>
      have failed : transpile read input request =
          .error (.modelNotLoaded request.model error) := by
        rw [transpile, loaded]
        rfl
      cases past _ failed
    | ok file =>
      cases built : file.build with
      | error problem =>
        have failed : transpile read input request =
            .error (.modelNotBuilt request.model (.invalid problem)) := by
          rw [transpile, loaded]
          change targetModel file request >>= _ = _
          rw [targetModel, ModelFile.model, built]
          rfl
        cases past _ failed
      | ok model => exact ⟨file, rfl, model, built⟩
  · rintro ⟨file, loaded, model, built⟩
    exact getsPastModel_of_build loaded built

/-! ## Agreement -/

/-- What a check reports is what building fails with: a file is built exactly if nothing is
reported, and otherwise fails with the first report. So files pass a check exactly if they load and
requests on them get past their models. -/
theorem check_agrees_with_build (file : ModelFile) (read : ReadFile) (input : String)
    (requests : List Request) :
    ((∃ model, file.build = .ok model) ↔ file.problems = []) ∧
    (∀ problem, file.build = .error problem ↔ file.problems.head? = some problem) ∧
    file.Reports file.problems ∧
    ((Command.run read input (.validate (requests.map Request.model))).exitCode = 0 ↔
      ∀ request ∈ requests, (∃ loaded, ModelFile.load read request.model = .ok loaded) ∧
        GetsPastModel read input request) := by
  refine ⟨ModelFile.exists_build_iff, fun _ => ModelFile.build_eq_error_iff,
    ModelFile.reports_problems file, ?_⟩
  rw [Command.run, exitCode_validate_iff, List.forall_mem_map]
  refine forall₂_congr fun request _ => ?_
  rw [getsPastModel_iff]
  constructor
  · rintro ⟨checked, loaded, clean⟩
    exact ⟨⟨checked, loaded⟩, checked, loaded, ModelFile.exists_build_iff.mpr clean⟩
  · rintro ⟨-, checked, loaded, built⟩
    exact ⟨checked, loaded, ModelFile.exists_build_iff.mp built⟩

end UniversalQuery.CommandLine
