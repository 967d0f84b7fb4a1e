import UniversalQuery.Proofs.Retargeting
import UniversalQuery.Proofs.Sql.Clauses

set_option autoImplicit false

/-! Fields that one table declares. Whichever table is the target, a model says the same of them, so
the clauses of a query on such fields do not depend on the target. -/

namespace UniversalQuery.Model

/-- At most one table declares the field. -/
def IsUnshared (model : Model) (field : String) : Prop :=
  ∀ table ∈ model.tables, ∀ other ∈ model.tables,
    table.declares field = true → other.declares field = true → table = other

instance (model : Model) (field : String) : Decidable (model.IsUnshared field) :=
  inferInstanceAs (Decidable (∀ table ∈ model.tables, ∀ other ∈ model.tables,
    table.declares field = true → other.declares field = true → table = other))

variable {model moved : Model} {field : String}

private theorem mem_of_owner?_eq_some {table : Table} (found : model.owner? field = some table) :
    table ∈ model.tables ∧ table.declares field = true := by
  unfold owner? at found
  have declares := List.find?_some found
  exact ⟨List.mem_of_find?_eq_some found, declares⟩

theorem owner?_eq_some_iff (unshared : model.IsUnshared field) {table : Table} :
    model.owner? field = some table ↔ table ∈ model.tables ∧ table.declares field = true := by
  constructor
  · exact mem_of_owner?_eq_some
  · intro declaring
    obtain ⟨member, declares⟩ := declaring
    cases found : model.owner? field with
    | none => exact absurd declares (List.find?_eq_none.mp found table member)
    | some other =>
      obtain ⟨listed, another⟩ := mem_of_owner?_eq_some found
      rw [unshared table member other listed declares another]

theorem IsUnshared.of_perm (unshared : model.IsUnshared field)
    (perm : moved.tables.Perm model.tables) : moved.IsUnshared field := by
  intro table member other listed
  exact unshared table (perm.mem_iff.mp member) other (perm.mem_iff.mp listed)

theorem owner?_perm (unshared : model.IsUnshared field)
    (perm : moved.tables.Perm model.tables) : moved.owner? field = model.owner? field := by
  ext table
  rw [owner?_eq_some_iff (unshared.of_perm perm), owner?_eq_some_iff unshared, perm.mem_iff]

private theorem qualifies_perm (rule : moved.qualify = model.qualify)
    (perm : moved.tables.Perm model.tables) : moved.qualifies = model.qualifies := by
  have size : moved.others.length = model.others.length := Nat.succ.inj perm.length_eq
  have alone : moved.others.isEmpty = model.others.isEmpty := by
    rw [Bool.eq_iff_iff, List.isEmpty_iff_length_eq_zero, List.isEmpty_iff_length_eq_zero, size]
  rw [qualifies, qualifies, rule, alone]

theorem schema_agreeOn {fields : List String} (rule : moved.qualify = model.qualify)
    (perm : moved.tables.Perm model.tables)
    (unshared : ∀ field ∈ fields, model.IsUnshared field) :
    moved.schema.AgreeOn model.schema fields where
  qualifies := qualifies_perm rule perm
  type field member := by
    have owner := owner?_perm (unshared field member) perm
    simp only [schema, fieldType?, owner]
  owner field member := by
    have owner := owner?_perm (unshared field member) perm
    simp only [schema, owner]

theorem exists_targeting? {name : String} (member : name ∈ model.tables.map Table.name) :
    ∃ moved, model.targeting? name = some moved ∧ moved.target.name = name ∧
      moved.qualify = model.qualify ∧ moved.tables.Perm model.tables := by
  obtain ⟨table, listed, named⟩ := List.mem_map.mp member
  cases found : model.table? name with
  | none => exact absurd (beq_iff_eq.mpr named) (List.find?_eq_none.mp found table listed)
  | some target =>
    have perm := (moves_change model (.target name)).perm
    have targeted : model.targeting? name = some (model.change (.target name)) := by
      simp [change, targeting?, found]
    refine ⟨_, targeted, ?_, ?_, perm⟩
    · have same := List.find?_some found
      simpa [change, targeting?, found] using same
    · simp [change, targeting?, found]

/-- A query on fields that one table declares each has the same clauses, or the same error,
whichever table is the target. -/
theorem clauses_targeting {name : String} {query : Query}
    (member : name ∈ model.tables.map Table.name)
    (unshared : ∀ field ∈ query.snakeCased.rootFields, model.IsUnshared field)
    (policy : UnknownFields) :
    ∃ moved, model.targeting? name = some moved ∧ moved.schema.table = name ∧
      Sql.clauses moved.schema policy query = Sql.clauses model.schema policy query := by
  obtain ⟨moved, targeted, named, rule, perm⟩ := exists_targeting? member
  exact ⟨moved, targeted, named, Sql.clauses_congr (schema_agreeOn rule perm unshared) policy⟩

def jobQuery : Query where
  condition := some [("Or", .array [
    .object [("job.jobTitle", .string "clerk"), ("size", .object [("gte", .int 50)])],
    .object [("Title", .string "clerk")]])]
  order := some [⟨"size", .descending⟩]

theorem clauses_targeting_jobQuery :
    "jobs" ∈ officeModel.tables.map Table.name ∧
    (∀ field ∈ jobQuery.snakeCased.rootFields, officeModel.IsUnshared field) ∧
    ∃ moved, officeModel.targeting? "jobs" = some moved ∧ moved.schema.table = "jobs" ∧
      Sql.clauses moved.schema .reject jobQuery = .ok
        (" WHERE people.job->>'job_title'='clerk' OR companies.size >= 50 OR jobs.title='clerk'",
          " ORDER BY companies.size DESC") := by
  have member : "jobs" ∈ officeModel.tables.map Table.name := by decide
  have unshared : ∀ field ∈ jobQuery.snakeCased.rootFields, officeModel.IsUnshared field := by
    decide +kernel
  obtain ⟨moved, targeted, named, same⟩ := clauses_targeting member unshared .reject
  refine ⟨member, unshared, moved, targeted, named, ?_⟩
  rw [same]
  decide +kernel

end UniversalQuery.Model
