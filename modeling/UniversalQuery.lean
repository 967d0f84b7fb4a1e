import UniversalQuery.Main
import UniversalQuery.Proofs.CommonFragment
import UniversalQuery.Proofs.Sql.StatementForm
import UniversalQuery.Proofs.CommandLine.UpdatedKey
import UniversalQuery.Proofs.Sql.AttributePath
import UniversalQuery.Proofs.Sql.AssignedKey
import UniversalQuery.Proofs.Sql.PathOperators
import UniversalQuery.Proofs.Sql.StoredAttributes
import UniversalQuery.Proofs.Sql.KeptConditions
import UniversalQuery.Proofs.Sql.UnknownFields
import UniversalQuery.Proofs.Sql.ConditionGrammar
import UniversalQuery.Proofs.SnakeSegments
import UniversalQuery.Proofs.Sql.DeclaredColumns
import UniversalQuery.Proofs.DocumentStore.KeptEntries
import UniversalQuery.Proofs.SortVerdict
import UniversalQuery.Proofs.CommandLine.CheckedFiles
import UniversalQuery.Proofs.Retargeting
import UniversalQuery.Proofs.ValueRoundTrip
import UniversalQuery.Proofs.QueryRoundTrip
import UniversalQuery.Proofs.Sql.Clauses
import UniversalQuery.Proofs.UnsharedFields
import UniversalQuery.Proofs.Json.WrittenText
import UniversalQuery.Proofs.OperandErrors
import UniversalQuery.Proofs.ModelFile.SavedText
import UniversalQuery.Proofs.SnakeRuns
import UniversalQuery.Proofs.SnakeDocuments
import UniversalQuery.Proofs.Sql.VacuousConditions
import UniversalQuery.Proofs.Sql.NestedGroups
import UniversalQuery.Proofs.Sql.InsertedColumns
import UniversalQuery.Proofs.AcceptedDefinitions
import UniversalQuery.Proofs.Sql.OrderReferences
import UniversalQuery.Proofs.Sql.Qualification
import UniversalQuery.Proofs.DocumentStore.LosslessFilters
import UniversalQuery.Proofs.SnakePaths
import UniversalQuery.Proofs.SnakeLetters
