import QueryShapes.Main
import QueryShapes.Proofs.AliasOrder
import QueryShapes.Proofs.ConnectionStrings
import QueryShapes.Proofs.ConsecutiveRows
import QueryShapes.Proofs.ConsultedRelations
import QueryShapes.Proofs.DateOrder
import QueryShapes.Proofs.Extremes
import QueryShapes.Proofs.Faults
import QueryShapes.Proofs.FirstRuns
import QueryShapes.Proofs.GivenSettings
import QueryShapes.Proofs.GroupClasses
import QueryShapes.Proofs.GroupRows
import QueryShapes.Proofs.IntegerOrder
import QueryShapes.Proofs.IntegerSums
import QueryShapes.Proofs.KeptConditions
import QueryShapes.Proofs.LimitedAnswers
import QueryShapes.Proofs.LiteralRange
import QueryShapes.Proofs.LoneTable
import QueryShapes.Proofs.NormalText
import QueryShapes.Proofs.PrintedRows
import QueryShapes.Proofs.ProjectedRows
import QueryShapes.Proofs.QualifiedJoins
import QueryShapes.Proofs.ReachedRelations
import QueryShapes.Proofs.RenamedBindings
import QueryShapes.Proofs.Renaming
import QueryShapes.Proofs.RephrasedConditions
import QueryShapes.Proofs.RoundedAggregates
import QueryShapes.Proofs.ScannedRelation
import QueryShapes.Proofs.SchemaTexts
import QueryShapes.Proofs.SelectKind
import QueryShapes.Proofs.Selection
import QueryShapes.Proofs.SessionLines
import QueryShapes.Proofs.ShapePriority
import QueryShapes.Proofs.StoredRows
import QueryShapes.Proofs.TextTables
import QueryShapes.Proofs.TiedRows
import QueryShapes.Proofs.WellFormedQueries
import QueryShapes.Proofs.WrittenQueries
