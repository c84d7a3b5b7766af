import EntitySearch.Calendar.Internet
import EntitySearch.Condition.Reader
import EntitySearch.Decimal.OfFloat
import EntitySearch.Decimal.Text
import EntitySearch.Json.Reader
import EntitySearch.Json.Weight
import EntitySearch.Json.Writer
import EntitySearch.Keyed
import EntitySearch.Number.FloatText
import EntitySearch.Number.Whole
import EntitySearch.Text.Blank
import EntitySearch.Text.LetterCase
import EntitySearch.Text.Pattern
import EntitySearch.Value.Order
import EntitySearch.Value.Text
import EntitySearch.Criteria.Reader
import EntitySearch.Catalog
import EntitySearch.Schema.Document
import EntitySearch.Settings.Document
import EntitySearch.Plan.Text
import EntitySearch.Text.Dotted
import EntitySearch.Compile.Path
import EntitySearch.Compile.Filter
import EntitySearch.Compile.Plan
import EntitySearch.Run.Execute
import EntitySearch.Service.Describe
import EntitySearch.Proofs.Navigation
import EntitySearch.Proofs.Scope
import EntitySearch.Proofs.Uniform
import EntitySearch.Proofs.Conditions
import EntitySearch.Proofs.Compilation
import EntitySearch.Proofs.Binding
import EntitySearch.Proofs.Execution
import EntitySearch.Proofs.Distinct
import EntitySearch.Proofs.Closed
import EntitySearch.Proofs.Dropped
import EntitySearch.Proofs.Cursor
import EntitySearch.Proofs.Listing
import EntitySearch.Proofs.Paging
import EntitySearch.Proofs.SeekWalk
import EntitySearch.Proofs.StorageOrder
import EntitySearch.Proofs.FilterOrder
import EntitySearch.Proofs.PageTotal
import EntitySearch.Proofs.SharedFilters
import EntitySearch.Proofs.StableOrder
import EntitySearch.Proofs.Meaning
import EntitySearch.Proofs.TextSearch
import EntitySearch.Proofs.Failures
import EntitySearch.Proofs.SchemaWalk
import EntitySearch.Proofs.JoinPlan
import EntitySearch.Proofs.LiteralGrouping
import EntitySearch.Proofs.BooleanLaws
import EntitySearch.Proofs.Complements
import EntitySearch.Proofs.NormalizedText
import EntitySearch.Proofs.DayFilters
import EntitySearch.Proofs.PatternLanguage
import EntitySearch.Proofs.Doubles
import EntitySearch.Proofs.Rounding
import EntitySearch.Proofs.Equality
import EntitySearch.Proofs.SortOrder
import EntitySearch.Proofs.Grouping
import EntitySearch.Proofs.RepeatedValues
import EntitySearch.Proofs.RowPlaces
import EntitySearch.Proofs.WholeSums
import EntitySearch.Proofs.DateText
import EntitySearch.Proofs.IsoDates
import EntitySearch.Proofs.RoundTrip
import EntitySearch.Proofs.ReadingDepth
import EntitySearch.Proofs.WellTyped
import EntitySearch.Proofs.ConditionDocuments
import EntitySearch.Proofs.SafeNavigation
import EntitySearch.Proofs.RowSemantics
