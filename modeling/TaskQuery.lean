import TaskQuery.Calendar.Date
import TaskQuery.Calendar.Instant
import TaskQuery.Calendar.Reading
import TaskQuery.Command.Arguments
import TaskQuery.Command.Environment
import TaskQuery.Command.Failure
import TaskQuery.Command.FileSystem
import TaskQuery.Command.Log
import TaskQuery.Command.Path
import TaskQuery.Command.Run
import TaskQuery.Command.Settings
import TaskQuery.Command.TaskFile
import TaskQuery.Decimal.Shortest
import TaskQuery.Json.Basic
import TaskQuery.Json.Printer
import TaskQuery.Json.Reader
import TaskQuery.Main
import TaskQuery.Pattern.AgeTable
import TaskQuery.Pattern.Basic
import TaskQuery.Pattern.BreakTable
import TaskQuery.Pattern.ByteForm
import TaskQuery.Pattern.CaseFold
import TaskQuery.Pattern.CategoryTable
import TaskQuery.Pattern.CharSet
import TaskQuery.Pattern.Escape
import TaskQuery.Pattern.Expr
import TaskQuery.Pattern.Fault
import TaskQuery.Pattern.Flags
import TaskQuery.Pattern.FoldTable
import TaskQuery.Pattern.Matcher
import TaskQuery.Pattern.NamedRanges
import TaskQuery.Pattern.Property
import TaskQuery.Pattern.Reader
import TaskQuery.Pattern.ScriptTable
import TaskQuery.Pattern.Size
import TaskQuery.Pattern.Slots
import TaskQuery.Pattern.Tally
import TaskQuery.Query.Basic
import TaskQuery.Query.Diagnostic
import TaskQuery.Query.Encoding
import TaskQuery.Query.Evaluation
import TaskQuery.Query.Execution
import TaskQuery.Query.Filter
import TaskQuery.Query.Grouping
import TaskQuery.Query.Lexer
import TaskQuery.Query.Order
import TaskQuery.Query.Parser
import TaskQuery.Query.Printer
import TaskQuery.Query.Token
import TaskQuery.Query.Vocabulary
import TaskQuery.Report.Cell
import TaskQuery.Report.Explanation
import TaskQuery.Report.Listing
import TaskQuery.Report.Style
import TaskQuery.Report.Table
import TaskQuery.Task.Basic
import TaskQuery.Task.Field
import TaskQuery.Task.Graph
import TaskQuery.Task.Record
import TaskQuery.Text.Alphanumeric
import TaskQuery.Text.Blank
import TaskQuery.Text.Bytes
import TaskQuery.Text.CasingTable
import TaskQuery.Text.CodeRange
import TaskQuery.Text.Digits
import TaskQuery.Text.Escape
import TaskQuery.Text.EscapeTable
import TaskQuery.Text.Lowercase
import TaskQuery.Text.Occurrence
import TaskQuery.Text.Padding
import TaskQuery.Text.Scan
import TaskQuery.Text.Similarity
import TaskQuery.Toml.Basic
import TaskQuery.Toml.Lexeme
import TaskQuery.Toml.Number
import TaskQuery.Toml.Reader
import TaskQuery.Proofs.Blocking
import TaskQuery.Proofs.Grammar
import TaskQuery.Proofs.Recognition
import TaskQuery.Proofs.Coverage
import TaskQuery.Proofs.Walks
import TaskQuery.Proofs.LenientReading
import TaskQuery.Proofs.RelatedReadings
import TaskQuery.Proofs.RefusedPatterns
import TaskQuery.Proofs.FieldNames
import TaskQuery.Proofs.WrittenFilters
import TaskQuery.Proofs.RoundTrip
import TaskQuery.Proofs.Execution
import TaskQuery.Proofs.Dependents
import TaskQuery.Proofs.DirectRelations
import TaskQuery.Proofs.Reordering
import TaskQuery.Proofs.Lowering
import TaskQuery.Proofs.OfferedNames
import TaskQuery.Proofs.CanonicalNames
import TaskQuery.Proofs.FilterInputs
import TaskQuery.Proofs.AlikeTokens
import TaskQuery.Proofs.VocabularyUse
import TaskQuery.Proofs.LetterCase
import TaskQuery.Proofs.JsonMembers
import TaskQuery.Proofs.Records
import TaskQuery.Proofs.TransitiveDependents
import TaskQuery.Proofs.Places
import TaskQuery.Proofs.SettingsFile
import TaskQuery.Proofs.LiteralEnds
import TaskQuery.Proofs.FilterTrees
import TaskQuery.Proofs.QuotedValues
import TaskQuery.Proofs.QueryEncodings
import TaskQuery.Proofs.AppendedClause
import TaskQuery.Proofs.PlainText
import TaskQuery.Proofs.PlainScans
import TaskQuery.Proofs.PlainPatterns
import TaskQuery.Proofs.PlainQueries
import TaskQuery.Proofs.PlainReports
import TaskQuery.Proofs.SpelledCharacters
import TaskQuery.Proofs.PlainToml
import TaskQuery.Proofs.PlainJson
import TaskQuery.Proofs.PlainInputs
import TaskQuery.Proofs.PlainArguments
import TaskQuery.Proofs.PlainFailures
import TaskQuery.Proofs.DueDates
import TaskQuery.Proofs.RunLog
import TaskQuery.Proofs.PlainLog
import TaskQuery.Proofs.PlainSteps
import TaskQuery.Proofs.Colors
import TaskQuery.Proofs.StableSorting
import TaskQuery.Proofs.Groups
import TaskQuery.Proofs.ScannerReach
import TaskQuery.Proofs.DateScans
import TaskQuery.Proofs.FieldDates
import TaskQuery.Proofs.LiteralInclusion
import TaskQuery.Proofs.TrailingTokens
import TaskQuery.Proofs.ChangedTasks
import TaskQuery.Proofs.CivilDates
import TaskQuery.Proofs.DateComparisons
import TaskQuery.Proofs.GroupFilters
import TaskQuery.Proofs.DueCells
import TaskQuery.Proofs.TableColumns
import TaskQuery.Proofs.ReportedPlaces
import TaskQuery.Proofs.Spacing
import TaskQuery.Proofs.EndMarkers
import TaskQuery.Proofs.NestedFields
import TaskQuery.Proofs.AbsentValues
