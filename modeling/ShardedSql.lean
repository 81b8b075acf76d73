import ShardedSql.Calendar
import ShardedSql.CommandLine
import ShardedSql.CommandLine.Arguments
import ShardedSql.CommandLine.Explain
import ShardedSql.CommandLine.Help
import ShardedSql.CommandLine.JsonText
import ShardedSql.CommandLine.Options
import ShardedSql.Configuration
import ShardedSql.Configuration.Document
import ShardedSql.Error
import ShardedSql.Expansion
import ShardedSql.HeadComment
import ShardedSql.Main
import ShardedSql.Merge
import ShardedSql.Merge.Insertion
import ShardedSql.Merge.Rows
import ShardedSql.Merge.RunSort
import ShardedSql.Merge.SortKey
import ShardedSql.Merge.Sorting
import ShardedSql.Merge.Strategy
import ShardedSql.Merge.Window
import ShardedSql.NameSet
import ShardedSql.Numeric.Binary
import ShardedSql.Numeric.Decimal
import ShardedSql.Numeric.DecimalDouble
import ShardedSql.Numeric.Digits
import ShardedSql.Numeric.FloatText
import ShardedSql.Numeric.Shortest
import ShardedSql.Numeric.Sized
import ShardedSql.Parameters
import ShardedSql.Pipeline
import ShardedSql.Prepared
import ShardedSql.Proofs.Condition
import ShardedSql.Proofs.Coverage
import ShardedSql.Proofs.KeptNames
import ShardedSql.Proofs.KeyNumber
import ShardedSql.Proofs.LetterFold
import ShardedSql.Proofs.LexedSegments
import ShardedSql.Proofs.LiteralPlaces
import ShardedSql.Proofs.Lexing
import ShardedSql.Proofs.MergedWindow
import ShardedSql.Proofs.NameRoles
import ShardedSql.Proofs.Outcome
import ShardedSql.Proofs.ParameterMarks
import ShardedSql.Proofs.PlainNames
import ShardedSql.Proofs.Ranking
import ShardedSql.Proofs.RenamedStatement
import ShardedSql.Proofs.RenamedTables
import ShardedSql.Proofs.RenamedText
import ShardedSql.Proofs.RenamedTokens
import ShardedSql.Proofs.RenamedWords
import ShardedSql.Proofs.RespelledStatement
import ShardedSql.Proofs.Respelling
import ShardedSql.Proofs.ShardNames
import ShardedSql.Proofs.ShardStatements
import ShardedSql.Proofs.Suffixes
import ShardedSql.Proofs.TableUses
import ShardedSql.Proofs.ValueOrder
import ShardedSql.Proofs.WindowTables
import ShardedSql.Rewrite
import ShardedSql.Router
import ShardedSql.Row
import ShardedSql.Segment
import ShardedSql.Segment.Rename
import ShardedSql.Segment.Scan
import ShardedSql.Sql.Grammar
import ShardedSql.Sql.Keyword
import ShardedSql.Sql.Lexer
import ShardedSql.Sql.Outline
import ShardedSql.Sql.ParseError
import ShardedSql.Sql.Precedence
import ShardedSql.Sql.Span
import ShardedSql.Sql.Syntax
import ShardedSql.Sql.Tables
import ShardedSql.Sql.Token
import ShardedSql.Sql.TokenStream
import ShardedSql.StatementCache
import ShardedSql.Strategy
import ShardedSql.Strategy.Registry
import ShardedSql.Text.CharClass
import ShardedSql.Text.LetterCase
import ShardedSql.Text.Printable
import ShardedSql.Text.Ranges
import ShardedSql.Text.Utf8
import ShardedSql.Text.Words
import ShardedSql.Toml.Document
import ShardedSql.Toml.Quoted
import ShardedSql.Toml.Reader
import ShardedSql.Toml.Scalar
import ShardedSql.Toml.Value
import ShardedSql.Value
import ShardedSql.Value.Order
import ShardedSql.Value.Sum
import ShardedSql.Proofs.OrderedMerge
import ShardedSql.Proofs.ProductOrder
import ShardedSql.Proofs.FilledTokens
import ShardedSql.Proofs.FilledStatement
import ShardedSql.Proofs.FilledText
import ShardedSql.Proofs.BoundParameters
import ShardedSql.Proofs.DecimalNumber
import ShardedSql.Proofs.Rounding
import ShardedSql.Proofs.OrderCycles
import ShardedSql.Proofs.Comparands
import ShardedSql.Proofs.NestedReads
import ShardedSql.Proofs.GrownText
import ShardedSql.Proofs.InsertedRows
import ShardedSql.Proofs.RunningSums
import ShardedSql.Proofs.Reductions
import ShardedSql.Proofs.AggregateAnswers
import ShardedSql.Proofs.MergedAggregates
import ShardedSql.Proofs.VisitedShards
import ShardedSql.Proofs.CachedStatements
import ShardedSql.Proofs.Dispatch
import ShardedSql.Proofs.WrittenText
import ShardedSql.Proofs.WrittenHead
import ShardedSql.Proofs.Places
import ShardedSql.Proofs.AlikeRouting
import ShardedSql.Proofs.SpreadTokens
import ShardedSql.Proofs.SpreadItems
import ShardedSql.Proofs.SpreadStatement
import ShardedSql.Proofs.ExpandedText
import ShardedSql.Proofs.ExpandedLists
import ShardedSql.Proofs.StrippedHead
import ShardedSql.Proofs.OperatorGrouping
import ShardedSql.Proofs.UpdatedRows
import ShardedSql.Proofs.Rearrangement
import ShardedSql.Proofs.CommentedStatements
import ShardedSql.Proofs.InsertTargets
import ShardedSql.Proofs.MergedTotals
import ShardedSql.Proofs.ShardOrder
import ShardedSql.Proofs.MergedExtremes
import ShardedSql.Proofs.Remainders
import ShardedSql.Proofs.MergedClauses
import ShardedSql.Proofs.NamedKeys
import ShardedSql.Proofs.PatchedSegments
import ShardedSql.Proofs.RenamedSegments
import ShardedSql.Proofs.CodeMarks
import ShardedSql.Proofs.ExpandedMarks
import ShardedSql.Proofs.WrittenDecimals
import ShardedSql.Proofs.EqualKeys
import ShardedSql.Proofs.HeadEntries
import ShardedSql.Proofs.MergedViews
import ShardedSql.Proofs.Tiling
import ShardedSql.Proofs.QuotedForms
import ShardedSql.Proofs.BlobDigits
import ShardedSql.Proofs.SpacedText
import ShardedSql.Proofs.ReportedTokens
import ShardedSql.Proofs.LoweredText
import ShardedSql.Proofs.TableNames
import ShardedSql.Proofs.BuiltConfigurations
import ShardedSql.Proofs.StrategyCalls
import ShardedSql.Proofs.ScannedSegments
import ShardedSql.Proofs.WrittenIntegers
import ShardedSql.Proofs.Leaves
import ShardedSql.Proofs.GatheredLeaves
import ShardedSql.Proofs.SignedIntegers
import ShardedSql.Proofs.ColumnSpans
