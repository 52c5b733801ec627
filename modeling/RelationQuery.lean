import RelationQuery.Proofs.GeneratedPredicates
import RelationQuery.Proofs.BorrowedSessions
import RelationQuery.Proofs.ColumnHyphens
import RelationQuery.Proofs.Compilation
import RelationQuery.Proofs.Conditions
import RelationQuery.Proofs.Conjunction
import RelationQuery.Proofs.Meaning
import RelationQuery.Proofs.NamedValues
import RelationQuery.Proofs.Nesting
import RelationQuery.Proofs.OwnedSessions
import RelationQuery.Proofs.PositionalParameters
import RelationQuery.Proofs.QuerySense
import RelationQuery.Proofs.Refusal
import RelationQuery.Proofs.SearchKeys
import RelationQuery.Proofs.Sense
import RelationQuery.Proofs.StatementFooting
import RelationQuery.Proofs.StatementRuns
import RelationQuery.Proofs.ValueIndependence
import RelationQuery.Rule.Convert
import RelationQuery.Rule.Read
import RelationQuery.Session.Scenario
import RelationQuery.Settings
import RelationQuery.Proofs.RequestHyphens
import RelationQuery.Proofs.RequestProvenance
import RelationQuery.Proofs.AdjacentMarks
import RelationQuery.Proofs.CallerPlaceholders
import RelationQuery.Proofs.JoinedSearch
import RelationQuery.Proofs.LexerExhaustion
import RelationQuery.Proofs.PrintedTerms
import RelationQuery.Proofs.QuotedRegions
import RelationQuery.Proofs.ArrayCells
import RelationQuery.Proofs.BoundCells
import RelationQuery.Proofs.CalendarDays
import RelationQuery.Proofs.DecimalText
import RelationQuery.Proofs.JsonBinding
import RelationQuery.Proofs.LegibleStatements
import RelationQuery.Proofs.NumberingRuns
import RelationQuery.Proofs.RequestsInTurn
import RelationQuery.Proofs.ValueEquality
import RelationQuery.Proofs.CompileOutcome
import RelationQuery.Proofs.OverriddenDirectives
import RelationQuery.Proofs.ConditionReader
import RelationQuery.Proofs.ConditionReading
import RelationQuery.Proofs.ConditionText
import RelationQuery.Proofs.ExpressionGrouping
import RelationQuery.Proofs.IntegerBinding
import RelationQuery.Proofs.QuotedValues
import RelationQuery.Proofs.WordLines
import RelationQuery.Proofs.ParsedOrders
import RelationQuery.Proofs.FixedWidths
import RelationQuery.Proofs.DocumentBinding
import RelationQuery.Proofs.DecimalCharacters
import RelationQuery.Proofs.RoundedIntegers
import RelationQuery.Proofs.MomentShapes
import RelationQuery.Proofs.ZoneMarks
import RelationQuery.Proofs.NamedMoments
import RelationQuery.Proofs.Conversion
import RelationQuery.Proofs.WholeNumerals
import RelationQuery.Proofs.LeadingIntegers
import RelationQuery.Proofs.DecodedRows
import RelationQuery.Proofs.ProtectedColumns
import RelationQuery.Proofs.ConvertedText
import RelationQuery.Proofs.OrderText
