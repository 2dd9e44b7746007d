import PgStatement.Session.Run
import PgStatement.Table.TypeName
import PgStatement.Proofs.Chain
import PgStatement.Proofs.Digits
import PgStatement.Proofs.Fragment
import PgStatement.Proofs.Building
import PgStatement.Proofs.Numbering
import PgStatement.Proofs.Placeholder
import PgStatement.Proofs.Record
import PgStatement.Proofs.Result
import PgStatement.Proofs.Where
import PgStatement.Proofs.Noninterference
import PgStatement.Proofs.Interleaving
import PgStatement.Proofs.Wire.Groups
import PgStatement.Proofs.Wire.Numeric
import PgStatement.Proofs.Wire.Array
import PgStatement.Proofs.Timestamp
import PgStatement.Proofs.Wire.Leaf
import PgStatement.Proofs.Wire.RoundTrip
import PgStatement.Proofs.Wire.Canonical
import PgStatement.Proofs.Wire.NumericLimits
import PgStatement.Proofs.Wire.Truncation
import PgStatement.Proofs.Wire.NumericBytes
import PgStatement.Proofs.Wire.NumericLayout
import PgStatement.Proofs.Wire.Clock
import PgStatement.Proofs.Wire.IntervalText
import PgStatement.Proofs.Wire.TimeOfDay
import PgStatement.Proofs.Wire.Segments
import PgStatement.Proofs.Wire.AddressText
import PgStatement.Proofs.LikePattern
import PgStatement.Proofs.Identifier
import PgStatement.Proofs.TableNames
import PgStatement.Proofs.ColumnCalls
import PgStatement.Proofs.TableDefinition
import PgStatement.Proofs.RecordKeys
import PgStatement.Proofs.RecordHistory
import PgStatement.Proofs.Ordering
import PgStatement.Proofs.Acceptance
import PgStatement.Proofs.Renumbering
import PgStatement.Proofs.SelectErrors
import PgStatement.Proofs.BulkInsert
import PgStatement.Proofs.StatementNames
import PgStatement.Proofs.SearchCondition.Grammar
import PgStatement.Proofs.SearchCondition.Meaning
import PgStatement.Proofs.Double.Rounding
import PgStatement.Proofs.Double.Shortest
import PgStatement.Proofs.Double.Text
import PgStatement.Proofs.Calendar
import PgStatement.Proofs.Uuid
import PgStatement.Proofs.JsonText
import PgStatement.Proofs.Constant
import PgStatement.Proofs.SelfDelimiting
import PgStatement.Proofs.Default
import PgStatement.Proofs.AlterSections
import PgStatement.Proofs.Session.Request
import PgStatement.Proofs.Session.Execution
import PgStatement.Proofs.Session.Filtered
import PgStatement.Proofs.Session.Lifecycle
import PgStatement.Proofs.Session.Alteration
