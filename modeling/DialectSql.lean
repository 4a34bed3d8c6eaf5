import DialectSql.DefaultDialect
import DialectSql.Proofs.Backticks
import DialectSql.Proofs.ColumnDefinition
import DialectSql.Proofs.Condition.Acceptance
import DialectSql.Proofs.Condition.Precedence
import DialectSql.Proofs.Condition.UniqueReading
import DialectSql.Proofs.DateTime.Reader
import DialectSql.Proofs.DateTime.Sorting
import DialectSql.Proofs.IdentifierReader
import DialectSql.Proofs.KeyNotation
import DialectSql.Proofs.LiteralReader
import DialectSql.Proofs.Query.BuildRules
import DialectSql.Proofs.Query.ConditionHistory
import DialectSql.Proofs.Query.EscaperChange
import DialectSql.Proofs.Query.FragmentHistory
import DialectSql.Proofs.Query.Having
import DialectSql.Proofs.Query.LimitReader
import DialectSql.Proofs.Query.Ordering
import DialectSql.Proofs.Query.Portability
import DialectSql.Proofs.Query.Qualification
import DialectSql.Proofs.Query.Restriction
import DialectSql.Proofs.Query.RowLimit
import DialectSql.Proofs.Query.Selection
import DialectSql.Proofs.Query.TablePrefix
import DialectSql.Proofs.Query.Truncation
import DialectSql.Proofs.Query.Validation
import DialectSql.Proofs.Statement.InsertedRows
import DialectSql.Proofs.Statement.RowWidth
import DialectSql.Proofs.Vocabulary
import DialectSql.Query.Call
