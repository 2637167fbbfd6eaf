import SheetSql.Session
import SheetSql.Proofs.Clock.LetterCase
import SheetSql.Proofs.Clock.Present
import SheetSql.Proofs.Denotation.Rounding
import SheetSql.Proofs.Embedding.Operand
import SheetSql.Proofs.Format.Accepted
import SheetSql.Proofs.Format.Division
import SheetSql.Proofs.Format.Location
import SheetSql.Proofs.Lexical.Closed
import SheetSql.Proofs.Lexical.Query
import SheetSql.Proofs.Lexical.Quoting
import SheetSql.Proofs.Meaning.Defined
import SheetSql.Proofs.Moment.DisplayText
import SheetSql.Proofs.Moment.MonthSpan
import SheetSql.Proofs.Moment.Truncation
import SheetSql.Proofs.Outcome.Failure
import SheetSql.Proofs.Outcome.Immutable
import SheetSql.Proofs.Placement.Stable
import SheetSql.Proofs.Query.Equality
import SheetSql.Proofs.Query.Guarded
import SheetSql.Proofs.Reading.Unambiguous
import SheetSql.Proofs.Scope.Capture
import SheetSql.Proofs.Slicing.Part
import SheetSql.Proofs.Slicing.Repetition
import SheetSql.Proofs.Slicing.Search
import SheetSql.Proofs.Substitution.Substitute
import SheetSql.Proofs.Typing.Branch
import SheetSql.Proofs.Typing.Hint
import SheetSql.Proofs.Workday.Count
