import PreparedCql.Builder.Inspect
import PreparedCql.Builder.Run
import PreparedCql.Proofs.History
import PreparedCql.Proofs.Interleaving
import PreparedCql.Proofs.Consistency
import PreparedCql.Proofs.Rendering
import PreparedCql.Proofs.Sketch
import PreparedCql.Proofs.Alignment
import PreparedCql.Proofs.MarkerCount
import PreparedCql.Proofs.Runs
import PreparedCql.Proofs.Ignored
import PreparedCql.Proofs.Refusals
import PreparedCql.Proofs.Inlining
import PreparedCql.Proofs.Likeness
import PreparedCql.Proofs.Noninterference
import PreparedCql.Proofs.Squeezing
import PreparedCql.Proofs.Quotations
import PreparedCql.Proofs.BlankTexts
import PreparedCql.Proofs.Equality
import PreparedCql.Proofs.Numerals
import PreparedCql.Proofs.Delimited
import PreparedCql.Proofs.Readability
import PreparedCql.Proofs.JsonStandard
import PreparedCql.Proofs.JsonReading
import PreparedCql.Proofs.Interpolation
import PreparedCql.Proofs.Templates
import PreparedCql.Proofs.NormalSpacing
import PreparedCql.Proofs.Segments
import PreparedCql.Proofs.WholeRows
import PreparedCql.Proofs.Merging
