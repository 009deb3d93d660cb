import RecordFilter.Main
import RecordFilter.Document
import RecordFilter.Filter.Session
import RecordFilter.Proofs.Clause.Mismatch
import RecordFilter.Proofs.Clause.Numbers
import RecordFilter.Proofs.Clause.Ranges
import RecordFilter.Proofs.Clause.Stages
import RecordFilter.Proofs.Command.Check
import RecordFilter.Proofs.Filter.Alphabet
import RecordFilter.Proofs.Filter.Calls
import RecordFilter.Proofs.Filter.Encoding
import RecordFilter.Proofs.Filter.Folding
import RecordFilter.Proofs.Filter.Formatting
import RecordFilter.Proofs.Filter.Membership
import RecordFilter.Proofs.Filter.RootTargets
import RecordFilter.Proofs.Json.Equality
import RecordFilter.Proofs.Pattern.Pieces
import RecordFilter.Proofs.Pointer
import RecordFilter.Proofs.Query.BareTargets
import RecordFilter.Proofs.Query.Citations
import RecordFilter.Proofs.Query.Composition
import RecordFilter.Proofs.Query.Concatenation
import RecordFilter.Proofs.Query.Tiles
import RecordFilter.Proofs.Query.TokenText
import RecordFilter.Proofs.Record
