import SdlProjection.Main
import SdlProjection.Json.Reader
import SdlProjection.Model.Decoding
import SdlProjection.Schema.Decoding
import SdlProjection.Schema.Encoding
import SdlProjection.Proofs.Entries
import SdlProjection.Proofs.Model.References
import SdlProjection.Proofs.Projection.Resolution
import SdlProjection.Proofs.Json.Validation
import SdlProjection.Proofs.Projection.Conformance
import SdlProjection.Proofs.Schema.Merging
import SdlProjection.Proofs.Fragment.Parallel
import SdlProjection.Proofs.Schema.Splitting
import SdlProjection.Proofs.Pattern.Matching
import SdlProjection.Proofs.Fragment.Declaring
import SdlProjection.Proofs.Schema.Printing
import SdlProjection.Proofs.Schema.RoundTrip
import SdlProjection.Proofs.Projection.Dependence
import SdlProjection.Proofs.Fragment.Moves
import SdlProjection.Proofs.Model.ListSignature
import SdlProjection.Proofs.Model.TypeClause
import SdlProjection.Proofs.Model.DeclarationGrammar
import SdlProjection.Proofs.Schema.Reading
import SdlProjection.Proofs.Projection.TypeKeyword
import SdlProjection.Proofs.Line.Trimming
import SdlProjection.Proofs.Schema.Roots
import SdlProjection.Proofs.Fragment.Numbering
import SdlProjection.Proofs.Fragment.Remarks
import SdlProjection.Proofs.Schema.Insertion
import SdlProjection.Proofs.Schema.StrayLines
import SdlProjection.Proofs.Schema.UnionMembers
import SdlProjection.Proofs.Schema.MergeLaws
import SdlProjection.Proofs.Schema.Reindentation
import SdlProjection.Proofs.Schema.WellFormed
import SdlProjection.Proofs.Fragment.Termination
import SdlProjection.Projection.Recursion
import SdlProjection.Proofs.Projection.Recursion
import SdlProjection.Proofs.Projection.Grammar
import SdlProjection.Proofs.Json.RoundTrip
import SdlProjection.Proofs.Model.RoundTrip
import SdlProjection.Proofs.Schema.Serialization
import SdlProjection.Proofs.Fragment.Reporting
import SdlProjection.Proofs.Schema.Session
import SdlProjection.Proofs.Model.Decoys
import SdlProjection.Proofs.Model.EmbeddedList
import SdlProjection.Proofs.Body.Agreement
import SdlProjection.Proofs.Body.Refusal
import SdlProjection.Proofs.Model.ListMarking
import SdlProjection.Proofs.Fragment.BlockDescription
import SdlProjection.Proofs.Command.Delivery
import SdlProjection.Proofs.Line.Fields
import SdlProjection.Proofs.Cursor
