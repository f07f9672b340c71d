import ViewCases.Bracket.FromEnd
import ViewCases.Catalog
import ViewCases.CommandLine.Run
import ViewCases.Main
import ViewCases.Proofs.Batch.Failure
import ViewCases.Proofs.Batch.Isolation
import ViewCases.Proofs.Bracket.Cuts
import ViewCases.Proofs.Bracket.Joins
import ViewCases.Proofs.Bracket.Language
import ViewCases.Proofs.Bracket.Pairing
import ViewCases.Proofs.Category
import ViewCases.Proofs.CommandLine.ExitCode
import ViewCases.Proofs.EnumFile.Comments
import ViewCases.Proofs.EnumFile.Forwarding
import ViewCases.Proofs.EnumFile.Outcome
import ViewCases.Proofs.Interface.ExtensionHeader
import ViewCases.Proofs.Interface.Functions
import ViewCases.Proofs.Interface.Recovery
import ViewCases.Proofs.Literal.Header
import ViewCases.Proofs.Member.Attachment
import ViewCases.Proofs.Output.Distinct
import ViewCases.Proofs.Payload.Closures
import ViewCases.Proofs.Payload.Inout
import ViewCases.Proofs.Settings.Shadowing
import ViewCases.Proofs.Signature.RoundTrip
import ViewCases.Proofs.TypeExpr.Composition
import ViewCases.Proofs.TypeExpr.NormalForm
import ViewCases.Proofs.TypeExpr.RoundTrip
import ViewCases.Proofs.TypeExpr.Stored
import ViewCases.Proofs.TypeExpr.Totality
