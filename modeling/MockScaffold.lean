import MockScaffold.CommandLine.Arguments
import MockScaffold.CommandLine.Run
import MockScaffold.CommandLine.Usage
import MockScaffold.Config
import MockScaffold.Document.Artifacts
import MockScaffold.Document.MocksModule
import MockScaffold.Document.TypesModule
import MockScaffold.Files.Fault
import MockScaffold.Files.ImportSpecifier
import MockScaffold.Files.Path
import MockScaffold.Files.Tree
import MockScaffold.Json.Printer
import MockScaffold.Json.Reader
import MockScaffold.Main
import MockScaffold.Naming
import MockScaffold.Number.Digits
import MockScaffold.Number.Double
import MockScaffold.Number.Notation
import MockScaffold.Number.Reading
import MockScaffold.Number.Shortest
import MockScaffold.Proofs.Document.FirstOccurrences
import MockScaffold.Proofs.Document.Imports
import MockScaffold.Proofs.Document.LocalNames
import MockScaffold.Proofs.Document.References
import MockScaffold.Proofs.Json.NumberText
import MockScaffold.Proofs.Json.QuotedText
import MockScaffold.Proofs.Json.ReadBack
import MockScaffold.Proofs.Json.RoundTrip
import MockScaffold.Proofs.Json.ValueText
import MockScaffold.Proofs.Naming.Fragment
import MockScaffold.Proofs.Number.Digits
import MockScaffold.Proofs.Number.Notation
import MockScaffold.Proofs.Outcome
import MockScaffold.Proofs.Sample.Entries
import MockScaffold.Proofs.Sample.Induction
import MockScaffold.Proofs.Shape.Agreement
import MockScaffold.Proofs.Shape.Inhabitation
import MockScaffold.Proofs.Shape.Layout
import MockScaffold.Proofs.Shape.Skeleton
import MockScaffold.Proofs.Shape.Unambiguity
import MockScaffold.Proofs.Shape.Union
import MockScaffold.Proofs.Text.Joined
import MockScaffold.Proofs.Text.Lines
import MockScaffold.Proofs.TypeTable.Bindings
import MockScaffold.Proofs.TypeTable.Names
import MockScaffold.Route
import MockScaffold.Sample.Basic
import MockScaffold.Sample.Calendar
import MockScaffold.Shape.Basic
import MockScaffold.Shape.Inference
import MockScaffold.Shape.Rendering
import MockScaffold.Source.Fault
import MockScaffold.Source.Kind
import MockScaffold.Source.Loading
import MockScaffold.Source.Reply
import MockScaffold.Spec.Endpoint
import MockScaffold.Spec.Misfit
import MockScaffold.Spec.Reading
import MockScaffold.Spec.StatusCode
import MockScaffold.Text.Alphanumeric
import MockScaffold.Text.Blank
import MockScaffold.Text.Case
import MockScaffold.Text.CaseTable
import MockScaffold.Text.Digit
import MockScaffold.Text.Hex
import MockScaffold.Text.Lines
import MockScaffold.Text.Printable
import MockScaffold.Text.Quoted
import MockScaffold.Text.Ranges
import MockScaffold.Text.Similarity
import MockScaffold.Text.Surrogate
import MockScaffold.Text.Utf8
import MockScaffold.Text.Wide
import MockScaffold.TypeTable
import MockScaffold.Yaml.Builder
import MockScaffold.Yaml.Cursor
import MockScaffold.Yaml.Fault
import MockScaffold.Yaml.Leaf
import MockScaffold.Yaml.Lexeme
import MockScaffold.Yaml.Node
import MockScaffold.Yaml.Reader
import MockScaffold.Yaml.ScalarText
import MockScaffold.Yaml.Tag
import MockScaffold.Yaml.Token
import MockScaffold.Proofs.Files.ImportSpecifier
import MockScaffold.Proofs.Document.DeclarationLines
import MockScaffold.Proofs.Document.HandlerLines
import MockScaffold.Proofs.Json.Embedding
import MockScaffold.Proofs.Json.ReadValues
import MockScaffold.Proofs.Spec.Reading
import MockScaffold.Proofs.Document.Generation
import MockScaffold.Proofs.Files.PathText
import MockScaffold.Proofs.Source.Reporting
import MockScaffold.Proofs.Shape.Strategies
import MockScaffold.Proofs.Files.RelativeSpecifier
import MockScaffold.Proofs.Files.Growth
import MockScaffold.Proofs.Files.Writing
import MockScaffold.Proofs.CommandLine.Failure
import MockScaffold.Proofs.Shape.Outline
import MockScaffold.Proofs.Shape.Nodes
import MockScaffold.Proofs.Shape.Depth
import MockScaffold.Proofs.Route.Rewriting
import MockScaffold.Proofs.Document.HandlerHead
import MockScaffold.Proofs.Shape.FieldNames
import MockScaffold.Proofs.Naming.Identifiers
import MockScaffold.Proofs.Naming.Composition
import MockScaffold.Proofs.Route.Literal
import MockScaffold.Proofs.Document.Literals
import MockScaffold.Proofs.Document.Unsupported
import MockScaffold.Proofs.Spec.Misfits
import MockScaffold.Proofs.Spec.FirstMisfit
import MockScaffold.Proofs.TypeTable.Policies
import MockScaffold.Proofs.Yaml.Lexemes
import MockScaffold.Proofs.Yaml.Nodes
import MockScaffold.Proofs.Yaml.Tokens
import MockScaffold.Proofs.Yaml.Values
