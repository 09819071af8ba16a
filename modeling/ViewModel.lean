import ViewModel.Accessor.Compile
import ViewModel.Accessor.Typing
import ViewModel.Build.Error
import ViewModel.Build.Field
import ViewModel.Build.Hint
import ViewModel.Build.Resolve
import ViewModel.Catalogue
import ViewModel.CommandLine.Arguments
import ViewModel.CommandLine.Run
import ViewModel.Config
import ViewModel.Files.Search
import ViewModel.Files.Templates
import ViewModel.Files.Tree
import ViewModel.Files.Wildcard
import ViewModel.Json.Reader
import ViewModel.Json.Writer
import ViewModel.Layout.Node
import ViewModel.Layout.Plan
import ViewModel.Main
import ViewModel.Model.Document
import ViewModel.Model.Evaluate
import ViewModel.Model.Expr
import ViewModel.Model.Manifest
import ViewModel.Model.Stored
import ViewModel.Model.Type
import ViewModel.Number.Decimal
import ViewModel.Number.Displayed
import ViewModel.Number.Double
import ViewModel.Number.Text
import ViewModel.Page
import ViewModel.Project
import ViewModel.Proofs.Accessor.Elaborates
import ViewModel.Proofs.Accessor.Emit
import ViewModel.Proofs.Accessor.Meaning
import ViewModel.Proofs.Accessor.Meets
import ViewModel.Proofs.Accessor.Progress
import ViewModel.Proofs.Accessor.Settle
import ViewModel.Proofs.Accessor.Soundness
import ViewModel.Proofs.Build.Fresh
import ViewModel.Proofs.Expr.Instance
import ViewModel.Proofs.Expr.Reached
import ViewModel.Proofs.Expr.Sound
import ViewModel.Proofs.Expr.WellTyped
import ViewModel.Proofs.Model.Type
import ViewModel.Proofs.Number.Whole
import ViewModel.Proofs.Success
import ViewModel.Proofs.Target.Agreement
import ViewModel.Proofs.Target.Csharp
import ViewModel.Proofs.Target.Javascript
import ViewModel.Proofs.Target.Machine
import ViewModel.Proofs.Target.Names
import ViewModel.Proofs.Target.Phrase
import ViewModel.Proofs.Target.Python
import ViewModel.Proofs.Target.Reading
import ViewModel.Proofs.Target.Simulation
import ViewModel.Proofs.Target.Typescript
import ViewModel.Snapshot
import ViewModel.Source.Declaration
import ViewModel.Source.Expression
import ViewModel.Source.Formatted
import ViewModel.Source.Literal
import ViewModel.Source.Numeral
import ViewModel.Source.Pattern
import ViewModel.Source.Reader
import ViewModel.Source.Scanner
import ViewModel.Source.Statement
import ViewModel.Source.Term
import ViewModel.Source.Token
import ViewModel.Target.ClassFile
import ViewModel.Target.Dialects
import ViewModel.Target.Printed
import ViewModel.Target.TypeName
import ViewModel.Template.Node
import ViewModel.Template.Program
import ViewModel.Template.Read
import ViewModel.Template.Render
import ViewModel.Text.Alphanumeric
import ViewModel.Text.Blank
import ViewModel.Text.CharacterName
import ViewModel.Text.Digits
import ViewModel.Text.Hex
import ViewModel.Text.Identifier
import ViewModel.Text.Lines
import ViewModel.Text.Printable
import ViewModel.Text.Quoted
import ViewModel.Text.Ranges
import ViewModel.Text.Words
import ViewModel.Value
import ViewModel.Value.Display
import ViewModel.Value.Order
import ViewModel.Value.Path
import ViewModel.Yaml.Datum
import ViewModel.Yaml.Node
import ViewModel.Yaml.Scalar
import ViewModel.Yaml.ScalarText
import ViewModel.Yaml.Scanner
import ViewModel.Yaml.Time
import ViewModel.Yaml.Token
import ViewModel.Yaml.Writer
import ViewModel.Proofs.Template.Written
import ViewModel.Proofs.Layout.Plan
import ViewModel.Proofs.Template.Compiled
import ViewModel.Proofs.Template.Engines
import ViewModel.Proofs.Accessor.Independence
import ViewModel.Proofs.Target.Unambiguous
import ViewModel.Proofs.Accessor.Cycles
import ViewModel.Proofs.Model.Line
import ViewModel.Proofs.Model.Outline
import ViewModel.Proofs.Model.Lineage
import ViewModel.Proofs.Build.Accepted
import ViewModel.Proofs.Build.Rearranged
import ViewModel.Proofs.Accessor.Rearranged
import ViewModel.Proofs.Model.Loaded
import ViewModel.Proofs.Model.Saved
import ViewModel.Proofs.Layout.Paths
import ViewModel.Proofs.Page
import ViewModel.Proofs.Accessor.Formed
import ViewModel.Proofs.Target.Generated
import ViewModel.Proofs.Layout.Gap
import ViewModel.Proofs.Text.Markup
import ViewModel.Proofs.Template.Fragments
import ViewModel.Proofs.Text.Words
import ViewModel.Proofs.Files.Tree
import ViewModel.Proofs.Build.Outputs
import ViewModel.Proofs.Build.FileNames
import ViewModel.Proofs.Target.ClassBody
import ViewModel.Proofs.Target.Package
import ViewModel.Proofs.Layout.Loading
import ViewModel.Proofs.Template.Positions
import ViewModel.Proofs.Accessor.Blame
import ViewModel.Proofs.Build.Whole
import ViewModel.Proofs.Template.Scopes
import ViewModel.Proofs.Layout.Overlay
import ViewModel.Proofs.Layout.RoundTrip
import ViewModel.Proofs.Number.Rounding
import ViewModel.Proofs.Number.Shortest
import ViewModel.Proofs.Number.Numeral
import ViewModel.Proofs.Text.Quotation
import ViewModel.Proofs.Target.Literal
import ViewModel.Proofs.Accessor.Members
import ViewModel.Proofs.Text.Capitals
import ViewModel.Proofs.Target.MemberNames
import ViewModel.Proofs.Target.Construction
import ViewModel.Proofs.Accessor.Accepts
import ViewModel.Proofs.Accessor.Added
import ViewModel.Proofs.Build.Added
import ViewModel.Proofs.Target.Restated
import ViewModel.Proofs.Target.Reread
import ViewModel.Proofs.Number.Displayed
import ViewModel.Proofs.Target.Imports
import ViewModel.Proofs.Target.TypeNames
import ViewModel.Proofs.Value.Segment
import ViewModel.Proofs.Value.Entries
import ViewModel.Proofs.Registry
import ViewModel.Proofs.Files.Walk
import ViewModel.Proofs.Files.Templates
import ViewModel.Proofs.Config
import ViewModel.Proofs.Text.Splitting
import ViewModel.Proofs.Text.SnakeName
import ViewModel.Proofs.Template.Lines
import ViewModel.Proofs.Template.WellFormed
