import TaggedGrammar.Command.Execute
import TaggedGrammar.Command.Request
import TaggedGrammar.Command.Switch
import TaggedGrammar.Command.Words
import TaggedGrammar.Decimal.Double
import TaggedGrammar.Decimal.Reading
import TaggedGrammar.Decimal.Shortest
import TaggedGrammar.Fault
import TaggedGrammar.Files.Directories
import TaggedGrammar.Files.Disk
import TaggedGrammar.Files.Operations
import TaggedGrammar.Files.Path
import TaggedGrammar.Files.Problem
import TaggedGrammar.Files.Resolve
import TaggedGrammar.Files.Walk
import TaggedGrammar.Generate
import TaggedGrammar.Grammar.Build
import TaggedGrammar.Grammar.Document
import TaggedGrammar.Grammar.Names
import TaggedGrammar.Hint.Basic
import TaggedGrammar.Hint.Coerce
import TaggedGrammar.Hint.Display
import TaggedGrammar.Hint.Instance
import TaggedGrammar.Json.Reader
import TaggedGrammar.Json.Writer
import TaggedGrammar.Main
import TaggedGrammar.Notice
import TaggedGrammar.Outcome
import TaggedGrammar.Output.Update
import TaggedGrammar.Output.Write
import TaggedGrammar.Pattern
import TaggedGrammar.Proofs.Command.Endings
import TaggedGrammar.Proofs.Command.Operands
import TaggedGrammar.Proofs.Decimal.Range
import TaggedGrammar.Proofs.Decimal.Reading
import TaggedGrammar.Proofs.Files.Directories
import TaggedGrammar.Proofs.Files.Disk
import TaggedGrammar.Proofs.Files.Locate
import TaggedGrammar.Proofs.Files.Operations
import TaggedGrammar.Proofs.Files.Refusal
import TaggedGrammar.Proofs.Files.Resolve
import TaggedGrammar.Proofs.Files.Walk
import TaggedGrammar.Proofs.Grammar.Dispatch
import TaggedGrammar.Proofs.Grammar.Document
import TaggedGrammar.Proofs.Grammar.Groups
import TaggedGrammar.Proofs.Grammar.Languages
import TaggedGrammar.Proofs.Grammar.Selectors
import TaggedGrammar.Proofs.Grammar.SharedAliases
import TaggedGrammar.Proofs.Hint.Accepted
import TaggedGrammar.Proofs.Hint.Choice
import TaggedGrammar.Proofs.Hint.Conformance
import TaggedGrammar.Proofs.Hint.Kept
import TaggedGrammar.Proofs.Hint.Mappings
import TaggedGrammar.Proofs.Hint.Normal
import TaggedGrammar.Proofs.Hint.Places
import TaggedGrammar.Proofs.Hint.Records
import TaggedGrammar.Proofs.Hint.Steps
import TaggedGrammar.Proofs.Json.Letters
import TaggedGrammar.Proofs.Json.Lines
import TaggedGrammar.Proofs.Json.RoundTrip
import TaggedGrammar.Proofs.Json.Values
import TaggedGrammar.Proofs.Outcomes
import TaggedGrammar.Proofs.Output.AllOrNothing
import TaggedGrammar.Proofs.Output.Beside
import TaggedGrammar.Proofs.Output.Check
import TaggedGrammar.Proofs.Output.Completion
import TaggedGrammar.Proofs.Output.Confined
import TaggedGrammar.Proofs.Output.Documents
import TaggedGrammar.Proofs.Output.Failure
import TaggedGrammar.Proofs.Output.KeyOrder
import TaggedGrammar.Proofs.Output.Rendered
import TaggedGrammar.Proofs.Output.Repeated
import TaggedGrammar.Proofs.Output.Stale
import TaggedGrammar.Proofs.Output.Update
import TaggedGrammar.Proofs.Output.Verdict
import TaggedGrammar.Proofs.Output.Write
import TaggedGrammar.Proofs.Output.WriteAll
import TaggedGrammar.Proofs.Pattern
import TaggedGrammar.Proofs.Pattern.Expression
import TaggedGrammar.Proofs.Pattern.Slots
import TaggedGrammar.Proofs.Runs
import TaggedGrammar.Proofs.Table.Check
import TaggedGrammar.Proofs.Table.FirstProblem
import TaggedGrammar.Proofs.Table.Hosts
import TaggedGrammar.Proofs.Table.Languages
import TaggedGrammar.Proofs.Table.Load
import TaggedGrammar.Proofs.Table.Verdict
import TaggedGrammar.Proofs.Table.Written
import TaggedGrammar.Proofs.Text.Newline
import TaggedGrammar.Proofs.Value.Display
import TaggedGrammar.Proofs.Value.Mappings
import TaggedGrammar.Proofs.Value.Reordered
import TaggedGrammar.Proofs.Yaml.Keys
import TaggedGrammar.Run
import TaggedGrammar.Table.Basic
import TaggedGrammar.Table.Bundled
import TaggedGrammar.Table.Check
import TaggedGrammar.Table.Load
import TaggedGrammar.Table.Parse
import TaggedGrammar.Table.Raw
import TaggedGrammar.Table.Shape
import TaggedGrammar.Text.Basic
import TaggedGrammar.Text.CaseTable
import TaggedGrammar.Text.Class
import TaggedGrammar.Text.LowerCase
import TaggedGrammar.Text.Printable
import TaggedGrammar.Text.Quoted
import TaggedGrammar.Value.Basic
import TaggedGrammar.Value.Calendar
import TaggedGrammar.Value.Display
import TaggedGrammar.Yaml.Base64
import TaggedGrammar.Yaml.Block
import TaggedGrammar.Yaml.Build
import TaggedGrammar.Yaml.Cursor
import TaggedGrammar.Yaml.Form
import TaggedGrammar.Yaml.Memory
import TaggedGrammar.Yaml.Merge
import TaggedGrammar.Yaml.Name
import TaggedGrammar.Yaml.Node
import TaggedGrammar.Yaml.Object
import TaggedGrammar.Yaml.Plain
import TaggedGrammar.Yaml.Quoted
import TaggedGrammar.Yaml.Read
import TaggedGrammar.Yaml.Scalar
import TaggedGrammar.Yaml.Scan
import TaggedGrammar.Yaml.Structure
import TaggedGrammar.Yaml.Timestamp
import TaggedGrammar.Yaml.Token
import TaggedGrammar.Yaml.Unfold
