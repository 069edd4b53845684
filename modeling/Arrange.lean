import Arrange.Calendar
import Arrange.Classify
import Arrange.Cli.Arguments
import Arrange.Cli.Listing
import Arrange.Collation
import Arrange.Compare
import Arrange.DateLayout
import Arrange.Decimal.Binary64
import Arrange.Decimal.Shortest
import Arrange.Disk.Basic
import Arrange.Disk.Notes
import Arrange.Disk.Tree
import Arrange.Entry
import Arrange.Fault
import Arrange.FolderDates
import Arrange.Frontmatter
import Arrange.Lookup
import Arrange.Main
import Arrange.Metadata
import Arrange.Numbering
import Arrange.Order
import Arrange.Pass
import Arrange.Pattern.Basic
import Arrange.Pattern.Match
import Arrange.Pattern.Notation
import Arrange.Proofs.Cli.Listing
import Arrange.Proofs.Comparison.BaseLetters
import Arrange.Proofs.Comparison.Compared
import Arrange.Proofs.Comparison.Consistent
import Arrange.Proofs.Comparison.Groups
import Arrange.Proofs.Comparison.Known
import Arrange.Proofs.Comparison.Matching
import Arrange.Proofs.Comparison.Numbers
import Arrange.Proofs.Comparison.Orders
import Arrange.Proofs.Comparison.Places
import Arrange.Proofs.Comparison.Signs
import Arrange.Proofs.Comparison.Sorting
import Arrange.Proofs.Comparison.Stable
import Arrange.Proofs.Comparison.Texts
import Arrange.Proofs.Dates.Aggregated
import Arrange.Proofs.Dates.Extracted
import Arrange.Proofs.Dates.Needed
import Arrange.Proofs.Dates.Search
import Arrange.Proofs.Decimal.Difference
import Arrange.Proofs.Decimal.Order
import Arrange.Proofs.Disk.Bookmarks
import Arrange.Proofs.Disk.Located
import Arrange.Proofs.Disk.Notes
import Arrange.Proofs.Disk.Tree
import Arrange.Proofs.Failing
import Arrange.Proofs.Frontmatter
import Arrange.Proofs.Layouts
import Arrange.Proofs.Lines
import Arrange.Proofs.Numbering.Compared
import Arrange.Proofs.Numbering.Texts
import Arrange.Proofs.Numbering.Values
import Arrange.Proofs.Pass.Asking
import Arrange.Proofs.Pass.Bookmarked
import Arrange.Proofs.Pass.Congruence
import Arrange.Proofs.Pass.Derived
import Arrange.Proofs.Pass.Eager
import Arrange.Proofs.Pass.Ends
import Arrange.Proofs.Pass.Faults
import Arrange.Proofs.Pass.Fields
import Arrange.Proofs.Pass.Forgiving
import Arrange.Proofs.Pass.Host
import Arrange.Proofs.Pass.Independence
import Arrange.Proofs.Pass.IndexSafe
import Arrange.Proofs.Pass.Inputs
import Arrange.Proofs.Pass.Known
import Arrange.Proofs.Pass.Numbered
import Arrange.Proofs.Pass.Placing
import Arrange.Proofs.Pass.Plain
import Arrange.Proofs.Pass.Priorities
import Arrange.Proofs.Pass.Questions
import Arrange.Proofs.Pass.Reach
import Arrange.Proofs.Pass.Records
import Arrange.Proofs.Pass.Returns
import Arrange.Proofs.Pass.Rules
import Arrange.Proofs.Pass.Sorted
import Arrange.Proofs.Pass.Substituted
import Arrange.Proofs.Pass.Times
import Arrange.Proofs.Pass.Unruled
import Arrange.Proofs.Pass.Values
import Arrange.Proofs.Pattern.Found
import Arrange.Proofs.Pattern.Match
import Arrange.Proofs.Pattern.Notation
import Arrange.Proofs.Ranks
import Arrange.Proofs.Spec.Indexes
import Arrange.Proofs.Spec.Loading
import Arrange.Proofs.Spec.Placeholder
import Arrange.Proofs.Spec.Priorities
import Arrange.Proofs.Spelling
import Arrange.Proofs.Yaml.Nodes
import Arrange.Proofs.Yaml.Tokens
import Arrange.Proofs.Yaml.Values
import Arrange.Ranks
import Arrange.Record
import Arrange.Spec.Basic
import Arrange.Spec.Config
import Arrange.Spec.Document
import Arrange.StableSort
import Arrange.Text.CharacterClass
import Arrange.Text.Data.CharacterClass
import Arrange.Text.Data.Decomposition
import Arrange.Text.Data.LetterCase
import Arrange.Text.Decomposition
import Arrange.Text.LetterCase
import Arrange.Text.Lines
import Arrange.Text.Quoted
import Arrange.Text.Span
import Arrange.Time
import Arrange.Toml.Document
import Arrange.Toml.Scalar
import Arrange.Value
import Arrange.Workspace
import Arrange.Yaml.Document
import Arrange.Yaml.Node
import Arrange.Yaml.Scalar
import Arrange.Yaml.Token
