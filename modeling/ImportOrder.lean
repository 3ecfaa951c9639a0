import ImportOrder.Banner
import ImportOrder.Block
import ImportOrder.Command.Arguments
import ImportOrder.Command.Report
import ImportOrder.Command.Run
import ImportOrder.Command.Workspace
import ImportOrder.Comment
import ImportOrder.Component
import ImportOrder.Config
import ImportOrder.Group
import ImportOrder.Host
import ImportOrder.Json.Magnitude
import ImportOrder.Json.Printer
import ImportOrder.Json.Reader
import ImportOrder.Json.Value
import ImportOrder.Main
import ImportOrder.Markup.Attribute
import ImportOrder.Markup.Region
import ImportOrder.Options
import ImportOrder.Path
import ImportOrder.Pattern.Automaton.Bytes
import ImportOrder.Pattern.Automaton.Nodes
import ImportOrder.Pattern.Automaton.Plan
import ImportOrder.Pattern.Automaton.Size
import ImportOrder.Pattern.Automaton.Tally
import ImportOrder.Pattern.Automaton.Words
import ImportOrder.Pattern.CharSet
import ImportOrder.Pattern.Glob
import ImportOrder.Pattern.Property.Age
import ImportOrder.Pattern.Property.Binary
import ImportOrder.Pattern.Property.Category
import ImportOrder.Pattern.Property.Named
import ImportOrder.Pattern.Property.Script
import ImportOrder.Pattern.Property.Segment
import ImportOrder.Pattern.Reader
import ImportOrder.Pattern.Regex
import ImportOrder.Policy
import ImportOrder.Proofs.Alike
import ImportOrder.Proofs.Banner
import ImportOrder.Proofs.Banner.Scan
import ImportOrder.Proofs.Block
import ImportOrder.Proofs.Calm
import ImportOrder.Proofs.Command.Pool
import ImportOrder.Proofs.Command.Run
import ImportOrder.Proofs.Command.Selection
import ImportOrder.Proofs.Comment
import ImportOrder.Proofs.Comment.Lexer
import ImportOrder.Proofs.Comment.Names
import ImportOrder.Proofs.Comment.Run
import ImportOrder.Proofs.Comment.Units
import ImportOrder.Proofs.CommentedOut
import ImportOrder.Proofs.Component
import ImportOrder.Proofs.Config
import ImportOrder.Proofs.Conservation
import ImportOrder.Proofs.Host
import ImportOrder.Proofs.Idempotence
import ImportOrder.Proofs.ImportLines
import ImportOrder.Proofs.Json.Reader
import ImportOrder.Proofs.Json.Schema
import ImportOrder.Proofs.Layout
import ImportOrder.Proofs.Markup.Attribute
import ImportOrder.Proofs.Markup.Cursor.Attributes
import ImportOrder.Proofs.Markup.Cursor.Checked
import ImportOrder.Proofs.Markup.Cursor.Search
import ImportOrder.Proofs.Markup.Cursor.Tags
import ImportOrder.Proofs.Markup.Document
import ImportOrder.Proofs.Markup.Placement
import ImportOrder.Proofs.Markup.Region
import ImportOrder.Proofs.Newlines
import ImportOrder.Proofs.Options
import ImportOrder.Proofs.Ordering
import ImportOrder.Proofs.Policy
import ImportOrder.Proofs.Sort
import ImportOrder.Proofs.Sorting.Insertion
import ImportOrder.Proofs.Sorting.Keys
import ImportOrder.Proofs.Sorting.Laws
import ImportOrder.Proofs.Sorting.Natural
import ImportOrder.Proofs.Sorting.Runs
import ImportOrder.Proofs.Sorting.Stable
import ImportOrder.Proofs.StandardOrder
import ImportOrder.Proofs.Statement.Attributes
import ImportOrder.Proofs.Statement.Grammar
import ImportOrder.Proofs.Statement.Mention
import ImportOrder.Proofs.Statement.Module
import ImportOrder.Proofs.Statement.NameOrder
import ImportOrder.Proofs.Statement.Names
import ImportOrder.Proofs.Statement.Parts
import ImportOrder.Proofs.Statement.Recognition
import ImportOrder.Proofs.Statement.Scan
import ImportOrder.Proofs.Statement.Whole
import ImportOrder.Proofs.Text.Blank
import ImportOrder.Proofs.Text.Case
import ImportOrder.Proofs.Text.Digit
import ImportOrder.Proofs.Text.FirstPlace
import ImportOrder.Proofs.Text.Lines
import ImportOrder.Proofs.Text.Search
import ImportOrder.Proofs.Text.Utf8
import ImportOrder.Proofs.Words
import ImportOrder.Sort
import ImportOrder.Sorting.Insertion
import ImportOrder.Sorting.Natural
import ImportOrder.Span
import ImportOrder.Statement.Grammar
import ImportOrder.Statement.Names
import ImportOrder.Statement.Reading
import ImportOrder.Statement.Scan
import ImportOrder.Text.Blank
import ImportOrder.Text.Case
import ImportOrder.Text.Folding
import ImportOrder.Text.Hidden
import ImportOrder.Text.Letter
import ImportOrder.Text.Lines
import ImportOrder.Text.Offset
import ImportOrder.Text.Ranges
import ImportOrder.Text.Search
import ImportOrder.Text.Word
