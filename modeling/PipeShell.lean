import PipeShell.Args.Reading
import PipeShell.Args.Spec
import PipeShell.Builtin.Basic
import PipeShell.Builtin.Places
import PipeShell.Builtin.State
import PipeShell.Builtin.Texts
import PipeShell.Config
import PipeShell.Dispatch
import PipeShell.Environment
import PipeShell.External
import PipeShell.Failure
import PipeShell.History
import PipeShell.Host.Cause
import PipeShell.Host.FileTree
import PipeShell.Host.Launch
import PipeShell.Host.Path
import PipeShell.Host.Running
import PipeShell.Host.World
import PipeShell.Line.Assignment
import PipeShell.Line.Command
import PipeShell.Line.Expand
import PipeShell.Line.Token
import PipeShell.Main
import PipeShell.Outcome
import PipeShell.Pattern.ByteForm
import PipeShell.Pattern.ClassReader
import PipeShell.Pattern.Compile
import PipeShell.Pattern.Cursor
import PipeShell.Pattern.Escape
import PipeShell.Pattern.Fault
import PipeShell.Pattern.Meaning
import PipeShell.Pattern.Motion
import PipeShell.Pattern.Node
import PipeShell.Pattern.Part
import PipeShell.Pattern.Reader
import PipeShell.Pattern.Regex
import PipeShell.Pattern.Space
import PipeShell.Pattern.Span
import PipeShell.Pipeline
import PipeShell.Program
import PipeShell.Program.Basic
import PipeShell.Proofs.Args.Operand
import PipeShell.Proofs.Args.Refusal
import PipeShell.Proofs.Assignment
import PipeShell.Proofs.Builtin
import PipeShell.Proofs.Builtin.Echo
import PipeShell.Proofs.Builtin.Files
import PipeShell.Proofs.Builtin.Relay
import PipeShell.Proofs.Config
import PipeShell.Proofs.Dispatch
import PipeShell.Proofs.External
import PipeShell.Proofs.History
import PipeShell.Proofs.Host.Canonical
import PipeShell.Proofs.Host.Effect
import PipeShell.Proofs.Host.Growth
import PipeShell.Proofs.Host.Launch
import PipeShell.Proofs.Host.Path
import PipeShell.Proofs.Line.Cutting
import PipeShell.Proofs.Line.Division
import PipeShell.Proofs.Line.Expansion
import PipeShell.Proofs.Line.Grouping
import PipeShell.Proofs.Line.Joining
import PipeShell.Proofs.Line.Marker
import PipeShell.Proofs.Line.Mask
import PipeShell.Proofs.Line.Quoting
import PipeShell.Proofs.Line.Reference
import PipeShell.Proofs.Line.Rendering
import PipeShell.Proofs.Line.Substitution
import PipeShell.Proofs.Line.Vacancy
import PipeShell.Proofs.Pattern.Beside
import PipeShell.Proofs.Pattern.Beside.Body
import PipeShell.Proofs.Pattern.Beside.Class
import PipeShell.Proofs.Pattern.Beside.Escape
import PipeShell.Proofs.Pattern.Beside.Group
import PipeShell.Proofs.Pattern.Escape
import PipeShell.Proofs.Pattern.Forward
import PipeShell.Proofs.Pattern.Motion
import PipeShell.Proofs.Pattern.Reach
import PipeShell.Proofs.Pattern.Step
import PipeShell.Proofs.Pattern.Unplaced
import PipeShell.Proofs.Pipeline
import PipeShell.Proofs.Program
import PipeShell.Proofs.Program.Restart
import PipeShell.Proofs.ReadLoop
import PipeShell.Proofs.ReadLoop.Course
import PipeShell.Proofs.Report
import PipeShell.Proofs.Search.Again
import PipeShell.Proofs.Search.Arrangement
import PipeShell.Proofs.Search.Conjunction
import PipeShell.Proofs.Search.Counting
import PipeShell.Proofs.Search.Holding
import PipeShell.Proofs.Search.Lines
import PipeShell.Proofs.Search.Literal
import PipeShell.Proofs.Search.PatternWord
import PipeShell.Proofs.Search.WholeWord
import PipeShell.Proofs.Search.Window
import PipeShell.Proofs.Search.Wrapping
import PipeShell.Proofs.Session
import PipeShell.Proofs.Text.Counts
import PipeShell.Proofs.Text.Lines
import PipeShell.Proofs.Unicode.Folding
import PipeShell.ReadLoop
import PipeShell.Script.Printing
import PipeShell.Script.Run
import PipeShell.Script.Statement
import PipeShell.Script.Tool
import PipeShell.Search
import PipeShell.Shell
import PipeShell.Text.Blank
import PipeShell.Text.Count
import PipeShell.Text.Grapheme
import PipeShell.Text.Lines
import PipeShell.Text.RawLine
import PipeShell.Text.Utf8
import PipeShell.Unicode.Age
import PipeShell.Unicode.Alphanumeric
import PipeShell.Unicode.Binary
import PipeShell.Unicode.Break
import PipeShell.Unicode.Category
import PipeShell.Unicode.CharSet
import PipeShell.Unicode.FoldTable
import PipeShell.Unicode.Folding
import PipeShell.Unicode.Property
import PipeShell.Unicode.Query
import PipeShell.Unicode.RangeTable
import PipeShell.Unicode.Script
