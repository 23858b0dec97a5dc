import IpBlocks.Address.Basic
import IpBlocks.Address.Groups
import IpBlocks.Address.Quad
import IpBlocks.Address.Text
import IpBlocks.Block.Basic
import IpBlocks.Block.Extent
import IpBlocks.Block.Text
import IpBlocks.CommandLine
import IpBlocks.Document.Basic
import IpBlocks.Document.Decimal
import IpBlocks.Document.Shortest
import IpBlocks.Document.Text
import IpBlocks.Document.Values
import IpBlocks.Family
import IpBlocks.Fault
import IpBlocks.LogFilter
import IpBlocks.Main
import IpBlocks.Mode
import IpBlocks.Pattern.Atom
import IpBlocks.Pattern.Bracket
import IpBlocks.Pattern.Depth
import IpBlocks.Pattern.Flags
import IpBlocks.Pattern.Opening
import IpBlocks.Pattern.Text
import IpBlocks.Positional
import IpBlocks.Proofs.Address.Bits
import IpBlocks.Proofs.Address.Grammar
import IpBlocks.Proofs.Address.Marks
import IpBlocks.Proofs.Address.Reading
import IpBlocks.Proofs.Address.Steps
import IpBlocks.Proofs.Address.Written
import IpBlocks.Proofs.Block.Arithmetic
import IpBlocks.Proofs.Block.Grammar
import IpBlocks.Proofs.Block.Nesting
import IpBlocks.Proofs.Block.Order
import IpBlocks.Proofs.CommandLine.Grammar
import IpBlocks.Proofs.Outcome
import IpBlocks.Proofs.Refusal
import IpBlocks.Proofs.Report.Concatenation
import IpBlocks.Proofs.Report.Limits
import IpBlocks.Proofs.Report.Offers
import IpBlocks.Proofs.Report.Refusals
import IpBlocks.Proofs.Report.Repetition
import IpBlocks.Proofs.Report.Transcript
import IpBlocks.Proofs.Session.Ending
import IpBlocks.Proofs.Session.Precedence
import IpBlocks.Proofs.Session.Verbosity
import IpBlocks.Proofs.Settings.Agreement
import IpBlocks.Proofs.Span.Convergence
import IpBlocks.Proofs.Span.Embedding
import IpBlocks.Proofs.Span.Extents
import IpBlocks.Proofs.Span.Greedy
import IpBlocks.Proofs.Span.Maximality
import IpBlocks.Proofs.Span.Minimality
import IpBlocks.Proofs.Span.Search
import IpBlocks.Proofs.Span.Shape
import IpBlocks.Proofs.Span.Tiling
import IpBlocks.Proofs.Style.Groups
import IpBlocks.Proofs.Style.Lossless
import IpBlocks.Proofs.Target.Dispatch
import IpBlocks.Proofs.Target.Padding
import IpBlocks.Proofs.Target.Quoting
import IpBlocks.Proofs.Target.Reading
import IpBlocks.Proofs.Target.Showing
import IpBlocks.Proofs.Target.Whole
import IpBlocks.Proofs.Text.Name
import IpBlocks.Proofs.Text.Padding
import IpBlocks.Proofs.Words.Agreement
import IpBlocks.Proofs.Words.Composition
import IpBlocks.Proofs.Words.Invariants
import IpBlocks.Proofs.Words.Octets
import IpBlocks.Report.Run
import IpBlocks.Report.Sink
import IpBlocks.Session
import IpBlocks.Settings
import IpBlocks.Span.Basic
import IpBlocks.Span.Split
import IpBlocks.Style
import IpBlocks.Target
import IpBlocks.Text.Blank
import IpBlocks.Text.Bytes
import IpBlocks.Text.Cut
import IpBlocks.Text.GraphemeBase
import IpBlocks.Text.Letter
import IpBlocks.Text.Name
import IpBlocks.Text.Numeral
import IpBlocks.Text.Quoted
import IpBlocks.Text.Ranges
import IpBlocks.Text.Slice
