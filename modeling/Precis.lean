import Precis.Body.Basic
import Precis.Body.Readers
import Precis.Body.Sniff
import Precis.Command.Arguments
import Precis.Command.Invocation
import Precis.Command.Report
import Precis.Command.Run
import Precis.ContentType
import Precis.Document.Basic
import Precis.Document.IndexFields
import Precis.Document.Json
import Precis.Document.Key
import Precis.Document.PageCount
import Precis.Document.ParseMetadata
import Precis.Document.Process
import Precis.Error
import Precis.Font.Size
import Precis.Font.Tag
import Precis.Heading.Basic
import Precis.Heading.FromSpans
import Precis.Heading.FromText
import Precis.Heading.Json
import Precis.Html.Block
import Precis.Html.Event
import Precis.Html.Layout
import Precis.Html.Token
import Precis.Json.Basic
import Precis.Json.Printer
import Precis.Json.Reader
import Precis.Json.Record
import Precis.Json.Token
import Precis.Metadata
import Precis.Metadata.Json
import Precis.Sentence.Basic
import Precis.Sentence.Overlap
import Precis.Sentence.Similarity
import Precis.Sentence.Summary
import Precis.Settings
import Precis.Settings.Environment
import Precis.Settings.File
import Precis.Settings.Json
import Precis.Text.Basic
import Precis.Text.Clean
import Precis.Text.Link
import Precis.Text.Numeral
import Precis.Text.Utf8
import Precis.Unicode.Case
import Precis.Unicode.Columns
import Precis.Unicode.CombiningClass
import Precis.Unicode.CompatibilityForm
import Precis.Unicode.Composition
import Precis.Unicode.Decomposition
import Precis.Unicode.Decomposition.Alphabet
import Precis.Unicode.Decomposition.Ideograph
import Precis.Unicode.Decomposition.Presentation
import Precis.Unicode.Decomposition.Supplementary
import Precis.Unicode.Decomposition.Symbol
import Precis.Unicode.Digit
import Precis.Unicode.Hangul
import Precis.Unicode.Table
import Precis.Unicode.Unprintable
import Precis.Unicode.Uppercase
import Precis.Unicode.WhiteSpace
import Precis.Main
import Precis.Proofs.KeySort
import Precis.Proofs.Number.TotalOrder
import Precis.Proofs.Sentence.Summary
import Precis.Proofs.Sentence.WordTable
import Precis.Proofs.Sentence.Overlap
import Precis.Proofs.Sentence.Cells
import Precis.Proofs.Sentence.Similarity
import Precis.Proofs.Sentence.SameWords
import Precis.Proofs.Sentence.Scores
import Precis.Proofs.Sentence.Pieces
import Precis.Proofs.Sentence.Placement
import Precis.Proofs.Font.Scan
import Precis.Proofs.Font.Value
import Precis.Proofs.Font.Nearest
import Precis.Proofs.Font.Encoding
import Precis.Proofs.Font.Largest
import Precis.Proofs.Text.Words
import Precis.Proofs.Text.Clean
import Precis.Proofs.Text.Join
import Precis.Proofs.Text.Numeral
import Precis.Proofs.Text.Utf8
import Precis.Proofs.Heading.FromSpans
import Precis.Proofs.Heading.SmallPrint
import Precis.Proofs.Heading.Limit
import Precis.Proofs.ContentType
import Precis.Proofs.Body.Read
import Precis.Proofs.Body.Routing
import Precis.Proofs.Command.Printed
import Precis.Proofs.Command.Summary
import Precis.Proofs.Command.SummaryLimit
import Precis.Proofs.Metadata.Extensional
import Precis.Proofs.Metadata.Fill
import Precis.Proofs.Metadata.Description
import Precis.Proofs.Document.IndexFields
import Precis.Proofs.Document.Description
import Precis.Proofs.Document.Process
import Precis.Proofs.Document.ParseMetadata
import Precis.Proofs.Document.Heading
import Precis.Proofs.Command.Heading
import Precis.Proofs.Document.Reprocess
import Precis.Proofs.Document.Lengths
import Precis.Proofs.Heading.Trimmed
import Precis.Proofs.Json.Record
import Precis.Proofs.Json.Token
import Precis.Proofs.Json.RoundTrip
import Precis.Proofs.Settings.Partial
import Precis.Proofs.Metadata.Json
import Precis.Proofs.Document.Json
import Precis.Proofs.Heading.FromText
import Precis.Proofs.Heading.SizeOrder
import Precis.Proofs.Settings.Layer
import Precis.Proofs.Command.SentenceCount
import Precis.Proofs.Metadata.Change
import Precis.Proofs.Command.Output
import Precis.Proofs.Text.Trim
import Precis.Proofs.Settings.Languages
import Precis.Proofs.Document.PageCount
import Precis.Proofs.Command.Pages
import Precis.Proofs.Sentence.LostBreaks
import Precis.Proofs.Number.Binary64
import Precis.Proofs.Sentence.CountTable
import Precis.Proofs.Sentence.ExactScores
