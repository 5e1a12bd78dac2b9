import Caret.Files.Tree
import Caret.Main
import Caret.Proofs.Text.Annotation
import Caret.Proofs.Text.Units
import Caret.Proofs.Text.WrappedLines
import Caret.Proofs.Text.WrapWidth
import Caret.Proofs.Text.WrappedWords
import Caret.Proofs.Text.GreedyFilling
import Caret.Proofs.Text.BlankLines
import Caret.Proofs.Text.Escapes
import Caret.Proofs.Snippet.Region
import Caret.Proofs.Snippet.CaretAlignment
import Caret.Proofs.Snippet.Escapes
import Caret.Proofs.Snippet.FixItNotes
import Caret.Proofs.Backtrace.Elision
import Caret.Proofs.Backtrace.Levels
import Caret.Proofs.Report.FixItReading
import Caret.Proofs.Report.Colors
import Caret.Proofs.Report.Course
import Caret.Proofs.Report.Repetition
import Caret.Proofs.Report.Delivery
import Caret.Proofs.Source.Order
import Caret.Proofs.Batch.Loading
import Caret.Proofs.Source.LineColumn
import Caret.Proofs.Source.LinePartition
import Caret.Proofs.Source.TokenLength
import Caret.Proofs.Source.Walks
import Caret.Proofs.Source.Registration
import Caret.Proofs.Report.Includes
import Caret.Proofs.Report.Positions
import Caret.Proofs.Report.Nesting
import Caret.Proofs.Report.IncludeChain
import Caret.Proofs.Report.Headings
import Caret.Proofs.Batch.Totality
import Caret.Proofs.Config.Failures
import Caret.Proofs.Options.Layers
import Caret.Proofs.Config.Precedence
import Caret.Proofs.Text.Numerals
import Caret.Proofs.Toml.Scalars
import Caret.Proofs.Toml.Documents
import Caret.Proofs.Options.Dumping
import Caret.Proofs.Batch.Declarations
import Caret.Proofs.Report.CaretPosition
import Caret.Proofs.Text.Runs
import Caret.Proofs.Report.FixItCompleteness
import Caret.Proofs.Snippet.RangeProjection
import Caret.Proofs.Snippet.Trimming
import Caret.Proofs.Snippet.WordGrowth
import Caret.Proofs.Snippet.TrimmedWidth
import Caret.Proofs.Text.ExpandedMarks
import Caret.Proofs.Snippet.CaretMarks
import Caret.Proofs.Snippet.InsertionLayout
import Caret.Proofs.Snippet.CaretPoints
import Caret.Proofs.Source.LineRoundTrip
import Caret.Proofs.Source.LineDirectives
import Caret.Proofs.Backtrace.WellFounded
import Caret.Proofs.Backtrace.InnermostNote
import Caret.Proofs.Source.TokenShape
import Caret.Proofs.Source.ConvertedBreaks
import Caret.Proofs.Report.RangeCoordinates
import Caret.Proofs.Report.FixItEdits
import Caret.Proofs.Report.HintSuffix
import Caret.Proofs.Report.NoteSnippets
import Caret.Proofs.Report.IncludeCycles
import Caret.Proofs.Options.Tables
import Caret.Proofs.Source.ExpansionWalks
import Caret.Proofs.Source.SpellingWalks
import Caret.Proofs.Backtrace.Collecting
import Caret.Proofs.Log.LevelTexts
import Caret.Proofs.Text.CellColumns
