import TitleSieve.Text.Lines
import TitleSieve.Text.Utf8
import TitleSieve.Json.Reader
import TitleSieve.Rule.Description
import TitleSieve.Variants.Labels
import TitleSieve.Variants.ChineseScripts
import TitleSieve.Pass.Logger
import TitleSieve.Listing.Visibility
import TitleSieve.Command.Process
import TitleSieve.Settings.Basic
import TitleSieve.Main
import TitleSieve.Session
import TitleSieve.Service.Run
import TitleSieve.Proofs.Text.Cuts
import TitleSieve.Proofs.Text.Encoding
import TitleSieve.Proofs.Text.LineReading
import TitleSieve.Proofs.Evaluation.Replay
import TitleSieve.Proofs.Evaluation.Meaning
import TitleSieve.Proofs.Pass.Independence
import TitleSieve.Proofs.Rule.Conjunction
import TitleSieve.Proofs.Markup.Alike
import TitleSieve.Proofs.Listing.Restyling
import TitleSieve.Proofs.Listing.Refiltering
import TitleSieve.Proofs.Command.RuleWords
import TitleSieve.Proofs.Command.LineTitles
import TitleSieve.Proofs.Command.LineRuns
import TitleSieve.Proofs.Rule.Joining
import TitleSieve.Proofs.Rule.Image
import TitleSieve.Proofs.Evaluation.Ordering
import TitleSieve.Proofs.Listing.DecidedRows
import TitleSieve.Proofs.Pass.Economy
import TitleSieve.Proofs.Variants.Loading
import TitleSieve.Proofs.Service.Histories
import TitleSieve.Proofs.Service.LoadState
import TitleSieve.Proofs.Pattern.Sources
import TitleSieve.Proofs.Pattern.Shown
import TitleSieve.Proofs.Pattern.Escapes
import TitleSieve.Proofs.Pattern.BoundsAndFlags
import TitleSieve.Proofs.Pattern.Excesses
import TitleSieve.Proofs.Rule.Refusal
import TitleSieve.Proofs.Text.Lowering
import TitleSieve.Proofs.Rule.Fragments
import TitleSieve.Proofs.Variants.Tables
import TitleSieve.Proofs.Command.FileWords
import TitleSieve.Proofs.Command.FileRuns
import TitleSieve.Proofs.Listing.TitleLines
import TitleSieve.Proofs.Service.FilledForms
import TitleSieve.Proofs.Service.FrontEnds
import TitleSieve.Proofs.Json.Strings
import TitleSieve.Proofs.Json.Numerals
import TitleSieve.Proofs.Json.WrittenNumbers
import TitleSieve.Proofs.Json.Scalars
import TitleSieve.Proofs.Json.Objects
import TitleSieve.Proofs.Pass.Logging
import TitleSieve.Proofs.Markup.Routes
import TitleSieve.Proofs.Listing.Frame
import TitleSieve.Proofs.Text.AsciiCase
import TitleSieve.Proofs.Listing.OtherDeclarations
import TitleSieve.Proofs.Pattern.CaseBlindness
import TitleSieve.Proofs.Pattern.Combining
import TitleSieve.Proofs.Pattern.CaseKept
import TitleSieve.Proofs.Rule.LonePatterns
import TitleSieve.Proofs.Pattern.WordFolding
import TitleSieve.Proofs.Pattern.Spelling
import TitleSieve.Proofs.Pattern.WordReading
import TitleSieve.Proofs.Rule.WordLists
import TitleSieve.Proofs.Rule.Display
import TitleSieve.Proofs.Service.Resubmission
import TitleSieve.Proofs.Pass.ExpectedFaults
import TitleSieve.Proofs.Pass.LostLines
import TitleSieve.Proofs.Rule.Alternatives
import TitleSieve.Proofs.Service.RepeatedHandles
import TitleSieve.Proofs.Rule.Writing
import TitleSieve.Proofs.Rule.Preview
import TitleSieve.Proofs.Evaluation.SharedCache
import TitleSieve.Proofs.Command.Processes
import TitleSieve.Proofs.Text.Words
import TitleSieve.Proofs.Listing.NormalTitles
import TitleSieve.Proofs.Text.Recasing
import TitleSieve.Proofs.Rule.LetterCase
import TitleSieve.Proofs.Listing.Repetition
