import HugoStory.Main
import HugoStory.Proofs.Outcome
import HugoStory.Proofs.Alike
import HugoStory.Proofs.Record.Run
import HugoStory.Proofs.EndOfFile
import HugoStory.Proofs.EndOfFile.Region
import HugoStory.Proofs.Grammar.Entries
import HugoStory.Proofs.Grammar.Written
import HugoStory.Proofs.Truthful
import HugoStory.Proofs.Truncation.Survival
import HugoStory.Proofs.Truncation
import HugoStory.Proofs.Object.Inheritance
import HugoStory.Proofs.Consistent
import HugoStory.Proofs.Ifid.Leftmost
import HugoStory.Proofs.Variables
import HugoStory.Proofs.Json.Token
import HugoStory.Proofs.Json
import HugoStory.Proofs.Json.Story
import HugoStory.Proofs.Json.Ordered
import HugoStory.Proofs.Extension.Kept
import HugoStory.Proofs.Extension.Marks
import HugoStory.Proofs.Extension
import HugoStory.Proofs.Ifid
import HugoStory.Proofs.Patch
import HugoStory.Proofs.Machine.Grammar
import HugoStory.Proofs.Machine.Object
import HugoStory.Proofs.Machine.ObjectView
import HugoStory.Proofs.Machine.Preamble
import HugoStory.Proofs.Machine.Sections
import HugoStory.Proofs.Machine.Story
import HugoStory.Proofs.Invocation
import HugoStory.Proofs.CommandLine
import HugoStory.Proofs.CommandLine.Precedence
import HugoStory.Proofs.Toml.Line
import HugoStory.Proofs.Toml.Integer
import HugoStory.Proofs.Toml.Value
import HugoStory.Proofs.Settings.Entry
import HugoStory.Proofs.Settings.Drafted
import HugoStory.Proofs.Settings.Written
import HugoStory.Proofs.Settings.Document
import HugoStory.Proofs.CommandLine.Document
import HugoStory.Proofs.Image.Missing
import HugoStory.Proofs.Object.Replacement
import HugoStory.Proofs.Object.Stream
import HugoStory.Proofs.Object.Table
import HugoStory.Proofs.Image.Remaining
import HugoStory.Proofs.Grammar.Derivation
import HugoStory.Proofs.Record.Place
import HugoStory.Proofs.Dictionary
import HugoStory.Proofs.TextBank
import HugoStory.Proofs.Variables.Tiling
import HugoStory.Proofs.SpecialWord
import HugoStory.Proofs.Ifid.Search
import HugoStory.Proofs.Relocation
import HugoStory.Proofs.Report
import HugoStory.Proofs.Report.ObjectView
