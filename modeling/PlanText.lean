import PlanText.CommandLine.Arguments
import PlanText.CommandLine.Run
import PlanText.CommandLine.Texts
import PlanText.Decimal.Digit
import PlanText.Decimal.Numeral
import PlanText.Decimal.Shortest
import PlanText.Disk
import PlanText.Disk.Tree
import PlanText.Format
import PlanText.Format.Builtin
import PlanText.Json.Printer
import PlanText.Json.Reader
import PlanText.Keyed
import PlanText.Log
import PlanText.Main
import PlanText.Node
import PlanText.Node.Json
import PlanText.Node.Readable
import PlanText.Outline
import PlanText.Outline.Path
import PlanText.PlanFile
import PlanText.Reading.Balance
import PlanText.Reading.Cursor
import PlanText.Reading.Error
import PlanText.Reading.List
import PlanText.Settings
import PlanText.Settings.Error
import PlanText.Settings.KeyPath
import PlanText.Settings.Layers
import PlanText.Settings.Merge
import PlanText.Settings.Tree
import PlanText.Text.CaseTable
import PlanText.Text.Control
import PlanText.Text.LineTable
import PlanText.Text.Lower
import PlanText.Text.Position
import PlanText.Text.Quoted
import PlanText.Text.Ranges
import PlanText.Text.UnprintableTable
import PlanText.Text.Utf8
import PlanText.Token
import PlanText.Token.Padded
import PlanText.Token.Scan
import PlanText.Toml
import PlanText.Toml.Datetime
import PlanText.Toml.Reader
import PlanText.Toml.Reserved
import PlanText.Toml.Strings
import PlanText.Toml.Table
import PlanText.Yaml.Scalar
import PlanText.Yaml.Sequence
import PlanText.Proofs.LowerCase
import PlanText.Proofs.Scanning
import PlanText.Proofs.PadAndSplit
import PlanText.Proofs.ReadTree
import PlanText.Proofs.CanonicalText
import PlanText.Proofs.Faults
import PlanText.Proofs.Joining
import PlanText.Proofs.Agreement
import PlanText.Proofs.Comments
import PlanText.Proofs.LetterCase
import PlanText.Proofs.Continuation
import PlanText.Proofs.TokensTaken
import PlanText.Proofs.SharedCursor
import PlanText.Proofs.JsonText
import PlanText.Proofs.YamlScalars
import PlanText.Proofs.YamlText
import PlanText.Proofs.SettingsTree
import PlanText.Proofs.Layering
import PlanText.Proofs.RunSettings
import PlanText.Proofs.FilesInTurn
import PlanText.Proofs.ByteOrder
import PlanText.Proofs.Registrations
import PlanText.Proofs.DepthLimit
import PlanText.Proofs.FreeLayout
import PlanText.Proofs.Partition
import PlanText.Proofs.TokenListing
import PlanText.Proofs.OutlineText
import PlanText.Proofs.OutlinePaths
import PlanText.Proofs.FilesAtFault
import PlanText.Proofs.LineTable
