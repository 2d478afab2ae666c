import ColumnBinding.Main
import ColumnBinding.Plan
import ColumnBinding.Session
import ColumnBinding.Text.Json.Reader
import ColumnBinding.Proofs.PrintedText
import ColumnBinding.Proofs.TokenPlaces
import ColumnBinding.Proofs.CallFields
import ColumnBinding.Proofs.Refusals
import ColumnBinding.Proofs.PlannedText
import ColumnBinding.Proofs.Concatenation
import ColumnBinding.Proofs.Reprint
import ColumnBinding.Proofs.Rendering
import ColumnBinding.Proofs.SharedLexer
import ColumnBinding.Proofs.StrictSettings
import ColumnBinding.Proofs.BlankInsertion
import ColumnBinding.Proofs.EntryPlaces
import ColumnBinding.Proofs.TableHistory
import ColumnBinding.Proofs.Quoting
import ColumnBinding.Proofs.RepeatedReading
import ColumnBinding.Proofs.NeededQuotes
import ColumnBinding.Proofs.BoundVariables
import ColumnBinding.Proofs.ErrorLines
import ColumnBinding.Proofs.SettingNames
import ColumnBinding.Proofs.QuotedTokens
import ColumnBinding.Proofs.CqlNames
import ColumnBinding.Proofs.JsonReading
import ColumnBinding.Proofs.Characters
