import SerialHub.Blacklist
import SerialHub.Decimal.Nearest
import SerialHub.Decimal.Shortest
import SerialHub.Decimal.Stepwise
import SerialHub.Error
import SerialHub.Json
import SerialHub.Keyed
import SerialHub.Line.Config
import SerialHub.Line.Overrides
import SerialHub.Pattern.Automaton
import SerialHub.Pattern.CharSet
import SerialHub.Pattern.Classes
import SerialHub.Pattern.Match
import SerialHub.Pattern.Parser
import SerialHub.Pattern.Shape
import SerialHub.Pattern.Syntax
import SerialHub.Port.Bench
import SerialHub.Port.Device
import SerialHub.Port.Driver
import SerialHub.Port.Error
import SerialHub.Port.Script
import SerialHub.Registry.Basic
import SerialHub.Registry.Supervisor
import SerialHub.Settings.Config
import SerialHub.Settings.Decode
import SerialHub.Settings.Encode
import SerialHub.Settings.Environment
import SerialHub.Settings.Error
import SerialHub.Settings.Loader
import SerialHub.Settings.Serial
import SerialHub.Settings.Terminal
import SerialHub.Terminal.Buffer
import SerialHub.Terminal.Console
import SerialHub.Terminal.LineEnding
import SerialHub.Text.Blank
import SerialHub.Text.Case
import SerialHub.Text.Hex
import SerialHub.Text.Integer
import SerialHub.Text.Lines
import SerialHub.Text.Printable
import SerialHub.Text.Quote
import SerialHub.Text.Utf8
import SerialHub.Toml.Datetime
import SerialHub.Toml.Document
import SerialHub.Toml.Read
import SerialHub.Toml.Value
import SerialHub.Toml.Write
import SerialHub.Unicode.Age
import SerialHub.Unicode.Break
import SerialHub.Unicode.CaseFold
import SerialHub.Unicode.Category
import SerialHub.Unicode.Character
import SerialHub.Unicode.Property
import SerialHub.Unicode.Script
import SerialHub.Unicode.Table
import SerialHub.Workbench
import SerialHub.Proofs.Bench
import SerialHub.Proofs.Keyed
import SerialHub.Proofs.Registry.Steps
import SerialHub.Proofs.Registry.Conservation
import SerialHub.Proofs.Registry.Reopening
import SerialHub.Proofs.Registry.Configuration
import SerialHub.Proofs.Registry.Reconfiguration
import SerialHub.Proofs.Registry.FailedCalls
import SerialHub.Proofs.Terminal.Retention
import SerialHub.Proofs.Terminal.Lifecycle
import SerialHub.Proofs.Registry.Seating
import SerialHub.Proofs.Registry.Pass
import SerialHub.Proofs.Line.Overrides
import SerialHub.Proofs.Registry.Opening
import SerialHub.Proofs.Registry.Reading
import SerialHub.Proofs.Text.ByteOrder
import SerialHub.Proofs.Registry.Listing
import SerialHub.Proofs.Terminal.Commands
import SerialHub.Proofs.Port.OpenFailure
import SerialHub.Proofs.Blacklist
import SerialHub.Line.Json
import SerialHub.Proofs.Line.Names
import SerialHub.Proofs.Line.Forms
import SerialHub.Proofs.Settings.Overriding
import SerialHub.Proofs.Settings.Defaults
import SerialHub.Proofs.Settings.Table
import SerialHub.Proofs.Settings.Reload
import SerialHub.Proofs.Settings.Loading
