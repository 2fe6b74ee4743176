import SerialHub.Settings.Serial
import SerialHub.Settings.Terminal

/-!
# A whole configuration

A configuration has three sections: serial, terminal and logging. Every section and every
setting has a default, so an empty configuration file describes the default configuration.
The logging section names a level, kept as written, and one of three output formats.
-/

namespace SerialHub.Settings

/-- How log lines are written. -/
inductive LogFormat where
  | json
  | pretty
  | compact
  deriving Repr, DecidableEq, Inhabited

/-- The name of a log format, as a configuration writes it. -/
def LogFormat.name : LogFormat → String
  | .json => "json"
  | .pretty => "pretty"
  | .compact => "compact"

/-- The log format of a name, compared exactly. -/
def LogFormat.ofName? : String → Option LogFormat
  | "json" => some .json
  | "pretty" => some .pretty
  | "compact" => some .compact
  | _ => none

/-- The logging section. -/
structure LoggingConfig where
  level : String := "info"
  format : LogFormat := .pretty
  deriving Repr, DecidableEq, Inhabited

/-- A whole configuration. -/
structure Config where
  serial : SerialSettings := {}
  terminal : TerminalSettings := {}
  logging : LoggingConfig := {}
  deriving Inhabited, DecidableEq

end SerialHub.Settings
