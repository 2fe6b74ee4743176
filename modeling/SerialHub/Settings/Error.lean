import SerialHub.Error
import SerialHub.Text.Quote

/-!
# Configuration errors

Reading, checking or saving a configuration fails in one of seven ways: the file cannot be read,
parsed or written, the configuration cannot be encoded, the line settings are refused, a setting is
out of its range, or an environment variable holds a refused value. Reading, parsing and writing
repeat the wording of the reader or writer, so they carry no message of their own here.
-/

namespace SerialHub.Settings

/-- Why a configuration could not be read, checked or saved. -/
inductive ConfigError where
  | read
  | parse
  | encode
  | write
  | line (e : SerialError)
  | invalid (key message : String)
  | env (var value expected : String)
  deriving Repr, DecidableEq, Inhabited

namespace ConfigError

/-- The name of the kind of failure. -/
def name : ConfigError → String
  | .read => "Read"
  | .parse => "Parse"
  | .encode => "Encode"
  | .write => "Write"
  | .line _ => "Line"
  | .invalid _ _ => "Invalid"
  | .env _ _ _ => "Env"

/-- The message of a failure, for the kinds that state one. -/
def message? : ConfigError → Option String
  | .encode => some "cannot encode configuration: out-of-range value for u64 type"
  | .line e => some ("[serial] " ++ e.message)
  | .invalid key message => some (key ++ ": " ++ message)
  | .env var value expected => some (var ++ "=" ++ Text.quoted value ++ ": expected " ++ expected)
  | _ => none

end ConfigError

end SerialHub.Settings
