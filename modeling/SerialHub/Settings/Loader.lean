import SerialHub.Settings.Decode
import SerialHub.Settings.Encode
import SerialHub.Settings.Environment
import SerialHub.Blacklist

/-!
# Loading and saving configurations

Loading reads a file's text as a table with a TOML library, given as a parameter, takes the
configuration the table describes and applies the environment; without a file the defaults
are taken, and a bad override is ignored while what was applied before it stays. Saving fails
only when an unsigned setting does not fit a file's integers.
-/

namespace SerialHub.Settings

section

variable (toml : Toml.Codec)

/-- The configuration a file's text describes, with the environment's overrides applied. -/
def loadText (text : String) (env : Environment) : Except ConfigError Config :=
  match toml.read text >>= Config.ofTable? with
  | none => .error .parse
  | some c =>
    match applyEnvironment env c with
    | (c', none) => .ok c'
    | (_, some e) => .error e

/-- The text a configuration is saved as. -/
def saveText (c : Config) : Except ConfigError String :=
  c.toTable.map toml.write

/-- Saves a configuration and loads the saved text again under an environment. -/
def reload (c : Config) (env : Environment) : Except ConfigError Config :=
  match saveText toml c with
  | .ok text => loadText toml text env
  | .error e => .error e

end

/-- The default configuration with the environment's overrides applied, a bad one ignored. -/
def withDefaults (env : Environment) : Config :=
  (applyEnvironment env {}).1

/-- The blacklist of a configuration, given the regular expression library and the text of its
blacklist file if it was read: the entries of the serial section, then the file's lines. -/
def Config.blacklist (compile : String → Option (String → Bool)) (c : Config)
    (fileText : Option String) : Blacklist :=
  let b := Blacklist.ofEntries compile c.serial.blacklist
  match fileText with
  | some text => b.addText compile text
  | none => b

end SerialHub.Settings
