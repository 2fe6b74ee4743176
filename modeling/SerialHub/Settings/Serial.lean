import SerialHub.Line.Overrides
import SerialHub.Settings.Error
import SerialHub.Keyed

/-!
# The serial section of a configuration

The serial section holds the raw line settings every port starts from and the options of the port
registry, with blacklist entries, an extra blacklist file and port aliases. The raw settings are
checked by applying them as overrides to the default line configuration, after a zero reopening
interval is refused; an alias is looked up once.
-/

namespace SerialHub.Settings

open SerialHub.Line

/-- The serial section: line settings as raw values, and the registry's options. -/
structure SerialSettings where
  baudrate : Nat := 9600
  byteSize : Nat := 8
  parity : String := "N"
  stopBits : Float := 1.0
  flowControl : String := "none"
  readTimeoutMs : Int := 1000
  writeTimeoutMs : Int := 1000
  autoReconnect : Bool := true
  reconnectIntervalMs : Nat := 2000
  shutdownTimeoutMs : Nat := 5000
  blacklist : List String := []
  blacklistFile : Option String := none
  portAliases : List (String × String) := []
  deriving Inhabited, DecidableEq

/-- The options the port registry runs with. -/
structure ManagerOptions where
  autoReconnect : Bool
  reconnectIntervalMs : Nat
  shutdownTimeoutMs : Nat
  defaults : LineConfig
  deriving Inhabited

namespace SerialSettings

/-- All seven line settings as overrides. -/
def overrides (s : SerialSettings) : Overrides where
  baudrate := some s.baudrate
  byteSize := some s.byteSize
  parity := some s.parity
  stopBits := some s.stopBits
  flowControl := some s.flowControl
  readTimeoutMs := some s.readTimeoutMs
  writeTimeoutMs := some s.writeTimeoutMs

/-- The line configuration the settings describe, checked. -/
def lineConfig (s : SerialSettings) : Except ConfigError LineConfig :=
  match s.overrides.apply LineConfig.default with
  | .ok c => .ok c
  | .error e => .error (.line e)

/-- The registry's options, with a positive reopening interval and checked line settings. -/
def managerOptions (s : SerialSettings) : Except ConfigError ManagerOptions :=
  if s.reconnectIntervalMs == 0 then
    .error (.invalid "serial.reconnect_interval_ms" "must be greater than 0")
  else
    match s.lineConfig with
    | .ok c => .ok ⟨s.autoReconnect, s.reconnectIntervalMs, s.shutdownTimeoutMs, c⟩
    | .error e => .error e

/-- The port an alias stands for, or the name itself when it is no alias. -/
def resolvePort (s : SerialSettings) (name : String) : String :=
  (s.portAliases.lookup name).getD name

end SerialSettings

end SerialHub.Settings
