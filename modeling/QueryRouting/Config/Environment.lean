import QueryRouting.Config.Basic
import QueryRouting.Event
import QueryRouting.Text.Numeral
import QueryRouting.Text.Utf8

/-!
# Configuration from environment variables

Each setting has a variable of its own.  A variable that is not set, or does not
hold UTF-8, counts as absent; a text that a setting cannot use leaves the setting
at its default.  Of these texts only one that names no level is reported.

## Main definitions

* `Environment` — the variables as byte strings.
* `Config.ofEnvironment` — the configuration.
* `Config.load` — the configuration, with what there is to report.
-/

namespace QueryRouting

/-- The values of the environment variables that are set. -/
abbrev Environment := String → Option Bytes

/-- The text of a variable; `none` when it is not set or holds no text. -/
def Environment.text? (env : Environment) (name : String) : Option String := do
  (Utf8.decode (← env name)).toOption

namespace Config

/-- The datacenter that a text names: the text without blanks at its ends, if
anything is left. -/
def datacenterOfText? (s : String) : Option String :=
  if Blank.trim s = "" then none else some (Blank.trim s)

/-- The number of hosts that a text gives; zero when it gives none. -/
def hostsOfText (s : String) : UInt64 := UInt64.ofNat ((Numeral.readWord64? s).getD 0)

/-- The level that a text names; the default when it names none. -/
def levelOfText (s : String) : Consistency := (Consistency.parse s).toOption.getD .localOne

/-- What is reported on a text for the default level. -/
def levelEvents (s : String) : List Event :=
  match Consistency.parse s with
  | .ok _ => []
  | .error e => [.unknownDefaultLevel e]

/-- The flag that a text spells; true when it spells none. -/
def flagOfText (s : String) : Bool := s ≠ "false"

/-- The configuration that environment variables describe. -/
def ofEnvironment (env : Environment) : Config where
  localDatacenter := (env.text? "STRATA_LOCAL_DC").bind datacenterOfText?
  remoteHosts := ((env.text? "STRATA_REMOTE_DC_HOSTS").map hostsOfText).getD 0
  defaultLevel := ((env.text? "STRATA_CONSISTENCY").map levelOfText).getD .localOne
  partitionAware := ((env.text? "STRATA_PARTITION_AWARE").map flagOfText).getD true

/-- The configuration that environment variables describe, and what is reported while they
are read. -/
def load (env : Environment) : Config × List Event :=
  (ofEnvironment env, ((env.text? "STRATA_CONSISTENCY").map levelEvents).getD [])

end Config

end QueryRouting
