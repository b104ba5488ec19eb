import QueryRouting.Config.Basic
import QueryRouting.Json.Tree
import QueryRouting.Json.Writer

/-!
# Stored configurations

The form of a configuration as a JSON text.  An object names its settings: those
it leaves out take their defaults, members with other names are passed over, and a
setting named twice is an error.  An array gives the settings by position, and
those past its end take their defaults.

## Main definitions

* `Config.read?` — the configuration of a text.
* `Config.write` — the text of a configuration.
-/

namespace QueryRouting
namespace Config

open Json (Tree)

/-- The names of the settings in a text, in the order of an array. -/
inductive Setting where
  | localDatacenter
  | remoteHosts
  | defaultLevel
  | partitionAware
  deriving DecidableEq, Repr

namespace Setting

/-- The settings in the order of an array. -/
def all : List Setting := [localDatacenter, remoteHosts, defaultLevel, partitionAware]

/-- The name of a setting. -/
def name : Setting → String
  | localDatacenter => "local_datacenter"
  | remoteHosts => "used_hosts_per_remote_dc"
  | defaultLevel => "default_consistency"
  | partitionAware => "partition_aware"

/-- The setting of a name. -/
def ofName? (s : String) : Option Setting := all.find? (·.name = s)

end Setting

/-! ### Reading -/

/-- A text, or null for none. -/
def readDatacenter? : Tree → Option (Option String)
  | .null => some none
  | tree => some <$> tree.text?

/-- A number without sign, fraction and exponent that fits in 64 bits. -/
def readCount? : Tree → Option UInt64
  | .number literal => UInt64.ofNat <$> Numeral.readBelow? Numeral.wordCount literal
  | _ => none

/-- The name of a level. -/
def readLevel? (tree : Tree) : Option Consistency := tree.word?.bind Consistency.ofName?

/-- A truth value. -/
def readFlag? : Tree → Option Bool
  | .bool b => some b
  | _ => none

/-- The configuration with one setting as the value says. -/
def set? (c : Config) (tree : Tree) : Setting → Option Config
  | .localDatacenter => (readDatacenter? tree).map fun dc => { c with localDatacenter := dc }
  | .remoteHosts => (readCount? tree).map fun n => { c with remoteHosts := n }
  | .defaultLevel => (readLevel? tree).map fun level => { c with defaultLevel := level }
  | .partitionAware => (readFlag? tree).map fun b => { c with partitionAware := b }

/-- The configuration with settings by position. -/
def setAll? (c : Config) : List Setting → List Tree → Option Config
  | _, [] => some c
  | [], _ :: _ => none
  | setting :: settings, tree :: trees => do
    let c ← c.set? tree setting
    c.setAll? settings trees

/-- The configuration with settings by name, none of which is among `seen`. -/
def setMembers? (c : Config) (seen : List Setting) :
    List (List Json.Piece × Tree) → Option Config
  | [] => some c
  | (key, tree) :: members => do
    match Setting.ofName? (← Json.textOf? key) with
    | none => c.setMembers? seen members
    | some setting =>
      if setting ∈ seen then none
      else
        let c ← c.set? tree setting
        c.setMembers? (setting :: seen) members

/-- The configuration that a value describes. -/
def ofTree? : Tree → Option Config
  | .array items => setAll? {} Setting.all items
  | .object members => setMembers? {} [] members
  | _ => none

/-- The configuration that a text describes. -/
def read? (s : String) : Option Config := (Json.parse? s).bind ofTree?

/-! ### Writing -/

/-- The text of the value of a setting. -/
def writeSetting (c : Config) : Setting → String
  | .localDatacenter => (c.localDatacenter.map Json.quote).getD "null"
  | .remoteHosts => toString c.remoteHosts.toNat
  | .defaultLevel => Json.quote c.defaultLevel.name
  | .partitionAware => if c.partitionAware then "true" else "false"

/-- The text of a configuration. -/
def write (c : Config) : String :=
  Json.writeObject (Setting.all.map fun setting => (setting.name, c.writeSetting setting))

/-- Whether a configuration comes back from its text. -/
def survivesStorage (c : Config) : Bool := read? c.write = some c

end Config
end QueryRouting
