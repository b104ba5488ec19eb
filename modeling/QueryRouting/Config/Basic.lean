import QueryRouting.Consistency

/-!
# The configuration of the router

## Main definitions

* `Config` — the settings, with their defaults.
* `Config.check` — the one rule that ties two settings together.
-/

namespace QueryRouting

/-- The settings of the router. -/
structure Config where
  /-- The datacenter that counts as local; without one, every host does. -/
  localDatacenter : Option String := none
  /-- How many hosts of each other datacenter may enter a plan. -/
  remoteHosts : UInt64 := 0
  /-- The level of statements that set none. -/
  defaultLevel : Consistency := .localOne
  /-- Whether statements are routed to the replicas of their partition. -/
  partitionAware : Bool := true
  deriving DecidableEq, Repr, Inhabited

/-- Remote hosts are allowed without a local datacenter to be remote from. -/
inductive ConfigError where
  | remoteWithoutLocal
  deriving DecidableEq, Repr

/-- The description of an error. -/
def ConfigError.message : ConfigError → String
  | .remoteWithoutLocal => "Remote datacenter hosts require a local datacenter"

namespace Config

/-- Remote hosts need a local datacenter. -/
def check (c : Config) : Except ConfigError Unit :=
  if 0 < c.remoteHosts ∧ c.localDatacenter = none then .error .remoteWithoutLocal else .ok ()

end Config

end QueryRouting
