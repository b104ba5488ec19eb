import QueryRouting.Config.Basic
import QueryRouting.Router

/-!
# The policy of a configuration

A local datacenter makes the policy datacenter-aware, otherwise it is round robin;
partition awareness wraps either.

## Main definitions

* `Config.buildPolicy` — a new policy, when the configuration is sound.
-/

namespace QueryRouting

/-- A new policy as the configuration describes it, over the tables of a cluster. -/
def Config.buildPolicy (c : Config) (r : Router) (cluster : Nat) :
    Except ConfigError (Policy × Router × List Event) :=
  match c.check with
  | .error e => .error e
  | .ok () =>
    let (child, r) :=
      match c.localDatacenter with
      | some dc => r.datacenterAware dc c.remoteHosts.toNat
      | none => r.roundRobin
    let policy := if c.partitionAware then .partitionAware child cluster else child
    .ok (policy, r, [.policyBuilt c.localDatacenter c.remoteHosts c.partitionAware])

end QueryRouting
