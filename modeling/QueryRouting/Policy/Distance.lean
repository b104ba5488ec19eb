/-!
# Distances

How near a host is to the client, as far as a policy cares.

## Main definitions

* `Distance` — the three classes.
* `Distance.name`, `Distance.ofName?` — the name of a class.
-/

namespace QueryRouting

/-- How near a host is to the client. -/
inductive Distance where
  /-- Preferred. -/
  | local
  /-- Fit as a fallback. -/
  | remote
  /-- Never contacted. -/
  | ignored
  deriving DecidableEq, Repr

namespace Distance

/-- The name of a distance. -/
def name : Distance → String
  | .local => "Local"
  | .remote => "Remote"
  | .ignored => "Ignored"

instance : ToString Distance := ⟨name⟩

/-- The distance of a name. -/
def ofName? (s : String) : Option Distance := [.local, .remote, .ignored].find? (·.name = s)

end Distance

end QueryRouting
