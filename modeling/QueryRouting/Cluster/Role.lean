import QueryRouting.Text.Blank

/-!
# Replica roles

What a host does for a partition that it holds a copy of.

## Main definitions

* `ReplicaRole` — the roles.
* `ReplicaRole.name`, `ReplicaRole.ofName?` — the name of a role.
* `ReplicaRole.parse` — reading a name with tolerance for case and blanks.
-/

namespace QueryRouting

/-- What a host does for a partition. -/
inductive ReplicaRole where
  | leader
  | follower
  | readReplica
  deriving DecidableEq, Repr

/-- A text that names no role. -/
structure UnknownRole where
  text : String
  deriving DecidableEq, Repr

/-- The description of a text that names no role. -/
def UnknownRole.message (e : UnknownRole) : String := "Unknown replica role: " ++ e.text

namespace ReplicaRole

/-- The roles. -/
def roles : List ReplicaRole := [leader, follower, readReplica]

/-- The name of a role. -/
def name : ReplicaRole → String
  | leader => "LEADER"
  | follower => "FOLLOWER"
  | readReplica => "READ_REPLICA"

instance : ToString ReplicaRole := ⟨name⟩

/-- The role of a name. -/
def ofName? (s : String) : Option ReplicaRole := roles.find? (·.name = s)

/-- The role that a text names, apart from blanks at its ends and the case of its
letters. -/
def parse (s : String) : Except UnknownRole ReplicaRole :=
  match ofName? (String.ofList ((Blank.trimChars s.toList).map Char.toUpper)) with
  | some role => .ok role
  | none => .error ⟨s⟩

end ReplicaRole

end QueryRouting
