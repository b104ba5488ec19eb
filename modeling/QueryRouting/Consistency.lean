import QueryRouting.Text.Blank

/-!
# Consistency levels

How strong a guarantee a statement asks for.  Strong levels need answers from
several localities, so the replicas of a statement are then taken from every
datacenter.  The relaxed level lets the replicas be tried in any order.

## Main definitions

* `Consistency` — the levels; the default is `localOne`.
* `Consistency.isStrong`, `Consistency.isRelaxed` — the two special classes.
* `Consistency.name`, `Consistency.ofName?` — the name of a level.
* `Consistency.parse` — reading a name with tolerance for case, hyphens and blanks.
-/

namespace QueryRouting

/-- The guarantee that a statement asks for. -/
inductive Consistency where
  | any
  | one
  | two
  | three
  | quorum
  | all
  | localQuorum
  | eachQuorum
  | serial
  | localSerial
  | localOne
  /-- Any replica that is up may answer. -/
  | consistentPrefix
  deriving DecidableEq, Repr

/-- A text that names no consistency level. -/
structure UnknownConsistency where
  text : String
  deriving DecidableEq, Repr

/-- The description of a text that names no level. -/
def UnknownConsistency.message (e : UnknownConsistency) : String :=
  "Unknown consistency level: " ++ e.text

namespace Consistency

instance : Inhabited Consistency := ⟨localOne⟩

/-- The levels. -/
def levels : List Consistency :=
  [any, one, two, three, quorum, all, localQuorum, eachQuorum, serial, localSerial, localOne,
    consistentPrefix]

/-- The levels whose quorum spans localities. -/
def isStrong : Consistency → Bool
  | quorum | all | eachQuorum | serial => true
  | _ => false

/-- The level that lets replicas be tried in any order. -/
def isRelaxed : Consistency → Bool
  | consistentPrefix => true
  | _ => false

/-- The name of a level. -/
def name : Consistency → String
  | any => "ANY"
  | one => "ONE"
  | two => "TWO"
  | three => "THREE"
  | quorum => "QUORUM"
  | all => "ALL"
  | localQuorum => "LOCAL_QUORUM"
  | eachQuorum => "EACH_QUORUM"
  | serial => "SERIAL"
  | localSerial => "LOCAL_SERIAL"
  | localOne => "LOCAL_ONE"
  | consistentPrefix => "CONSISTENT_PREFIX"

instance : ToString Consistency := ⟨name⟩

/-- The level of a name. -/
def ofName? (s : String) : Option Consistency := levels.find? (·.name = s)

/-- The letter of a name that a character stands for: ASCII letters lose their
case, and a hyphen is a low line. -/
def nameLetter (c : Char) : Char := if c = '-' then '_' else c.toUpper

/-- The level that a text names, apart from blanks at its ends, the case of its
letters and hyphens in place of low lines. -/
def parse (s : String) : Except UnknownConsistency Consistency :=
  match ofName? (String.ofList ((Blank.trimChars s.toList).map nameLetter)) with
  | some level => .ok level
  | none => .error ⟨s⟩

end Consistency

end QueryRouting
