import QueryRouting.Proofs.Policy.Fallback

/-!
# What planning reports

A policy that leads statements to replicas reports on each bound statement that it looks at, once:
either the partition that the statement is led to, or the first of the steps to it that fails.  Of
a batch it looks at the bound statements that the batch holds directly, one after another up to the
first that is routable.

## Main definitions

* `Bound.Keyed`, `Cluster.Finds` — the steps up to the key, and up to the split of the table.
* `Cluster.Traced` — the event that goes with a bound statement.
* `Cluster.UpToFirst`, `Cluster.Examined` — the bound statements that are looked at.

## Main results

* `Cluster.traced_iff` — one event goes with each bound statement.
* `Cluster.report_message_iff` — the message tells whether the statement is routable.
* `Cluster.exists_examined` — the events of a search.
* `Cluster.placeFirst_cases` — where a search ends.
-/

namespace QueryRouting

/-- No reason for leaving a statement alone reads like a route. -/
theorem Unrouted.message_ne (reason : Unrouted) :
    reason.message ≠ "Routing to partition replicas" := by
  cases reason <;> simp [message]

/-- A bound statement has bind markers, and a key. -/
structure Bound.Keyed (b : Bound) (key : UInt16) : Prop where
  columns : b.prepared.columns ≠ []
  bytes : ∃ bytes, keyOfBytes bytes = key ∧
    routingKey b.prepared.routingIndexes b.prepared.columns b.values = .ok bytes

namespace Cluster

/-- A bound statement has a key, its table a full name, and the name a split. -/
structure Finds (c : Cluster) (keyspace : Option String) (b : Bound) (table : String)
    (key : UInt16) (split : Split) : Prop where
  keyed : b.Keyed key
  fullName : ∃ name, b.prepared.keyspace.or keyspace = some name ∧
    qualifiedName name b.prepared.table = table
  published : c.split? table = some split

/-- The event that goes with a bound statement: the first of the steps to the hosts of a partition
that fails, or the partition when none does. -/
inductive Traced (c : Cluster) (keyspace : Option String) (batchLevel : Option Consistency)
    (b : Bound) : Event → Prop where
  | noBindMarkers (columns : b.prepared.columns = []) :
    Traced c keyspace batchLevel b (.unrouted (.noBindMarkers b.prepared.query))
  | notRoutable {e : RoutingError} (columns : b.prepared.columns ≠ [])
    (bytes : routingKey b.prepared.routingIndexes b.prepared.columns b.values = .error e) :
    Traced c keyspace batchLevel b (.unrouted (.notRoutable e))
  | noKeyspace {key : UInt16} (keyed : b.Keyed key)
    (none : b.prepared.keyspace = none ∧ keyspace = none) :
    Traced c keyspace batchLevel b (.unrouted (.noKeyspace b.prepared.table))
  | noSplit {key : UInt16} {name : String} (keyed : b.Keyed key)
    (table : b.prepared.keyspace.or keyspace = some name)
    (none : c.split? (qualifiedName name b.prepared.table) = none) :
    Traced c keyspace batchLevel b (.unrouted (.noSplit (qualifiedName name b.prepared.table)))
  | keyPrecedes {table : String} {key : UInt16} {split : Split}
    (finds : c.Finds keyspace b table key split)
    (precedes : ∀ p ∈ split.toList, key.toNat < p.startKey) :
    Traced c keyspace batchLevel b (.unrouted (.keyPrecedes table key))
  | noReplicas {table : String} {key : UInt16} {split : Split} {p : Partition}
    (finds : c.Finds keyspace b table key split) (owner : split.lookup key.toNat = some p)
    (none : p.hosts = []) : Traced c keyspace batchLevel b (.unrouted (.noReplicas table key))
  | routed {table : String} {key : UInt16} {split : Split} {p : Partition}
    (finds : c.Finds keyspace b table key split) (owner : split.lookup key.toNat = some p)
    (hosts : p.hosts ≠ []) :
    Traced c keyspace batchLevel b (.routed table key p.startKey p.endKey
      ((b.level.or batchLevel).getD c.defaultLevel) p.hosts.length)

/-- What a search reports on one bound statement. -/
def report (c : Cluster) (keyspace : Option String) (candidate : Bound × Option Consistency) :
    Event :=
  match c.place keyspace candidate.2 candidate.1 with
  | .ok placement => placement.event
  | .error reason => .unrouted reason

variable {c : Cluster} {keyspace : Option String} {batchLevel : Option Consistency} {b : Bound}
  {e : Event}

/-- A bound statement without a key has the error of its routing key. -/
theorem key_eq_error_iff {fault : RoutingError} :
    b.key = .error fault ↔
      routingKey b.prepared.routingIndexes b.prepared.columns b.values = .error fault := by
  unfold Bound.key partitionKey
  cases routingKey b.prepared.routingIndexes b.prepared.columns b.values with
  | ok bytes => simp [Functor.map, Except.map]
  | error other => simp [Functor.map, Except.map]

/-- Some event goes with each bound statement. -/
theorem exists_traced (c : Cluster) (keyspace : Option String) (batchLevel : Option Consistency)
    (b : Bound) : ∃ e, c.Traced keyspace batchLevel b e := by
  by_cases hcolumns : b.prepared.columns = []
  · exact ⟨_, .noBindMarkers hcolumns⟩
  cases hkey : b.key with
  | error fault => exact ⟨_, .notRoutable hcolumns (key_eq_error_iff.mp hkey)⟩
  | ok key =>
    have hkeyed : b.Keyed key := ⟨hcolumns, Bound.key_eq_ok_iff.mp hkey⟩
    cases hname : b.prepared.keyspace.or keyspace with
    | none => exact ⟨_, .noKeyspace hkeyed (Option.or_eq_none_iff.mp hname)⟩
    | some name =>
      cases hsplit : c.split? (qualifiedName name b.prepared.table) with
      | none => exact ⟨_, .noSplit hkeyed hname hsplit⟩
      | some split =>
        have hfinds : c.Finds keyspace b _ key split := ⟨hkeyed, ⟨name, hname, rfl⟩, hsplit⟩
        cases hlookup : split.lookup key.toNat with
        | none => exact ⟨_, .keyPrecedes hfinds (Split.lookup_eq_none_iff.mp hlookup)⟩
        | some p =>
          by_cases hhosts : p.hosts = []
          · exact ⟨_, .noReplicas hfinds hlookup hhosts⟩
          · exact ⟨_, .routed hfinds hlookup hhosts⟩

/-- The event that goes with a statement is what is reported on it. -/
theorem Traced.eq_report (h : c.Traced keyspace batchLevel b e) :
    e = c.report keyspace (b, batchLevel) := by
  have hkeyed : ∀ {key : UInt16}, b.Keyed key → b.key = .ok key :=
    fun keyed => Bound.key_eq_ok_iff.mpr keyed.bytes
  cases h with
  | noBindMarkers columns => simp [report, place, columns]
  | notRoutable columns bytes => simp [report, place, columns, key_eq_error_iff.mpr bytes]
  | noKeyspace keyed none =>
    simp [report, place, keyed.columns, hkeyed keyed, Prepared.tableName?, none]
  | noSplit keyed name none =>
    simp [report, place, keyed.columns, hkeyed keyed, Prepared.tableName?, name, none]
  | keyPrecedes finds precedes =>
    have htable := Prepared.tableName?_eq_some_iff.mpr finds.fullName
    simp [report, place, finds.keyed.columns, hkeyed finds.keyed, htable, finds.published,
      Split.lookup_eq_none_iff.mpr precedes]
  | noReplicas finds owner none =>
    have htable := Prepared.tableName?_eq_some_iff.mpr finds.fullName
    simp [report, place, finds.keyed.columns, hkeyed finds.keyed, htable, finds.published, owner,
      none]
  | @routed table key split p finds owner hosts =>
    have htable := Prepared.tableName?_eq_some_iff.mpr finds.fullName
    have hplace : c.place keyspace batchLevel b
        = .ok ⟨table, key, p, c.levelOf batchLevel b⟩ :=
      place_eq_ok_iff.mpr ⟨finds.keyed.columns, hkeyed finds.keyed, htable,
        ⟨split, finds.published, owner⟩, hosts, rfl⟩
    rw [report, hplace]
    rfl

/-- **One event goes with each bound statement**, the one that is reported. -/
theorem traced_iff : c.Traced keyspace batchLevel b e ↔ e = c.report keyspace (b, batchLevel) := by
  constructor
  · exact Traced.eq_report
  · rintro rfl
    obtain ⟨e, h⟩ := c.exists_traced keyspace batchLevel b
    rwa [← h.eq_report]

/-- The message tells whether the statement is routable. -/
theorem report_message_iff :
    (c.report keyspace (b, batchLevel)).message = "Routing to partition replicas" ↔
      c.Routable keyspace b := by
  rw [← exists_place_iff batchLevel, report]
  cases hplace : c.place keyspace batchLevel b with
  | ok placement => exact iff_of_true rfl ⟨placement, rfl⟩
  | error reason => exact iff_of_false reason.message_ne (by simp)

theorem report_severity (candidate : Bound × Option Consistency) :
    (c.report keyspace candidate).severity = .debug := by
  rw [report]
  split <;> rfl

/-! ### The statements that are looked at -/

/-- Of the statements of a batch, the bound ones up to the first that is routable, with it.
The others, batches inside the batch among them, are passed over. -/
inductive UpToFirst (c : Cluster) (keyspace : Option String) :
    List Statement → List Bound → Prop where
  | nil : UpToFirst c keyspace [] []
  | unbound {inner : Statement} {later : List Statement} {bs : List Bound} :
    (∀ b, inner ≠ .bound b) → UpToFirst c keyspace later bs →
    UpToFirst c keyspace (inner :: later) bs
  | failed {b : Bound} {later : List Statement} {bs : List Bound} : ¬c.Routable keyspace b →
    UpToFirst c keyspace later bs → UpToFirst c keyspace (.bound b :: later) (b :: bs)
  | routed {b : Bound} (later : List Statement) : c.Routable keyspace b →
    UpToFirst c keyspace (.bound b :: later) [b]

/-- The bound statements that are looked at, each with the level of the batch that holds it. -/
inductive Examined (c : Cluster) (keyspace : Option String) :
    Option Statement → List (Bound × Option Consistency) → Prop where
  | absent : Examined c keyspace none []
  | simple (query : String) (own : Option String) (level : Option Consistency) :
    Examined c keyspace (some (.simple query own level)) []
  | bound (b : Bound) : Examined c keyspace (some (.bound b)) [(b, none)]
  | batch {statements : List Statement} {bs : List Bound} (level : Option Consistency) :
    UpToFirst c keyspace statements bs →
    Examined c keyspace (some (.batch statements level)) (bs.map fun b => (b, level))

/-- A search reports on the first statement, and goes on when it is not routable. -/
theorem placeFirst_cons (c : Cluster) (keyspace : Option String) (b : Bound)
    (batchLevel : Option Consistency) (later : List (Bound × Option Consistency)) :
    (c.Routable keyspace b ∧
      (c.placeFirst keyspace ((b, batchLevel) :: later)).2 = [c.report keyspace (b, batchLevel)]) ∨
    (¬c.Routable keyspace b ∧
      (c.placeFirst keyspace ((b, batchLevel) :: later)).2
        = c.report keyspace (b, batchLevel) :: (c.placeFirst keyspace later).2) := by
  rw [← exists_place_iff batchLevel, placeFirst, report]
  cases hplace : c.place keyspace batchLevel b with
  | ok placement => exact Or.inl ⟨⟨placement, rfl⟩, rfl⟩
  | error reason => exact Or.inr ⟨by simp, rfl⟩

/-- The events of a search through a batch. -/
theorem exists_upToFirst (c : Cluster) (keyspace : Option String) (level : Option Consistency)
    (statements : List Statement) :
    ∃ bs, c.UpToFirst keyspace statements bs ∧
      (c.placeStatement keyspace (some (.batch statements level))).2
        = bs.map fun b => c.report keyspace (b, level) := by
  induction statements with
  | nil => exact ⟨[], .nil, rfl⟩
  | cons inner later ih =>
    obtain ⟨bs, hbs, hevents⟩ := ih
    cases inner with
    | bound b =>
      rcases c.placeFirst_cons keyspace b level (Statement.batch later level).candidates with
        ⟨hroutable, hfirst⟩ | ⟨hnot, hfirst⟩
      · exact ⟨[b], .routed later hroutable, hfirst⟩
      · refine ⟨b :: bs, .failed hnot hbs, hfirst.trans ?_⟩
        rw [List.map_cons, ← hevents]
        rfl
    | batch statements own => exact ⟨bs, .unbound (by simp) hbs, hevents⟩
    | simple query own level => exact ⟨bs, .unbound (by simp) hbs, hevents⟩

/-- **The events of a search** are those of the statements that are looked at, in order. -/
theorem exists_examined (c : Cluster) (keyspace : Option String) (statement : Option Statement) :
    ∃ examined, c.Examined keyspace statement examined ∧
      (c.placeStatement keyspace statement).2 = examined.map (c.report keyspace) := by
  cases statement with
  | none => exact ⟨[], .absent, rfl⟩
  | some statement =>
    cases statement with
    | simple query own level => exact ⟨[], .simple query own level, rfl⟩
    | bound b =>
      refine ⟨[(b, none)], .bound b, ?_⟩
      rcases c.placeFirst_cons keyspace b none [] with ⟨-, hfirst⟩ | ⟨-, hfirst⟩
      · exact hfirst
      · exact hfirst
    | batch statements level =>
      obtain ⟨bs, hbs, hevents⟩ := c.exists_upToFirst keyspace level statements
      refine ⟨_, .batch level hbs, ?_⟩
      rw [hevents, List.map_map]
      rfl

/-- **Where a search ends**: with the event of the placement, or with no event of the kind. -/
theorem placeFirst_cases (c : Cluster) (keyspace : Option String)
    (candidates : List (Bound × Option Consistency)) :
    (∃ placement, (c.placeFirst keyspace candidates).1 = some placement ∧
      (c.placeFirst keyspace candidates).2.getLast? = some placement.event) ∨
    ((c.placeFirst keyspace candidates).1 = none ∧
      ∀ e ∈ (c.placeFirst keyspace candidates).2, ∃ reason, e = .unrouted reason) := by
  induction candidates with
  | nil => exact Or.inr ⟨rfl, by simp [placeFirst]⟩
  | cons candidate later ih =>
    obtain ⟨b, batchLevel⟩ := candidate
    rw [placeFirst]
    cases hplace : c.place keyspace batchLevel b with
    | ok placement => exact Or.inl ⟨placement, rfl, rfl⟩
    | error reason =>
      rcases ih with ⟨placement, hfound, hlast⟩ | ⟨hnone, hevents⟩
      · refine Or.inl ⟨placement, hfound, ?_⟩
        rw [List.getLast?_cons, hlast]
        rfl
      · refine Or.inr ⟨hnone, fun e he => ?_⟩
        rcases List.mem_cons.mp he with rfl | he
        · exact ⟨reason, rfl⟩
        · exact hevents e he

end Cluster

end QueryRouting
