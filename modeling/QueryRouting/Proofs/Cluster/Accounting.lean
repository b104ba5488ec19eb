import QueryRouting.Proofs.Cluster.Publication

/-!
# A refresh accounts for its rows

A refresh leaves out the rows whose ends make up no range, and the replicas that no registered
host is.  Nothing is left out in silence: every row is either published as a partition or reported
as malformed, and never both, and every replica is either a host of its row or reported as
unknown.  The tables are reported one by one, and the refresh as a whole last.

## Main definitions

* `Event.select` — the events of one kind.
* `Tables.partitions` — the partitions of all splits.

## Main results

* `Tables.perm_partitions_ofRows` — what is published are the rows with a range.
* `Cluster.select_malformedRange_refresh`, `Cluster.select_unknownReplica_refresh` — what is
  reported on the rows.
* `Cluster.select_splitBuilt_refresh`, `Cluster.select_refreshed_refresh` — what is reported on
  the tables and on the whole.
* `Cluster.refresh_accounts` — rows, replicas and tables are accounted for.
-/

namespace QueryRouting

/-! ### Events of one kind -/

namespace Event

/-- The events of a severity and a message. -/
def select (severity : Severity) (message : String) (events : List Event) : List Event :=
  events.filter fun event => event.severity = severity ∧ event.message = message

section

variable {α : Type} {severity : Severity} {message : String}

theorem select_append (early late : List Event) : select severity message (early ++ late)
    = select severity message early ++ select severity message late :=
  List.filter_append ..

theorem select_flatMap (xs : List α) (events : α → List Event) :
    select severity message (xs.flatMap events)
      = xs.flatMap fun x => select severity message (events x) :=
  List.filter_flatMap

variable {xs : List α} {report : α → Event}

/-- Reports of one kind are all of its severity and message. -/
theorem select_map (hseverity : ∀ x, (report x).severity = severity)
    (hmessage : ∀ x, (report x).message = message) :
    select severity message (xs.map report) = xs.map report := by
  apply List.filter_eq_self.mpr
  intro event hevent
  obtain ⟨x, -, rfl⟩ := List.mem_map.mp hevent
  exact decide_eq_true ⟨hseverity x, hmessage x⟩

/-- Reports with another message do not count. -/
theorem select_map_of_ne (hmessage : ∀ x, (report x).message ≠ message) :
    select severity message (xs.map report) = [] := by
  apply List.filter_eq_nil_iff.mpr
  intro event hevent
  obtain ⟨x, -, rfl⟩ := List.mem_map.mp hevent
  simp [hmessage x]

end

end Event

/-! ### Rows and partitions -/

namespace Tables

/-- The partitions of all splits. -/
def partitions (t : Tables) : List Partition := t.entries.flatMap (·.2.toList)

/-- **The splits hold one partition for each row with a range**, and no other. -/
theorem perm_partitions_ofRows (registry : Registry) (rows : List PartitionRow) :
    (ofRows registry rows).partitions.Perm
      ((rows.filter (·.isValid)).map (·.partition registry)) := by
  let names := sortBy id ((rows.filter (·.isValid)).map (·.tableName))
  let rowsNamed := fun name => (rows.filter (·.isValid)).filter (·.tableName = name)
  have hsplit : ∀ name ∈ names, (splitOfRows registry (rows.filter (·.isValid)) name).toList.Perm
      ((rowsNamed name).map (·.partition registry)) := by
    intro name _
    rw [splitOfRows, Split.toList_ofList]
    exact List.mergeSort_perm ..
  have hgroups : (names.flatMap rowsNamed).Perm (rows.filter (·.isValid)) :=
    perm_flatMap_filter (ascending_sortBy id _).nodup fun row hrow =>
      mem_sortBy_names.mpr (List.mem_map_of_mem hrow)
  have hpartitions : (ofRows registry rows).partitions = names.flatMap fun name =>
      (splitOfRows registry (rows.filter (·.isValid)) name).toList := by
    rw [partitions, ofRows, ofNames, List.flatMap_map]
  rw [hpartitions]
  refine (List.Perm.flatMap_left names hsplit).trans ?_
  rw [← List.map_flatMap]
  exact hgroups.map _

end Tables

open Event (select)

/-! ### What is reported -/

namespace PartitionRow

variable (row : PartitionRow) (registry : Registry)

/-- A row whose ends make up no range is reported once, and no other row is. -/
theorem select_malformedRange_events :
    select .warn "Skipping partition with malformed key range" (row.events registry)
      = if row.isValid then [] else [.malformedRange row.tableName row.startKey row.endKey] := by
  rw [events, Event.select_append, Event.select_map_of_ne fun _ => by simp [Event.message]]
  split <;> rfl

/-- Every replica of a row that no registered host is gets one report. -/
theorem select_unknownReplica_events :
    select .warn "Partition replica is not a known host" (row.events registry)
      = (row.unknownReplicas registry).map fun (ip, role) =>
          .unknownReplica row.tableName ip role := by
  rw [events, Event.select_append]
  rw [Event.select_map]
  · split <;> simp [select, Event.message]
  · intro _
    rfl
  · intro _
    rfl

/-- The replicas that are reported are those whose IP address no registered host has. -/
theorem length_unknownReplicas :
    (row.unknownReplicas registry).length
      = row.replicas.countP fun entry => ∀ h ∈ registry.hosts, h.address.ip ≠ entry.1 := by
  rw [unknownReplicas, ← List.countP_eq_length_filter]
  refine List.countP_congr fun entry _ => ?_
  rw [Option.isNone_iff_eq_none, Registry.findIp?_eq_none_iff, decide_eq_true_eq]

end PartitionRow

namespace Cluster

variable (c : Cluster) (registry : Registry) (rows : List PartitionRow)

/-- The reports of one kind: those on the rows, then those on the tables and on the whole. -/
theorem select_refresh (severity : Severity) (message : String) :
    let tables := (c.refresh registry rows).cluster.tables
    select severity message (c.refresh registry rows).events
      = (rows.flatMap fun row => select severity message (row.events registry)) ++
        select severity message (tables.entries.map fun (name, split) =>
          .splitBuilt name split.size) ++
        select severity message [.refreshed tables.size rows.length] := by
  simp only [refresh_eq, Event.select_append, Event.select_flatMap]

/-- **Each row without a range is reported**, and no row with one. -/
theorem select_malformedRange_refresh :
    select .warn "Skipping partition with malformed key range" (c.refresh registry rows).events
      = (rows.filter (!·.isValid)).map fun row =>
          .malformedRange row.tableName row.startKey row.endKey := by
  have hrows : ∀ rows : List PartitionRow, (rows.flatMap fun row =>
        select .warn "Skipping partition with malformed key range" (row.events registry))
      = (rows.filter (!·.isValid)).map fun row =>
          .malformedRange row.tableName row.startKey row.endKey := by
    intro rows
    induction rows with
    | nil => rfl
    | cons row rows ih =>
      rw [List.flatMap_cons, ih, PartitionRow.select_malformedRange_events]
      cases hvalid : row.isValid <;> simp [hvalid]
  rw [select_refresh, Event.select_map_of_ne fun _ => by simp [Event.message], hrows,
    List.append_nil]
  exact List.append_nil _

/-- **Each replica that no registered host is gets a report**, in the rows that are left out as
well. -/
theorem select_unknownReplica_refresh :
    select .warn "Partition replica is not a known host" (c.refresh registry rows).events
      = rows.flatMap fun row => (row.unknownReplicas registry).map fun (ip, role) =>
          .unknownReplica row.tableName ip role := by
  simp only [select_refresh, PartitionRow.select_unknownReplica_events]
  rw [Event.select_map_of_ne fun _ => by simp [Event.message], List.append_nil]
  exact List.append_nil _

theorem length_select_unknownReplica_refresh :
    (select .warn "Partition replica is not a known host" (c.refresh registry rows).events).length
      = (rows.flatMap (·.replicas)).countP
          fun entry => ∀ h ∈ registry.hosts, h.address.ip ≠ entry.1 := by
  rw [select_unknownReplica_refresh, List.length_flatMap, List.countP_flatMap]
  simp only [List.length_map, PartitionRow.length_unknownReplicas, Function.comp_def]

/-- The rows are reported on in two ways, and in no other. -/
theorem flatMap_select_events {severity : Severity} {message : String}
    (hreplica : "Partition replica is not a known host" ≠ message)
    (hrange : "Skipping partition with malformed key range" ≠ message) :
    (rows.flatMap fun row => select severity message (row.events registry)) = [] := by
  apply List.flatMap_eq_nil_iff.mpr
  intro row _
  rw [PartitionRow.events, Event.select_append, Event.select_map_of_ne]
  · split
    · rfl
    · simp [select, Event.message, hrange]
  · intro _
    exact hreplica

/-- **Each table is reported**, with the number of its partitions. -/
theorem select_splitBuilt_refresh :
    select .debug "Built table split metadata" (c.refresh registry rows).events
      = (c.refresh registry rows).cluster.tables.entries.map fun (name, split) =>
          .splitBuilt name split.size := by
  rw [select_refresh, flatMap_select_events registry rows (by decide) (by decide),
    List.nil_append, Event.select_map]
  · exact List.append_nil _
  · intro _
    rfl
  · intro _
    rfl

/-- **A refresh is reported once**, with the numbers of tables and rows. -/
theorem select_refreshed_refresh :
    select .info "Refreshed partition metadata" (c.refresh registry rows).events
      = [.refreshed (c.refresh registry rows).cluster.tables.size rows.length] := by
  rw [select_refresh, flatMap_select_events registry rows (by decide) (by decide),
    List.nil_append, Event.select_map_of_ne]
  · rfl
  · intro _
    simp [Event.message]

/-- **A refresh accounts for every row and every replica.**  The rows that are reported as
malformed and the partitions that are published make up as many as there are rows.  A replica is
reported as unknown for each entry of a row, whether the row is left out or not, whose IP address
no registered host has.  Each table that is published is reported once, with the number of its
partitions, and at the end the numbers of tables and rows are reported, once. -/
theorem refresh_accounts (c : Cluster) (registry : Registry) (rows : List PartitionRow) :
    let tables := (c.refresh registry rows).cluster.tables
    let events := (c.refresh registry rows).events
    (select .warn "Skipping partition with malformed key range" events).length
        + tables.partitions.length = rows.length ∧
      (select .warn "Partition replica is not a known host" events).length
        = (rows.flatMap (·.replicas)).countP
            (fun entry => ∀ h ∈ registry.hosts, h.address.ip ≠ entry.1) ∧
      (select .debug "Built table split metadata" events).Perm
        (tables.entries.map fun (name, split) => .splitBuilt name split.size) ∧
      select .info "Refreshed partition metadata" events
        = [.refreshed tables.size rows.length] ∧
      events.getLast? = some (.refreshed tables.size rows.length) := by
  intro tables events
  have htables : tables = Tables.ofRows registry rows := tables_refresh c registry rows
  have hpartitions : tables.partitions.length = (rows.filter (·.isValid)).length := by
    rw [htables, (Tables.perm_partitions_ofRows registry rows).length_eq, List.length_map]
  refine ⟨?_, length_select_unknownReplica_refresh c registry rows,
    .of_eq (select_splitBuilt_refresh c registry rows),
    select_refreshed_refresh c registry rows, ?_⟩
  · rw [hpartitions, select_malformedRange_refresh, List.length_map, Nat.add_comm]
    exact (List.length_eq_length_filter_add PartitionRow.isValid).symm
  · exact List.getLast?_concat

end Cluster

end QueryRouting
