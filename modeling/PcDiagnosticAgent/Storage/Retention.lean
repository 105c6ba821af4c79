import PcDiagnosticAgent.Storage.Database

/-!
# Retention

`prune_metrics` of `storage/retention.py`. Rows older than the retention time
are deleted unless they lie in the window of one of the newest 200 incidents.
-/

set_option autoImplicit false

namespace PcDiagnosticAgent

open AutoTables

namespace Retention

/-- The windows kept around incidents that have both timestamps; zero
timestamps are falsy. -/
def protectedWindows (incidents : List (Entry IncidentRow)) : List (Epoch × Epoch) :=
  incidents.filterMap fun incident =>
    match incident.row.lastMetricTimestamp, incident.row.rebootTimestamp with
    | some last, some reboot =>
      if last ≠ 0 ∧ reboot ≠ 0 then some (last - 3600, reboot + 600) else none
    | _, _ => none

/-- A row is deleted when it is old and in no protected window. -/
def Expired (cutoff : Epoch) (windows : List (Epoch × Epoch)) (row : MetricRow) : Prop :=
  row.timestamp < cutoff ∧
    ∀ window ∈ windows, ¬ (window.1 ≤ row.timestamp ∧ row.timestamp ≤ window.2)

instance (cutoff : Epoch) (windows : List (Epoch × Epoch)) (row : MetricRow) :
    Decidable (Expired cutoff windows row) :=
  inferInstanceAs (Decidable (_ ∧ _))

/-- Delete the expired rows of every metric table and count them. -/
def deleteExpired (db : Database) (cutoff : Epoch) (windows : List (Epoch × Epoch)) :
    Database × ℕ :=
  ({ db with
      metrics := fun table => (db.metrics table).filter fun row => ¬ Expired cutoff windows row },
    (MetricTable.all.map fun table =>
      ((db.metrics table).filter fun row => Expired cutoff windows row).length).sum)

def pruneMetrics (db : Database) (now : Epoch) (retentionHours : ℚ) : Database × ℕ :=
  if retentionHours ≤ 0 then (db, 0)
  else deleteExpired db (now - retentionHours * 3600) (protectedWindows (db.listIncidents 200))

/-- Retention deletes metric rows and nothing else. -/
theorem pruneMetrics_unchanged {Seen : Type} (observe : Database → Seen)
    (unchanged : ∀ db metrics, observe { db with metrics } = observe db)
    (db : Database) (now : Epoch) (retentionHours : ℚ) :
    observe (pruneMetrics db now retentionHours).1 = observe db := by
  unfold pruneMetrics
  split
  · rfl
  · exact unchanged db _

end Retention

end PcDiagnosticAgent
