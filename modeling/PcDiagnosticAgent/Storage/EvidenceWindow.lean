import PcDiagnosticAgent.Agent.Config
import PcDiagnosticAgent.Storage.Retention
import Mathlib.Order.Interval.Set.Basic

/-!
# Retention and the evidence window

The diagnosis and the report read the configured minutes around a reboot. What
retention keeps is an hour before the last activity up to ten minutes after the
reboot, for the newest 200 incidents that have both timestamps. So the window
survives when these times cover its expired part
(`evidence_windows_survive_iff`); the own times of an incident cover it for
windows that are short enough (`own_times_cover_iff`).
-/

set_option autoImplicit false

namespace PcDiagnosticAgent

open AutoTables

namespace Retention

/-- The configured times around a reboot. -/
def evidenceWindow (config : Config) (reboot : Epoch) : Set Epoch :=
  Set.Icc (reboot - config.incidentWindowBeforeMinutes * 60)
    (reboot + config.incidentWindowAfterMinutes * 60)

/-- The times kept around one incident. -/
def keptAround (last reboot : Epoch) : Set Epoch := Set.Icc (last - 3600) (reboot + 600)

/-- The times kept around the newest 200 incidents that have both timestamps. -/
def keptTimes (incidents : AutoTable IncidentRow) : Set Epoch :=
  {time | ∃ incident ∈ incidents.entries.reverse.take 200,
    ∃ last ∈ incident.row.lastMetricTimestamp, ∃ reboot ∈ incident.row.rebootTimestamp,
      last ≠ 0 ∧ reboot ≠ 0 ∧ time ∈ keptAround last reboot}

/-- No metric row in the evidence window of a stored incident is deleted. -/
def WindowsSurvive (db : Database) (config : Config) (now : Epoch) : Prop :=
  ∀ incident ∈ db.incidents.entries, ∀ reboot ∈ incident.row.rebootTimestamp,
    ∀ table, ∀ row ∈ db.metrics table, row.timestamp ∈ evidenceWindow config reboot →
      row ∈ (pruneMetrics db now config.retentionHours).1.metrics table

/-! ## What is kept -/

theorem mem_keptTimes {db : Database} {time : Epoch} :
    time ∈ keptTimes db.incidents ↔
      ∃ window ∈ protectedWindows (db.listIncidents 200), window.1 ≤ time ∧ time ≤ window.2 := by
  simp only [protectedWindows, List.mem_filterMap]
  constructor
  · rintro ⟨incident, newest, last, hasLast, reboot, hasReboot, lastSet, rebootSet, inside⟩
    refine ⟨(last - 3600, reboot + 600), ⟨incident, newest, ?_⟩, inside⟩
    rw [Option.mem_def.mp hasLast, Option.mem_def.mp hasReboot]
    exact if_pos ⟨lastSet, rebootSet⟩
  · rintro ⟨window, ⟨incident, newest, found⟩, inside⟩
    split at found
    · rename_i last reboot hasLast hasReboot
      split at found
      · rename_i set
        cases found
        exact ⟨incident, newest, last, hasLast, reboot, hasReboot, set.1, set.2, inside⟩
      · cases found
    · cases found

/-- A row survives exactly when it is recent or kept around an incident. -/
theorem mem_pruneMetrics {db : Database} {now : Epoch} {retentionHours : ℚ}
    (positive : 0 < retentionHours) {table : MetricTable} {row : MetricRow} :
    row ∈ (pruneMetrics db now retentionHours).1.metrics table ↔
      row ∈ db.metrics table ∧
        (row.timestamp < now - retentionHours * 3600 →
          row.timestamp ∈ keptTimes db.incidents) := by
  rw [pruneMetrics, if_neg (not_le.mpr positive), mem_keptTimes]
  simp only [deleteExpired, List.mem_filter]
  refine and_congr_right fun _ => ?_
  rw [decide_eq_true_iff, Expired]
  push Not
  rfl

/-- Retention adds no row. -/
theorem pruneMetrics_subset {db : Database} {now : Epoch} {retentionHours : ℚ}
    {table : MetricTable} {row : MetricRow}
    (member : row ∈ (pruneMetrics db now retentionHours).1.metrics table) :
    row ∈ db.metrics table := by
  unfold pruneMetrics at member
  split at member
  · exact member
  · exact (List.mem_filter.mp member).1

/-- What is kept around an incident survives, whatever the retention time. -/
theorem mem_pruneMetrics_of_kept {db : Database} {now : Epoch} {retentionHours : ℚ}
    {table : MetricTable} {row : MetricRow} (member : row ∈ db.metrics table)
    (kept : row.timestamp ∈ keptTimes db.incidents) :
    row ∈ (pruneMetrics db now retentionHours).1.metrics table := by
  obtain ⟨window, isWindow, inside⟩ := mem_keptTimes.mp kept
  unfold pruneMetrics
  split
  · exact member
  · refine List.mem_filter.mpr ⟨member, decide_eq_true fun expired => ?_⟩
    exact expired.2 window isWindow inside

/-! ## The evidence windows -/

/-- The window reaches back to the last activity and an hour, and ten minutes
past the reboot, at most. -/
theorem own_times_cover_iff (config : ValidConfig) (last reboot : Epoch) :
    evidenceWindow config.toConfig reboot ⊆ keptAround last reboot ↔
      config.incidentWindowBeforeMinutes * 60 ≤ 3600 + (reboot - last) ∧
        config.incidentWindowAfterMinutes ≤ 10 := by
  have before := config.before_nonneg
  have after := config.after_nonneg
  have filled : reboot - config.incidentWindowBeforeMinutes * 60 ≤
      reboot + config.incidentWindowAfterMinutes * 60 := by linarith
  rw [evidenceWindow, keptAround, Set.Icc_subset_Icc_iff filled]
  constructor
  · rintro ⟨early, late⟩
    exact ⟨by linarith, by linarith⟩
  · rintro ⟨early, late⟩
    exact ⟨by linarith, by linarith⟩

/-- **Retention deletes no row in an evidence window exactly when the expired
rows in it are kept around one of the newest 200 incidents; and it never can,
whatever metrics are stored, exactly when the expired part of each window is
covered by these times.** -/
theorem evidence_windows_survive_iff (config : ValidConfig) (db : Database) (now : Epoch) :
    (WindowsSurvive db config.toConfig now ↔
      ∀ incident ∈ db.incidents.entries, ∀ reboot ∈ incident.row.rebootTimestamp,
        ∀ table, ∀ row ∈ db.metrics table, row.timestamp ∈ evidenceWindow config.toConfig reboot →
          row.timestamp < now - config.retentionHours * 3600 →
          row.timestamp ∈ keptTimes db.incidents) ∧
    ((∀ metrics, WindowsSurvive { db with metrics } config.toConfig now) ↔
      ∀ incident ∈ db.incidents.entries, ∀ reboot ∈ incident.row.rebootTimestamp,
        evidenceWindow config.toConfig reboot ∩ Set.Iio (now - config.retentionHours * 3600) ⊆
          keptTimes db.incidents) := by
  constructor
  · constructor
    · intro survive incident stored reboot hasReboot table row member inside
      exact ((mem_pruneMetrics config.retention_pos).mp
        (survive incident stored reboot hasReboot table row member inside)).2
    · intro covered incident stored reboot hasReboot table row member inside
      exact (mem_pruneMetrics config.retention_pos).mpr
        ⟨member, covered incident stored reboot hasReboot table row member inside⟩
  · constructor
    · rintro survive incident stored reboot hasReboot time ⟨inside, expired⟩
      -- a row with that time would be deleted
      let row : MetricRow := { timestamp := time, sessionId := 1, values := [] }
      have kept := survive (fun _ => [row]) incident stored reboot hasReboot .cpu row
        (List.mem_singleton_self row) inside
      exact ((mem_pruneMetrics config.retention_pos).mp kept).2 expired
    · intro covered metrics incident stored reboot hasReboot table row member inside
      refine (mem_pruneMetrics config.retention_pos).mpr ⟨member, fun expired => ?_⟩
      exact covered incident stored reboot hasReboot ⟨inside, expired⟩

/-- An incident of a session without a single metric keeps nothing. -/
theorem evidence_window_lost :
    let incident : Incident :=
      { detectedAt := 100000, incidentType := .hardHang, confidence := .low,
        previousSessionId := none, lastMetricTimestamp := none, rebootTimestamp := 100000,
        durationEstimate := none, findings := [], evidence := [] }
    let db := (Database.empty.createIncident incident []).1.addMetrics .temperature
      [{ timestamp := 99000, sessionId := 1, values := [("temperature_c", .number 97)] }]
    ¬ WindowsSurvive db {} 300000 := by
  intro incident db survive
  have kept := survive _ (List.mem_singleton_self _) 100000 rfl .temperature _
    (List.mem_singleton_self _) ⟨by decide +kernel, by decide +kernel⟩
  exact absurd kept (by decide +kernel)

end Retention

end PcDiagnosticAgent
