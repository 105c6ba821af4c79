import PcDiagnosticAgent.PyValue
import PcDiagnosticAgent.Storage.PruneExact

/-!
# Retention without its incidents

`prune_metrics` of `storage/retention.py` with the errors it meets. The list of
incidents may not be readable, and a stored timestamp may be a text or a blob,
from which nothing can be subtracted. Either way the handler puts no windows in
the place of those that were collected, and the loop over the tables goes on; a
table whose statements raise is left as it is.

So after such an error every row older than the retention time is deleted, and
what the documentation protects survives exactly when it is not that old
(`keeps_evidence_iff`). Without errors the run is `pruneMetrics`
(`pruneStore_ofDatabase`).
-/

set_option autoImplicit false

namespace PcDiagnosticAgent

open AutoTables

namespace Retention

/-! ## Stored incidents -/

/-- A stored value as sqlite3 returns it. -/
inductive StoredTime where
  | null
  | number (value : ℚ)
  | text (value : String)
  | blob (value : List UInt8)
deriving DecidableEq, Repr

/-- The truth of a value. -/
def StoredTime.Truthy : StoredTime → Prop
  | .null => False
  | .number value => value ≠ 0
  | .text value => value ≠ ""
  | .blob value => value ≠ []

instance (time : StoredTime) : Decidable time.Truthy := by
  unfold StoredTime.Truthy
  split <;> infer_instance

/-- Add seconds; only a number can be added to. -/
def StoredTime.plus (time : StoredTime) (seconds : ℚ) : Except PyError Epoch :=
  match time with
  | .number value => .ok (value + seconds)
  | _ => .error .other

/-- The columns of an incident that retention reads. -/
structure StoredIncident where
  lastMetricTimestamp : StoredTime
  rebootTimestamp : StoredTime
deriving DecidableEq, Repr

/-- The tables that a run touches; the incidents are in the order of their
ids. -/
structure EvidenceStore where
  incidents : List StoredIncident
  metrics : MetricTable → List MetricRow

/-- The window of one incident, if both of its timestamps are truthy. -/
def incidentWindow (incident : StoredIncident) : Except PyError (Option (Epoch × Epoch)) :=
  if incident.lastMetricTimestamp.Truthy ∧ incident.rebootTimestamp.Truthy then do
    let start ← incident.lastMetricTimestamp.plus (-3600)
    let stop ← incident.rebootTimestamp.plus 600
    return some (start, stop)
  else return none

/-- The loop over the incidents; an error in it loses every window. -/
def collectWindows : List StoredIncident → Except PyError (List (Epoch × Epoch))
  | [] => return []
  | incident :: incidents => do
    let window ← incidentWindow incident
    let windows ← collectWindows incidents
    return window.toList ++ windows

/-! ## A run with errors -/

/-- Which statements of a run raise: the list of the incidents, and the count or
the deletion of a table. -/
structure Failures where
  list : Option PyError := none
  table : MetricTable → Bool := fun _ => false

/-- Read and interpret the newest 200 incidents. -/
def readWindows (store : EvidenceStore) (failures : Failures) :
    Except PyError (List (Epoch × Epoch)) :=
  match failures.list with
  | some error => .error error
  | none => collectWindows (store.incidents.reverse.take 200)

/-- The windows that the run goes on with. -/
def usedWindows (store : EvidenceStore) (failures : Failures) : List (Epoch × Epoch) :=
  match readWindows store failures with
  | .ok windows => windows
  | .error _ => []

def pruneStore (store : EvidenceStore) (failures : Failures) (now : Epoch)
    (retentionHours : ℚ) : EvidenceStore × ℕ :=
  if retentionHours ≤ 0 then (store, 0)
  else
    let cutoff := now - retentionHours * 3600
    let windows := usedWindows store failures
    ({ store with
        metrics := fun table =>
          if failures.table table then store.metrics table
          else (store.metrics table).filter fun row => ¬ Expired cutoff windows row },
      (MetricTable.all.map fun table =>
        if failures.table table then 0
        else ((store.metrics table).filter fun row => Expired cutoff windows row).length).sum)

/-- A time is in the protected window of a stored incident. -/
def Protected (store : EvidenceStore) (time : Epoch) : Prop :=
  ∃ incident ∈ store.incidents, ∃ window, incidentWindow incident = .ok (some window) ∧
    window.1 ≤ time ∧ time ≤ window.2

/-- No row in the protected window of a stored incident is deleted. -/
def KeepsEvidence (store : EvidenceStore) (failures : Failures) (now : Epoch)
    (retentionHours : ℚ) : Prop :=
  ∀ table, ∀ row ∈ store.metrics table, Protected store row.timestamp →
    row ∈ (pruneStore store failures now retentionHours).1.metrics table

/-! ## Without errors -/

/-- A timestamp as the agent stores it. -/
def StoredTime.ofEpoch? : Option Epoch → StoredTime
  | none => .null
  | some time => .number time

/-- The columns of an incident that the agent stored. -/
def StoredIncident.ofEntry (incident : Entry IncidentRow) : StoredIncident :=
  ⟨.ofEpoch? incident.row.lastMetricTimestamp, .ofEpoch? incident.row.rebootTimestamp⟩

/-- The incidents and the metrics of a database. -/
def EvidenceStore.ofDatabase (db : Database) : EvidenceStore where
  incidents := db.incidents.entries.map .ofEntry
  metrics := db.metrics

theorem incidentWindow_ofEntry (incident : Entry IncidentRow) :
    ∃ window, incidentWindow (.ofEntry incident) = .ok window ∧
      protectedWindows [incident] = window.toList := by
  cases last : incident.row.lastMetricTimestamp with
  | none =>
    refine ⟨none, if_neg fun both => ?_, by simp [protectedWindows, last]⟩
    rw [StoredIncident.ofEntry, last] at both
    exact both.1
  | some lastTime =>
    cases reboot : incident.row.rebootTimestamp with
    | none =>
      refine ⟨none, if_neg fun both => ?_, by simp [protectedWindows, last, reboot]⟩
      rw [StoredIncident.ofEntry, reboot] at both
      exact both.2
    | some rebootTime =>
      rw [StoredIncident.ofEntry, last, reboot]
      by_cases set : lastTime ≠ 0 ∧ rebootTime ≠ 0
      · refine ⟨some (lastTime - 3600, rebootTime + 600), ?_, ?_⟩
        · rw [sub_eq_add_neg]
          exact if_pos set
        · simp [protectedWindows, last, reboot, set]
      · refine ⟨none, if_neg set, ?_⟩
        simp only [protectedWindows, List.filterMap_cons, last, reboot, if_neg set]
        rfl

theorem collectWindows_ofEntry (incidents : List (Entry IncidentRow)) :
    collectWindows (incidents.map .ofEntry) = .ok (protectedWindows incidents) := by
  induction incidents with
  | nil => rfl
  | cons incident incidents ih =>
    obtain ⟨window, first, own⟩ := incidentWindow_ofEntry incident
    have split : protectedWindows (incident :: incidents) =
        protectedWindows [incident] ++ protectedWindows incidents := by
      rw [← List.singleton_append]
      exact List.filterMap_append
    rw [List.map_cons, collectWindows, first, ok_bind, ih, ok_bind, split, own]
    rfl

/-- **Without errors the run is the one on readable incidents.** -/
theorem pruneStore_ofDatabase (db : Database) (now : Epoch) (retentionHours : ℚ) :
    pruneStore (.ofDatabase db) {} now retentionHours =
      (.ofDatabase (pruneMetrics db now retentionHours).1,
        (pruneMetrics db now retentionHours).2) := by
  have windows : usedWindows (.ofDatabase db) {} = protectedWindows (db.listIncidents 200) := by
    have newest : (EvidenceStore.ofDatabase db).incidents.reverse.take 200 =
        (db.listIncidents 200).map .ofEntry := by
      simp only [EvidenceStore.ofDatabase, Database.listIncidents, List.map_reverse, List.map_take]
    simp only [usedWindows, readWindows, newest, collectWindows_ofEntry]
  unfold pruneStore pruneMetrics
  split
  · rfl
  · rw [windows]
    rfl

/-! ## After an error -/

section Failed

variable {store : EvidenceStore} {failures : Failures} {error : PyError}
  (failed : readWindows store failures = .error error)

include failed

/-- Only the retention time decides. -/
theorem mem_pruneStore {now : Epoch} {retentionHours : ℚ} (positive : 0 < retentionHours)
    {table : MetricTable} {row : MetricRow} :
    row ∈ (pruneStore store failures now retentionHours).1.metrics table ↔
      row ∈ store.metrics table ∧
        (failures.table table = false → now - retentionHours * 3600 ≤ row.timestamp) := by
  have none : usedWindows store failures = [] := by
    rw [usedWindows, failed]
  rw [pruneStore, if_neg (not_le.mpr positive), none]
  dsimp only
  split
  · rename_i refused
    simp only [refused, Bool.true_eq_false, false_implies, and_true]
  · rename_i answered
    simp [List.mem_filter, Expired, answered]

theorem keepsEvidence_iff (now : Epoch) (retentionHours : ℚ) :
    KeepsEvidence store failures now retentionHours ↔
      retentionHours ≤ 0 ∨ ∀ table, failures.table table = false →
        ∀ row ∈ store.metrics table, Protected store row.timestamp →
          now - retentionHours * 3600 ≤ row.timestamp := by
  rcases le_or_gt retentionHours 0 with off | positive
  · refine iff_of_true (fun table row stored _ => ?_) (.inl off)
    rw [pruneStore, if_pos off]
    exact stored
  · rw [or_iff_right (not_le.mpr positive)]
    constructor
    · intro keeps table answered row stored inside
      exact ((mem_pruneStore failed positive).mp (keeps table row stored inside)).2 answered
    · intro recent table row stored inside
      exact (mem_pruneStore failed positive).mpr
        ⟨stored, fun answered => recent table answered row stored inside⟩

/-- **After an error the protected rows are kept exactly when none of those that
can be deleted is older than the retention time; whatever metrics are stored,
exactly when no table can be deleted from or no protected window begins before
that.** -/
theorem keeps_evidence_iff (now : Epoch) (retentionHours : ℚ) :
    (KeepsEvidence store failures now retentionHours ↔
      retentionHours ≤ 0 ∨ ∀ table, failures.table table = false →
        ∀ row ∈ store.metrics table, Protected store row.timestamp →
          now - retentionHours * 3600 ≤ row.timestamp) ∧
    ((∀ metrics, KeepsEvidence { store with metrics } failures now retentionHours) ↔
      retentionHours ≤ 0 ∨ (∀ table, failures.table table = true) ∨
        ∀ incident ∈ store.incidents, ∀ window, incidentWindow incident = .ok (some window) →
          window.1 ≤ window.2 → now - retentionHours * 3600 ≤ window.1) := by
  refine ⟨keepsEvidence_iff failed now retentionHours, ?_⟩
  have each : ∀ metrics, KeepsEvidence { store with metrics } failures now retentionHours ↔ _ :=
    fun metrics => @keepsEvidence_iff { store with metrics } failures error failed now
      retentionHours
  simp only [each]
  constructor
  · intro keeps
    by_contra! lost
    obtain ⟨positive, ⟨table, answered⟩, incident, stored, window, found, filled, early⟩ := lost
    -- a row at the start of the window would be deleted
    let row : MetricRow := { timestamp := window.1, sessionId := 1, values := [] }
    rcases keeps fun _ => [row] with off | recent
    · exact absurd off (not_le.mpr positive)
    · have late := recent table (by simpa using answered) row (List.mem_singleton_self row)
        ⟨incident, stored, window, found, le_refl _, filled⟩
      exact absurd late (not_le.mpr early)
  · rintro (off | none | late) metrics
    · exact .inl off
    · refine .inr fun table answered => ?_
      rw [none table] at answered
      cases answered
    · refine .inr fun table _ row _ inside => ?_
      obtain ⟨incident, stored, window, found, early, inTime⟩ := inside
      exact (late incident stored window found (early.trans inTime)).trans early

end Failed

/-! ## Examples -/

/-- An hour of activity before a reboot at 100000, and a sample in it. -/
def oneHang (sample : Epoch) : EvidenceStore where
  incidents := [⟨.number 99940, .number 100000⟩]
  metrics := fun _ => [{ timestamp := sample, sessionId := 1, values := [] }]

/-- The database is busy while the incidents are read. -/
def busy : Failures := { list := some .sqlite }

/-- The sample is not older than a day. -/
theorem keeps_evidence_recent : KeepsEvidence (oneHang 99000) busy 180000 24 := by
  refine (@keeps_evidence_iff (oneHang 99000) busy .sqlite rfl 180000 24).1.mpr (.inr ?_)
  intro table _ row stored _
  rw [List.mem_singleton.mp stored]
  norm_num

/-- Two days later it is deleted, and it is deleted as well when the incident
before the hang has a text for its last activity. -/
theorem busy_prune_loses_evidence :
    (pruneStore (oneHang 99000) busy 300000 24).1.metrics .cpu = [] ∧
      ¬ KeepsEvidence (oneHang 99000) busy 300000 24 ∧
      ¬ KeepsEvidence { oneHang 99000 with
        incidents := ⟨.text "unknown", .number 90000⟩ :: (oneHang 99000).incidents } {} 300000
          24 := by
  have inside : ∀ earlier, Protected { oneHang 99000 with
      incidents := earlier ++ (oneHang 99000).incidents } 99000 := by
    intro earlier
    exact ⟨_, List.mem_append_right _ (List.mem_singleton_self _), (99940 - 3600, 100000 + 600),
      by decide +kernel, by norm_num, by norm_num⟩
  refine ⟨by decide +kernel, fun keeps => ?_, fun keeps => ?_⟩
  · exact absurd (keeps .cpu _ (List.mem_singleton_self _) (inside [])) (by decide +kernel)
  · exact absurd (keeps .cpu _ (List.mem_singleton_self _) (inside [_])) (by decide +kernel)

end Retention

end PcDiagnosticAgent
