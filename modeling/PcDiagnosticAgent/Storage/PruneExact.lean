import PcDiagnosticAgent.Storage.EvidenceWindow

/-!
# What retention keeps

Retention is described as keeping the rows of the retention time and those
around any incident with both timestamps. It asks for the newest 200 incidents
and takes every timestamp that is not zero, so this is what it does exactly
when the two sets of times agree on the expired rows (`prunes_exactly_iff`).
The count, the other tables and the second run are right in any case.
-/

set_option autoImplicit false

namespace PcDiagnosticAgent

open AutoTables

namespace Retention

/-- The times around any incident that has both timestamps. -/
def documentedTimes (incidents : AutoTable IncidentRow) : Set Epoch :=
  {time | ∃ incident ∈ incidents.entries,
    ∃ last ∈ incident.row.lastMetricTimestamp, ∃ reboot ∈ incident.row.rebootTimestamp,
      0 < last ∧ 0 < reboot ∧ time ∈ keptAround last reboot}

/-- The number of rows of all metric tables. -/
def rowCount (db : Database) : ℕ := (MetricTable.all.map fun table => (db.metrics table).length).sum

open Classical in
/-- Retention keeps the documented rows, counts the others, changes nothing else
and finds nothing to do in a second run. -/
structure PrunesExactly (db : Database) (now : Epoch) (retentionHours : ℚ) : Prop where
  survivors : ∀ table, (pruneMetrics db now retentionHours).1.metrics table =
    (db.metrics table).filter fun row => now - retentionHours * 3600 ≤ row.timestamp ∨
      row.timestamp ∈ documentedTimes db.incidents
  counted : (pruneMetrics db now retentionHours).2 +
    rowCount (pruneMetrics db now retentionHours).1 = rowCount db
  incidents : (pruneMetrics db now retentionHours).1.incidents = db.incidents
  findings : (pruneMetrics db now retentionHours).1.findings = db.findings
  sessions : (pruneMetrics db now retentionHours).1.sessions = db.sessions
  events : (pruneMetrics db now retentionHours).1.events = db.events
  again : pruneMetrics (pruneMetrics db now retentionHours).1 now retentionHours =
    ((pruneMetrics db now retentionHours).1, 0)

/-! ## The count and the second run -/

section Delete

variable (db : Database) (cutoff : Epoch) (windows : List (Epoch × Epoch))

/-- Every row is deleted and counted, or kept. -/
theorem deleteExpired_counted : (deleteExpired db cutoff windows).2 +
    rowCount (deleteExpired db cutoff windows).1 = rowCount db := by
  have split : ∀ table, ((db.metrics table).filter fun row => Expired cutoff windows row).length +
      ((db.metrics table).filter fun row => ¬ Expired cutoff windows row).length =
        (db.metrics table).length := by
    intro table
    have parts := @List.length_eq_length_filter_add _ (db.metrics table)
      (fun row => decide (Expired cutoff windows row))
    simpa using parts.symm
  simp only [deleteExpired, rowCount, ← split]
  exact (List.sum_map_add ..).symm

/-- What was kept once is kept again. -/
theorem deleteExpired_again :
    deleteExpired (deleteExpired db cutoff windows).1 cutoff windows =
      ((deleteExpired db cutoff windows).1, 0) := by
  have kept : ∀ table, ((deleteExpired db cutoff windows).1.metrics table).filter
      (fun row => ¬ Expired cutoff windows row) =
        (deleteExpired db cutoff windows).1.metrics table :=
    fun table => by simp [deleteExpired]
  have none : ∀ table, ((deleteExpired db cutoff windows).1.metrics table).filter
      (fun row => Expired cutoff windows row) = [] := by
    intro table
    refine List.filter_eq_nil_iff.mpr fun row member => ?_
    simpa using (List.mem_filter.mp member).2
  generalize (deleteExpired db cutoff windows).1 = pruned at kept none ⊢
  simp only [deleteExpired, kept, none, List.length_nil]
  simp

end Delete

/-! ## The exact condition -/

section Exact

variable {db : Database} {now : Epoch} {retentionHours : ℚ} (positive : 0 < retentionHours)

include positive

/-- The rows that retention keeps, in their order. -/
theorem pruneMetrics_metrics (table : MetricTable) :
    (pruneMetrics db now retentionHours).1.metrics table =
      open Classical in (db.metrics table).filter fun row =>
        now - retentionHours * 3600 ≤ row.timestamp ∨ row.timestamp ∈ keptTimes db.incidents := by
  rw [pruneMetrics, if_neg (not_le.mpr positive)]
  refine List.filter_congr fun row _ => ?_
  rw [decide_eq_decide, mem_keptTimes, Expired]
  push Not
  exact imp_iff_or_not.trans (by rw [not_lt, or_comm])

theorem survivors_iff :
    (open Classical in ∀ table, (pruneMetrics db now retentionHours).1.metrics table =
        (db.metrics table).filter fun row => now - retentionHours * 3600 ≤ row.timestamp ∨
          row.timestamp ∈ documentedTimes db.incidents) ↔
      ∀ table, ∀ row ∈ db.metrics table, row.timestamp < now - retentionHours * 3600 →
        (row.timestamp ∈ documentedTimes db.incidents ↔
          row.timestamp ∈ keptTimes db.incidents) := by
  refine forall_congr' fun table => ?_
  rw [pruneMetrics_metrics positive]
  constructor
  · intro same row member expired
    have both := congrArg (row ∈ ·) same
    simp only [List.mem_filter, member, decide_eq_true_eq, true_and, not_le.mpr expired,
      false_or, eq_iff_iff] at both
    exact both.symm
  · intro agree
    refine List.filter_congr fun row member => ?_
    rw [decide_eq_decide]
    by_cases recent : now - retentionHours * 3600 ≤ row.timestamp
    · simp only [recent, true_or]
    · simp only [recent, false_or]
      exact (agree row member (not_le.mp recent)).symm

/-- Everything but the choice of the rows is right in any case. -/
theorem prunesExactly_iff_survivors : PrunesExactly db now retentionHours ↔
    ∀ table, ∀ row ∈ db.metrics table, row.timestamp < now - retentionHours * 3600 →
      (row.timestamp ∈ documentedTimes db.incidents ↔
        row.timestamp ∈ keptTimes db.incidents) := by
  rw [← survivors_iff positive]
  constructor
  · exact fun exactly => exactly.survivors
  · intro survivors
    refine ⟨survivors, ?_, pruneMetrics_unchanged (·.incidents) (fun _ _ => rfl) ..,
      pruneMetrics_unchanged (·.findings) (fun _ _ => rfl) ..,
      pruneMetrics_unchanged (·.sessions) (fun _ _ => rfl) ..,
      pruneMetrics_unchanged (·.events) (fun _ _ => rfl) .., ?_⟩
    · rw [pruneMetrics, if_neg (not_le.mpr positive)]
      exact deleteExpired_counted ..
    · simp only [pruneMetrics, if_neg (not_le.mpr positive)]
      exact deleteExpired_again db _ (protectedWindows (db.listIncidents 200))

end Exact

/-- **Retention does what it is documented to do exactly when the expired rows
around any incident with both timestamps are the expired rows around the newest
200 incidents; whatever metrics are stored, exactly when these are the same
times.** -/
theorem prunes_exactly_iff (db : Database) (now : Epoch) (retentionHours : ℚ)
    (positive : 0 < retentionHours) :
    (PrunesExactly db now retentionHours ↔
      ∀ table, ∀ row ∈ db.metrics table, row.timestamp < now - retentionHours * 3600 →
        (row.timestamp ∈ documentedTimes db.incidents ↔
          row.timestamp ∈ keptTimes db.incidents)) ∧
    ((∀ metrics, PrunesExactly { db with metrics } now retentionHours) ↔
      documentedTimes db.incidents ∩ Set.Iio (now - retentionHours * 3600) =
        keptTimes db.incidents ∩ Set.Iio (now - retentionHours * 3600)) := by
  refine ⟨prunesExactly_iff_survivors positive, ?_⟩
  simp only [prunesExactly_iff_survivors positive, Set.ext_iff, Set.mem_inter_iff, Set.mem_Iio,
    and_congr_left_iff]
  constructor
  · intro exactly time expired
    -- a row with that time tells the sets apart
    let row : MetricRow := { timestamp := time, sessionId := 1, values := [] }
    exact exactly (fun _ => [row]) .cpu row (List.mem_singleton_self row) expired
  · exact fun same metrics table row _ expired => same row.timestamp expired

/-- At most 200 incidents without negative timestamps are kept as documented. -/
theorem documentedTimes_eq_keptTimes {incidents : AutoTable IncidentRow}
    (few : incidents.entries.length ≤ 200)
    (dated : ∀ incident ∈ incidents.entries,
      (∀ last ∈ incident.row.lastMetricTimestamp, 0 ≤ last) ∧
        ∀ reboot ∈ incident.row.rebootTimestamp, 0 ≤ reboot) :
    documentedTimes incidents = keptTimes incidents := by
  ext time
  have all : incidents.entries.reverse.take 200 = incidents.entries.reverse :=
    List.take_of_length_le (by simpa using few)
  simp only [documentedTimes, keptTimes, all, List.mem_reverse, Set.mem_ofPred_eq]
  refine exists_congr fun incident => and_congr_right fun stored => ?_
  refine exists_congr fun last => and_congr_right fun hasLast => ?_
  refine exists_congr fun reboot => and_congr_right fun hasReboot => ?_
  have lastDated := (dated incident stored).1 last hasLast
  have rebootDated := (dated incident stored).2 reboot hasReboot
  rw [lastDated.lt_iff_ne', rebootDated.lt_iff_ne']

/-! ## Examples -/

/-- An incident of a hang with a minute between the last activity and the
reboot. -/
def hangAt (reboot : Epoch) : IncidentRow where
  detectedAt := reboot
  incidentType := some .hardHang
  confidence := some .medium
  previousSessionId := none
  lastMetricTimestamp := some (reboot - 60)
  rebootTimestamp := some reboot
  durationEstimate := some 60
  findings := [.hardHang]
  evidence := []

/-- A database with hangs at the given times and one sample. -/
def withHangs (hangs : List Epoch) (sample : Epoch) : Database :=
  { Database.empty with
    incidents := AutoTable.empty.insertAll (hangs.map hangAt)
    metrics := fun _ => [{ timestamp := sample, sessionId := 1, values := [] }] }

theorem first_mem_withHangs (hang : Epoch) (hangs : List Epoch) (sample : Epoch) :
    ⟨1, hangAt hang⟩ ∈ (withHangs (hang :: hangs) sample).incidents.entries :=
  @AutoTable.mem_insertAll_of_mem _ (AutoTable.empty.insert (hangAt hang)) _ _
    (List.mem_singleton_self _)

/-- A day of retention with one incident. -/
theorem prunes_exactly_one_hang : PrunesExactly (withHangs [100000] 99000) 300000 24 := by
  refine (prunes_exactly_iff (withHangs [100000] 99000) 300000 24 (by norm_num)).1.mpr
    fun _ _ _ _ => ?_
  have same : documentedTimes (withHangs [100000] 99000).incidents =
      keptTimes (withHangs [100000] 99000).incidents := by
    refine documentedTimes_eq_keptTimes (by decide +kernel) ?_
    decide +kernel
  rw [same]

/-- A sample in the window of the oldest of 201 incidents is deleted. -/
theorem not_prunes_exactly_201 :
    let hangs := 100000 :: (List.range 200).map fun index => (110000 : Epoch) + 100 * index
    (99000 : Epoch) ∈ documentedTimes (withHangs hangs 99000).incidents ∧
      (pruneMetrics (withHangs hangs 99000) 300000 24).1.metrics .cpu = [] ∧
      ¬ PrunesExactly (withHangs hangs 99000) 300000 24 := by
  intro hangs
  have documented : (99000 : Epoch) ∈ documentedTimes (withHangs hangs 99000).incidents := by
    have stored : ⟨1, hangAt 100000⟩ ∈ (withHangs hangs 99000).incidents.entries :=
      first_mem_withHangs 100000 _ 99000
    refine ⟨_, stored, 100000 - 60, rfl, 100000, rfl, by norm_num, by norm_num, ?_, ?_⟩ <;>
      norm_num
  have deleted : (pruneMetrics (withHangs hangs 99000) 300000 24).1.metrics .cpu = [] := by
    decide +kernel
  refine ⟨documented, deleted, fun exactly => ?_⟩
  have survives : ⟨99000, 1, []⟩ ∈ (pruneMetrics (withHangs hangs 99000) 300000 24).1.metrics
      .cpu := by
    rw [exactly.survivors]
    refine List.mem_filter.mpr ⟨List.mem_singleton_self _, ?_⟩
    simp only [documented, or_true, decide_true]
  rw [deleted] at survives
  cases survives

end Retention

end PcDiagnosticAgent
