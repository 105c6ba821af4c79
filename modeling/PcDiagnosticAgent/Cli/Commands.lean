import PcDiagnosticAgent.Agent.HealthyAgent
import PcDiagnosticAgent.Library.Csv
import PcDiagnosticAgent.Library.RelatedTables
import PcDiagnosticAgent.Reports.SameTags

/-!
# The technician's commands

`cli/commands.py`: the events of an export as CSV text, and the health check.

A message of the event log can hold commas, quotes and line breaks. The export
reads back all the same: a header and one record for each stored event, in the
order of their times (`events_csv`). The health check of a healthy agent finds no
problem while its loop keeps its pace (`health_ok`).
-/

set_option autoImplicit false

namespace PcDiagnosticAgent

open ReportGenerator StableSort

namespace Cli

/-! ## Events as CSV -/

/-- The format that `csv.writer` has by default. -/
def excel : Csv.Dialect ℕ where
  delimiter := 44
  quote := 34
  carriage := 13
  newline := 10
  delimiter_ne_quote := by decide
  delimiter_ne_carriage := by decide
  delimiter_ne_newline := by decide
  quote_ne_carriage := by decide
  quote_ne_newline := by decide

/-- `_level_name`. -/
def levelName (level : Option ℤ) : String :=
  match level with
  | some 1 => "Error"
  | some 2 => "Warning"
  | some 3 => "Information"
  | some 4 => "AuditSuccess"
  | some 5 => "AuditFailure"
  | some level => toString level
  | none => "None"

/-- What `csv.writer` writes for a value; nothing for `None`. -/
def csvText (value : Option String) : PyStr := PyStr.ofString (value.getD "")

def csvHeader : List PyStr :=
  ["timestamp", "provider", "event_id", "level", "message"].map PyStr.ofString

def csvFields (time : PyStr) (event : EventRow) : List PyStr :=
  [time, csvText event.provider, csvText (event.eventId.map toString),
    PyStr.ofString (levelName event.level), csvText event.message]

def csvRow (env : Environment) (event : EventRow) : Except PyError (List PyStr) := do
  return csvFields (← formatLocal env (some event.timestamp)) event

/-- `_events_csv`. -/
def eventsCsv (env : Environment) (db : Database) : Except PyError PyStr := do
  let rows ← (sortBy (fun event => event.timestamp) db.events.rows).mapM (csvRow env)
  return Csv.write excel (csvHeader :: rows)

/-- The record of the event. -/
def IsRecord (env : Environment) (event : EventRow) (record : List PyStr) : Prop :=
  ∃ time, env.localTime event.timestamp = .ok time ∧ record = csvFields time.full event

theorem csvRow_ok_iff {env : Environment} {event : EventRow} {record : List PyStr} :
    csvRow env event = .ok record ↔ IsRecord env event record := by
  constructor
  · intro made
    obtain ⟨text, formatted, result⟩ := bind_ok_iff.mp made
    obtain ⟨time, known, full⟩ := bind_ok_iff.mp formatted
    cases full
    cases result
    exact ⟨time, known, rfl⟩
  · rintro ⟨time, known, rfl⟩
    rw [csvRow, formatLocal, known]
    rfl

theorem csvRow_succeeds_iff {env : Environment} {event : EventRow} :
    Succeeds (csvRow env event) ↔ Succeeds (env.localTime event.timestamp) := by
  constructor
  · rintro ⟨record, made⟩
    obtain ⟨time, known, -⟩ := csvRow_ok_iff.mp made
    exact ⟨time, known⟩
  · rintro ⟨time, known⟩
    exact ⟨_, csvRow_ok_iff.mpr ⟨time, known, rfl⟩⟩

/-! ### Encoding -/

theorem encodable_write {rows : List (List PyStr)}
    (encodable : ∀ row ∈ rows, ∀ field ∈ row, PyStr.encodable field = true) :
    PyStr.encodable (Csv.write excel rows) = true := by
  rw [PyStr.encodable_iff]
  intro code member
  rcases Csv.mem_write member with special | ⟨row, among, field, one, inside⟩
  · rcases special with rfl | rfl | rfl | rfl <;> decide
  · exact PyStr.encodable_iff.mp (encodable row among field one) code inside

theorem encodable_csvFields {time : PyStr} (encodable : time.encodable = true) (event : EventRow) :
    ∀ field ∈ csvFields time event, field.encodable = true := by
  simp [csvFields, csvText, encodable]

theorem IsRecord.encodable {env : Environment} {event : EventRow} {record : List PyStr}
    (isRecord : IsRecord env event record) : ∀ field ∈ record, field.encodable = true := by
  obtain ⟨time, -, rfl⟩ := isRecord
  exact encodable_csvFields (encodable_of_small (full_small time)) event

/-- **An export holds a header and one record for each stored event, in the order of
their times, whatever texts the events have; it fails only on an event without a
local time.** -/
theorem events_csv (env : Environment) (db : Database) :
    match eventsCsv env db with
    | .ok text => text.encodable = true ∧ ∃ records,
        Csv.read excel text = csvHeader :: records ∧
          List.Forall₂ (IsRecord env) (sortBy (fun event => event.timestamp) db.events.rows) records
    | .error _ => ∃ event ∈ db.events.rows, ¬ Succeeds (env.localTime event.timestamp) := by
  cases written : eventsCsv env db with
  | ok text =>
    obtain ⟨records, made, result⟩ := bind_ok_iff.mp written
    cases result
    have each : List.Forall₂ (IsRecord env)
        (sortBy (fun event => event.timestamp) db.events.rows) records :=
      (mapM_ok_iff.mp made).imp fun _ _ => csvRow_ok_iff.mp
    refine ⟨encodable_write fun row member => ?_, records, Csv.read_write excel _, each⟩
    rcases List.mem_cons.mp member with rfl | among
    · decide
    · obtain ⟨event, -, isRecord⟩ := AutoTables.exists_left each among
      exact isRecord.encodable
  | error error =>
    by_contra none
    have all : Succeeds (eventsCsv env db) := by
      refine Succeeds.bind (Succeeds.mapM_iff.mpr fun event member => ?_) fun records _ => ⟨_, rfl⟩
      refine csvRow_succeeds_iff.mpr (not_not.mp fun unknown => none ?_)
      exact ⟨event, (mem_sortBy _).mp member, unknown⟩
    obtain ⟨text, made⟩ := all
    rw [written] at made
    cases made

/-! ## Health -/

/-- The age of a heartbeat, in seconds, that the health check still accepts. -/
def healthAge : ℚ := 180

/-- What `cmd_health` finds wrong. `databaseError` is the text of what the first
query raised. -/
def healthProblems (databaseError : Option String) (heartbeat : Option Epoch) (now : Epoch) :
    List PyStr :=
  (databaseError.map fun error => PyStr.ofString ("database error: " ++ error)).toList ++
    match heartbeat with
    | none => [PyStr.ofString "no heartbeat recorded (agent may not be running)"]
    | some heartbeat =>
      if healthAge < now - heartbeat then
        [PyStr.ofString "heartbeat stale by " ++ digits (truncate (now - heartbeat)) ++
          PyStr.ofString "s"]
      else []

/-- `cmd_health`: the printed lines and the exit code. The clock is read once for
the check and once for the lines. -/
def cmdHealth (databaseError : Option String) (heartbeat : Option Epoch) (now later : Epoch) :
    List PyStr × ℕ :=
  let problems := healthProblems databaseError heartbeat now
  let age := match truthy heartbeat with
    | none => PyStr.ofString "n/a"
    | some heartbeat => digits (truncate (later - heartbeat))
  ([PyStr.ofString ("Overall health: " ++ if problems = [] then "OK" else "PROBLEMS"),
      PyStr.ofString "Heartbeat age: " ++ age ++ PyStr.ofString "s"] ++
      problems.map fun problem => PyStr.ofString "  - " ++ problem,
    if problems = [] then 0 else 1)

theorem healthProblems_eq_nil_iff {heartbeat : Option Epoch} {now : Epoch} :
    healthProblems none heartbeat now = [] ↔
      ∃ beat, heartbeat = some beat ∧ now - beat ≤ healthAge := by
  cases heartbeat with
  | none => simp [healthProblems]
  | some beat =>
    by_cases stale : healthAge < now - beat
    · simp [healthProblems, stale, lt_sub_iff_add_lt.mp stale]
    · simp [healthProblems, stale, sub_le_iff_le_add.mp (not_lt.mp stale)]

end Cli

namespace Threads

open Cli

/-- **The health check of a healthy agent that was not restarted for the heartbeat of
an earlier run finds no problem, from its first heartbeat until it closes the
database, as long as it comes within the pace of the loop.** -/
theorem health_ok (config : ValidConfig) (pace : ℚ) (nonneg : 0 ≤ pace)
    (slack : (config.collectionIntervalSeconds : ℚ) + 2 * pace ≤ staleAfter)
    (heartbeat : Option Epoch) (started : Epoch) (turns : List Turn)
    (lively : Runs.Guarded (Watched.step config.toConfig started) (Lively pace)
      (Watched.initial heartbeat) turns)
    (spared : Runs.Guarded (Watched.step config.toConfig started) Spared
      (Watched.initial heartbeat) turns)
    (isOpen : (Watched.run config.toConfig heartbeat started turns).process.databaseOpen = true)
    (written : (Watched.run config.toConfig heartbeat started turns).writer ≠ none)
    (now later : Epoch)
    (soon : ∀ worker ∈ (Watched.run config.toConfig heartbeat started turns).process.workers,
      now - worker.now ≤ pace) :
    (cmdHealth none (Watched.run config.toConfig heartbeat started turns).process.heartbeat
      now later).2 = 0 := by
  have healthy := healthy_run config pace nonneg slack heartbeat started lively spared
  obtain ⟨worker, alone, mark, recent⟩ := healthy.beating isOpen written
  have age := recent.le nonneg
  have near := soon worker (by simp [alone])
  have within : now - worker.lastHigh ≤ healthAge := by
    have sum : now - worker.lastHigh = (now - worker.now) + (worker.now - worker.lastHigh) :=
      (sub_add_sub_cancel ..).symm
    have limits : staleAfter ≤ healthAge := by decide +kernel
    linarith
  exact if_pos (healthProblems_eq_nil_iff.mpr ⟨worker.lastHigh, mark, within⟩)

/-- A first cycle, and the health check 10 seconds after the next iteration. -/
theorem health_ok_first_cycle :
    let turns := List.replicate 3 (Turn.main false false) ++
      List.replicate 6 (.worker 0 1000 true) ++ List.replicate 3 (.worker 0 1015 true)
    (cmdHealth none (Watched.run ValidConfig.default.toConfig none 1000 turns).process.heartbeat
      1025 1026).2 = 0 :=
  health_ok .default 15 (by norm_num) (by decide +kernel) none 1000 _ (by decide +kernel)
    (by decide +kernel) (by decide +kernel) (by decide +kernel) 1025 1026 (by decide +kernel)

end Threads

end PcDiagnosticAgent
