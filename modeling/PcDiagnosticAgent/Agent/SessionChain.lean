import PcDiagnosticAgent.Agent.Lifecycle
import Mathlib.Data.List.Chain

/-!
# The chain of sessions

Whatever boots, restarts and clock steps the agent has seen, the sessions form
a chain. Their ids are consecutive, each session knows the boot time of the one
before it and is at least a minute away from it, every session but the latest
carries an outcome, and the latest carries none (`Chain`). One call of
`detect_boot` touches the latest row only and adds at most one
(`TouchesLatest`).
-/

set_option autoImplicit false

namespace PcDiagnosticAgent

open AutoTables EventAnalyzer BootDetector

namespace SessionChain

/-! ## The rows -/

/-- A session whose outcome is stored, ended by a boot at the given time. -/
structure EndedAt (bootTime : Epoch) (row : SessionRow) : Prop where
  clean : row.previousSessionClean.isSome
  unexpected : row.unexpectedShutdown.isSome
  kernelPower : row.kernelPowerDetected.isSome
  bugcheck : row.bugcheckDetected.isSome
  uptime : row.uptimeBeforeBoot = some (bootTime - row.bootTime)
  unexpectedUnclean : row.unexpectedShutdown = some 1 → row.previousSessionClean = some 0

/-- A session without an outcome. -/
structure Open (row : SessionRow) : Prop where
  clean : row.previousSessionClean = none
  unexpected : row.unexpectedShutdown = none
  kernelPower : row.kernelPowerDetected = none
  bugcheck : row.bugcheckDetected = none
  uptime : row.uptimeBeforeBoot = none

/-- One session follows another one. -/
structure Follows (earlier later : Entry SessionRow) : Prop where
  linked : later.row.previousBootTime = some earlier.row.bootTime
  apart : 60 ≤ |later.row.bootTime - earlier.row.bootTime|
  ended : EndedAt later.row.bootTime earlier.row

/-- The sessions form a chain. -/
structure Chain (table : AutoTable SessionRow) : Prop where
  consecutive : table.entries.map Entry.id = List.range' 1 table.entries.length
  follows : table.entries.IsChain Follows
  latestOpen : ∀ latest, table.latest = some latest → Open latest.row

/-- All rows but the latest stay as they are, the latest keeps its id, and at
most one row is added. -/
structure TouchesLatest (before after : AutoTable SessionRow) : Prop where
  kept : before.entries.dropLast <+: after.entries
  ids : before.entries.map Entry.id <+: after.entries.map Entry.id
  added : after.entries.length ≤ before.entries.length + 1

/-- An outcome that is stored for a boot ends the session there. -/
theorem endedAt_outcomeFields (summary : Summary) (bootTime : Epoch) (row : SessionRow) :
    EndedAt bootTime ((outcomeFields summary (bootTime - row.bootTime)).apply row) where
  clean := rfl
  unexpected := rfl
  kernelPower := rfl
  bugcheck := rfl
  uptime := rfl
  unexpectedUnclean := by
    simp only [SessionUpdate.apply, outcomeFields, Option.some_or, unexpectedEnd]
    cases summary.cleanShutdown
    · exact fun _ => rfl
    · intro marked
      cases marked

/-! ## One call -/

/-- What one call does to the sessions. -/
theorem detectBoot_entries (db : Database) (now bootTime : Epoch) :
    (detectBoot db now bootTime).1.sessions = db.sessions ∨
      (detectBoot db now bootTime).1.sessions.seq = db.sessions.seq + 1 ∧
        (db.sessions.entries = [] ∧
            (detectBoot db now bootTime).1.sessions.entries =
              [⟨db.sessions.seq + 1, { bootTime, createdAt := now }⟩] ∨
          ∃ earlier prev finalised, db.sessions.entries = earlier ++ [prev] ∧
            ¬ SameBoot prev bootTime ∧
            (finalised = prev.row ∧ prev.row.bootTime = 0 ∨
              finalised = (outcomeFields (transitionSummary db prev.row.bootTime bootTime)
                (bootTime - prev.row.bootTime)).apply prev.row) ∧
            (detectBoot db now bootTime).1.sessions.entries =
              earlier ++ [⟨prev.id, finalised⟩, ⟨db.sessions.seq + 1,
                { bootTime, previousBootTime := some prev.row.bootTime, createdAt := now }⟩]) := by
  unfold detectBoot
  split
  · rename_i first
    have none : db.sessions.entries = [] := AutoTable.latest_eq_none_iff.mp first
    refine .inr ⟨openSession_seq .., .inl ⟨none, ?_⟩⟩
    rw [openSession_entries, none, List.nil_append]
  · rename_i prev latest
    obtain ⟨earlier, rows⟩ := AutoTable.latest_eq_some_iff.mp latest
    by_cases same : SameBoot prev bootTime
    · rw [if_pos same]
      exact .inl rfl
    rw [if_neg same]
    by_cases zero : prev.row.bootTime = 0
    · rw [if_pos zero]
      refine .inr ⟨openSession_seq .., .inr ⟨earlier, prev, prev.row, rows, same,
        .inl ⟨rfl, zero⟩, ?_⟩⟩
      rw [openSession_entries, rows, List.append_assoc]
      rfl
    · rw [if_neg zero]
      refine .inr ⟨openSession_seq .., .inr ⟨earlier, prev, _, rows, same, .inr rfl, ?_⟩⟩
      have finalised := AutoTable.update_last_entries rows (outcomeFields
        (transitionSummary db prev.row.bootTime bootTime) (bootTime - prev.row.bootTime)).apply
      rw [openSession_entries]
      simp only [finaliseSession, Database.updateSession, finalised, AutoTable.update_seq,
        List.append_assoc, List.singleton_append]

/-- **One call touches the latest row only and adds at most one.** -/
theorem detectBoot_touchesLatest (db : Database) (now bootTime : Epoch) :
    TouchesLatest db.sessions (detectBoot db now bootTime).1.sessions := by
  rcases detectBoot_entries db now bootTime with
    same | ⟨-, ⟨none, rows⟩ | ⟨earlier, prev, finalised, split, -, -, rows⟩⟩
  · rw [same]
    exact ⟨List.dropLast_prefix _, List.prefix_refl _, Nat.le_succ _⟩
  · refine ⟨?_, ?_, ?_⟩ <;> simp [none, rows]
  · refine ⟨?_, ?_, ?_⟩
    · rw [split, List.dropLast_concat, rows]
      exact List.prefix_append ..
    · rw [split, rows]
      simp
    · rw [split, rows]
      simp

/-! ## The invariant -/

/-- A chain as it is kept: the counter stands at the last id, and no boot time
is zero. -/
structure Kept (table : AutoTable SessionRow) : Prop extends Chain table where
  counter : table.seq = table.entries.length
  positive : ∀ latest, table.latest = some latest → latest.row.bootTime ≠ 0

theorem Kept.empty : Kept .empty where
  consecutive := rfl
  follows := .nil
  latestOpen _ found := by simp [AutoTable.empty, AutoTable.latest] at found
  counter := rfl
  positive _ found := by simp [AutoTable.empty, AutoTable.latest] at found

/-- The next id continues the count. -/
theorem consecutive_concat {ids : List ℕ} {count : ℕ} (consecutive : ids = List.range' 1 count) :
    ids ++ [count + 1] = List.range' 1 (count + 1) := by
  rw [consecutive, List.range'_concat, Nat.one_mul, Nat.add_comm 1 count]

theorem Kept.detectBoot {db : Database} (kept : Kept db.sessions) (now : Epoch)
    {bootTime : Epoch} (positive : 0 < bootTime) :
    Kept (detectBoot db now bootTime).1.sessions := by
  obtain ⟨⟨consecutive, follows, latestOpen⟩, counter, nonzero⟩ := kept
  rcases detectBoot_entries db now bootTime with
    same | ⟨seq, ⟨none, rows⟩ | ⟨earlier, prev, finalised, split, other, outcome, rows⟩⟩
  · rw [same]
    exact ⟨⟨consecutive, follows, latestOpen⟩, counter, nonzero⟩
  · have latest : (BootDetector.detectBoot db now bootTime).1.sessions.latest =
        some ⟨db.sessions.seq + 1, { bootTime, createdAt := now }⟩ :=
      AutoTable.latest_eq_some_iff.mpr ⟨[], rows⟩
    rw [none] at counter
    refine ⟨⟨?_, ?_, ?_⟩, ?_, ?_⟩
    · rw [rows, counter]
      rfl
    · rw [rows]
      exact .singleton _
    · intro entry found
      rw [← Option.some.inj (latest.symm.trans found)]
      exact ⟨rfl, rfl, rfl, rfl, rfl⟩
    · rw [seq, rows, counter]
      rfl
    · intro entry found
      rw [← Option.some.inj (latest.symm.trans found)]
      exact positive.ne'
  · have known : db.sessions.latest = some prev := AutoTable.latest_eq_some_iff.mpr ⟨_, split⟩
    -- a chained session has a boot time, so it was finalised
    obtain rfl : finalised = (outcomeFields (transitionSummary db prev.row.bootTime bootTime)
        (bootTime - prev.row.bootTime)).apply prev.row :=
      outcome.resolve_left fun unfinished => nonzero prev known unfinished.2
    have latest : (BootDetector.detectBoot db now bootTime).1.sessions.latest =
        some ⟨db.sessions.seq + 1,
          { bootTime, previousBootTime := some prev.row.bootTime, createdAt := now }⟩ :=
      AutoTable.latest_eq_some_iff.mpr ⟨earlier ++ [_], by
        rw [rows, List.append_assoc, List.singleton_append]⟩
    have count : db.sessions.entries.length = earlier.length + 1 := by
      rw [split, List.length_append, List.length_singleton]
    refine ⟨⟨?_, ?_, ?_⟩, ?_, ?_⟩
    · have ids := consecutive_concat consecutive
      rw [← counter] at ids
      rw [rows]
      rw [split] at ids
      simpa [counter, count] using ids
    · rw [rows, List.isChain_append_cons_cons]
      refine ⟨?_, ⟨rfl, ?_, ?_⟩, .singleton _⟩
      · rw [split, List.isChain_append] at follows
        refine List.isChain_append.mpr ⟨follows.1, .singleton _, ?_⟩
        intro before isLast after isFirst
        rw [← Option.some.inj isFirst]
        -- the link and the boot time are not part of an outcome
        obtain ⟨linked, apart, closed⟩ := follows.2.2 before isLast prev rfl
        exact ⟨linked, apart, closed⟩
      · rw [abs_sub_comm]
        exact not_lt.mp other
      · exact endedAt_outcomeFields ..
    · intro entry found
      rw [← Option.some.inj (latest.symm.trans found)]
      exact ⟨rfl, rfl, rfl, rfl, rfl⟩
    · rw [seq, rows, counter, count]
      simp
    · intro entry found
      rw [← Option.some.inj (latest.symm.trans found)]
      exact positive.ne'

/-! ## Runs -/

/-- An operation with a positive boot time, if it detects a boot. -/
def BootsPositively : Agent.Operation → Prop
  | .detectBoot _ bootTime => 0 < bootTime
  | _ => True

theorem Kept.apply {db : Database} (kept : Kept db.sessions) {op : Agent.Operation}
    (positive : BootsPositively op) : Kept (op.apply db).sessions := by
  by_cases background : op.Background
  · have same := Agent.applyAll_sessions db (List.forall_mem_singleton.mpr background)
    exact same.symm ▸ kept
  · cases op with
    | detectBoot now bootTime => exact kept.detectBoot now positive
    | runDiagnosis transition config =>
      exact (Diagnosis.runDiagnosis_sessions db transition config true).symm ▸ kept
    | _ => exact absurd trivial background

/-- **In every run from an empty database the sessions form a chain, and every
call of `detect_boot` touches the latest row only and adds at most one.** -/
theorem sessions_chain (ops : List Agent.Operation) (positive : ∀ op ∈ ops, BootsPositively op) :
    Chain (Agent.applyAll .empty ops).sessions ∧
      ∀ done now bootTime rest, ops = done ++ .detectBoot now bootTime :: rest →
        TouchesLatest (Agent.applyAll .empty done).sessions
          (detectBoot (Agent.applyAll .empty done) now bootTime).1.sessions := by
  constructor
  · have step : ∀ (db : Database) (op : Agent.Operation), BootsPositively op →
        Kept db.sessions → Kept (op.apply db).sessions :=
      fun _ _ positive kept => kept.apply positive
    have kept : Kept (Agent.applyAll .empty ops).sessions :=
      Runs.run_invariant (fun db : Database => Kept db.sessions) step Kept.empty positive
    exact kept.toChain
  · intro done now bootTime rest _
    exact detectBoot_touchesLatest ..

/-- Two reboots, a restart of the service and a clock that was set back. -/
theorem sessions_chain_clock_back :
    Chain (Agent.applyAll .empty [.detectBoot 1000 1000, .detectBoot 1010 1030,
      .insertEvents [kernelPower41 5000] 1, .detectBoot 5000 5000,
      .detectBoot 3000 3000]).sessions := by
  refine (sessions_chain _ fun op member => ?_).1
  simp only [List.mem_cons, List.not_mem_nil, or_false] at member
  rcases member with rfl | rfl | rfl | rfl | rfl <;> simp [BootsPositively]

end SessionChain

end PcDiagnosticAgent
