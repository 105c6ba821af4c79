import PcDiagnosticAgent.Diagnostics.Diagnosis

/-!
# A boot detection that dies between its commits

A reboot commits the outcome of the previous session, then the new session,
then the link from the new session to the previous boot. The process can die
after any of them, and the agent starts again in the same boot.

After the first commit the next start repeats the reboot, after the last one it
resumes the finished session. After the second one it resumes a session whose
link was never written (`recovers_iff`).
-/

set_option autoImplicit false

namespace PcDiagnosticAgent

open AutoTables EventAnalyzer Diagnosis

namespace BootDetector

/-- The commits of a boot detection. -/
inductive Commit where
  | finalised
  | created
  | linked
deriving DecidableEq, Repr

/-- The commits of `detect_boot` in order, each with the database that it
leaves on disk. -/
def commits (db : Database) (now bootTime : Epoch) : List (Commit × Database) :=
  match db.latestSession with
  | none => [(.created, (db.createSession bootTime now).1)]
  | some prev =>
    if SameBoot prev bootTime then []
    else if prev.row.bootTime = 0 then
      let created := db.createSession bootTime now
      [(.created, created.1),
        (.linked, created.1.updateSession created.2
          { previousBootTime := some prev.row.bootTime })]
    else
      let settled := finaliseSession db prev bootTime
      let created := settled.createSession bootTime now
      [(.finalised, settled), (.created, created.1),
        (.linked, created.1.updateSession created.2
          { previousBootTime := some prev.row.bootTime })]

/-- The last commit leaves what the whole call leaves. -/
theorem commits_getLast? (db : Database) (now bootTime : Epoch) :
    (((commits db now bootTime).map Prod.snd).getLast?).getD db =
      (detectBoot db now bootTime).1 := by
  cases latest : db.latestSession with
  | none =>
    simp only [commits, detectBoot, latest]
    rfl
  | some prev =>
    simp only [commits, detectBoot, latest]
    split
    · rfl
    · split <;> rfl

/-- The sessions apart from the times at which they were created. -/
def sessionRows (db : Database) : List (Entry SessionRow) :=
  db.sessions.entries.map fun entry => { entry with row := { entry.row with createdAt := 0 } }

/-- The start after an interrupted one ends where an uninterrupted one does. -/
structure Recovers (whole rerun : Database × BootResult) : Prop where
  sessions : sessionRows rerun.1 = sessionRows whole.1
  previousBootTime : rerun.2.previousBootTime = whole.2.previousBootTime
  previousSessionId : rerun.2.previousSessionId = whole.2.previousSessionId
  window : ∀ config, transitionEvents rerun.1 rerun.2.toTransition config =
    transitionEvents whole.1 whole.2.toTransition config

/-- The window follows from the boot times. -/
theorem transitionEvents_eq {first second : Database × BootResult}
    (events : first.1.events = second.1.events) (bootTime : first.2.bootTime = second.2.bootTime)
    (previousBootTime : first.2.previousBootTime = second.2.previousBootTime) (config : Config) :
    transitionEvents first.1 first.2.toTransition config =
      transitionEvents second.1 second.2.toTransition config := by
  simp only [transitionEvents, transitionStart, bootTime, previousBootTime]
  exact Database.eventsBetween_congr events _ _

/-! ## The next start -/

section Rerun

variable {db : Database} {bootTime : Epoch}

/-- A boot time belongs to a session that was created for it. -/
theorem sameBoot_self (id : ℕ) (row : SessionRow) : SameBoot ⟨id, row⟩ row.bootTime := by
  simp [SameBoot]

/-- Finalising the finalised session again changes nothing. -/
theorem finaliseSession_twice {prev : Entry SessionRow} {earlier : List (Entry SessionRow)}
    (split : db.sessions.entries = earlier ++ [prev]) :
    ∃ finalised : Entry SessionRow, finalised.id = prev.id ∧
      finalised.row.bootTime = prev.row.bootTime ∧
      (finaliseSession db prev bootTime).latestSession = some finalised ∧
      (finaliseSession (finaliseSession db prev bootTime) finalised bootTime).sessions.entries =
        (finaliseSession db prev bootTime).sessions.entries := by
  have once := AutoTable.update_last_entries split
    (outcomeFields (transitionSummary db prev.row.bootTime bootTime)
      (bootTime - prev.row.bootTime)).apply
  refine ⟨⟨prev.id, (outcomeFields (transitionSummary db prev.row.bootTime bootTime)
    (bootTime - prev.row.bootTime)).apply prev.row⟩, rfl, rfl, ?_, ?_⟩
  · exact AutoTable.latest_eq_some_iff.mpr ⟨earlier, once⟩
  · have twice := AutoTable.update_last_entries once
      (outcomeFields (transitionSummary db prev.row.bootTime bootTime)
        (bootTime - prev.row.bootTime)).apply
    exact twice.trans once.symm

end Rerun

/-! ## Each commit -/

section Commits

variable {db : Database} (now later bootTime : Epoch)

/-- Without an earlier session there is only one commit. -/
theorem recovers_first (first : db.latestSession = none) :
    Recovers (detectBoot db now bootTime)
      (detectBoot (db.createSession bootTime now).1 later bootTime) := by
  have latest : (db.createSession bootTime now).1.latestSession =
      some ⟨db.sessions.seq + 1, { bootTime, createdAt := now }⟩ := AutoTable.latest_insert _ _
  have earlier : (db.createSession bootTime now).1.earlierSession (db.sessions.seq + 1) = none :=
    (AutoTable.before_insert _ _).trans first
  have rerun := detectBoot_sameBoot latest (sameBoot_self _ _) later
  rw [detectBoot_first first, rerun]
  have same : (resumeSession (db.createSession bootTime now).1
      ⟨db.sessions.seq + 1, { bootTime, createdAt := now }⟩ bootTime).previousSessionId = none :=
    congrArg (Option.map Entry.id) earlier
  exact ⟨rfl, rfl, same, transitionEvents_eq rfl rfl rfl⟩

variable {prev : Entry SessionRow} (latest : db.latestSession = some prev)
  (other : ¬ SameBoot prev bootTime)

include latest other

/-- What a start returns about the previous session, if it is none of the
latest session's boot. -/
theorem detectBoot_previous :
    (detectBoot db now bootTime).2.previousBootTime = some prev.row.bootTime ∧
      (detectBoot db now bootTime).2.previousSessionId = some prev.id := by
  simp only [detectBoot, latest, if_neg other]
  split <;> exact ⟨rfl, rfl⟩

/-- A death after the outcome is stored: the reboot is repeated. -/
theorem recovers_finalised (nonzero : prev.row.bootTime ≠ 0) :
    Recovers (detectBoot db now bootTime)
      (detectBoot (finaliseSession db prev bootTime) later bootTime) := by
  obtain ⟨earlier, split⟩ := AutoTable.latest_eq_some_iff.mp latest
  obtain ⟨finalised, id, booted, isLatest, twice⟩ := @finaliseSession_twice db bootTime prev _ split
  have apart : ¬ SameBoot finalised bootTime := by
    rw [SameBoot, booted]
    exact other
  have again : finalised.row.bootTime ≠ 0 := booted.symm ▸ nonzero
  obtain ⟨wholeTime, wholeId⟩ := detectBoot_previous now bootTime latest other
  obtain ⟨rerunTime, rerunId⟩ := detectBoot_previous later bootTime isLatest apart
  have previousTime := rerunTime.trans ((congrArg some booted).trans wholeTime.symm)
  refine ⟨?_, previousTime, rerunId.trans ((congrArg some id).trans wholeId.symm), ?_⟩
  · simp only [detectBoot, latest, isLatest, if_neg other, if_neg apart, if_neg nonzero,
      sessionRows, openSession_entries, twice, booted]
    rw [List.map_append, List.map_append]
    rfl
  · refine transitionEvents_eq ?_ ?_ previousTime
    · rw [detectBoot_events, detectBoot_events]
      rfl
    · rw [detectBoot_bootTime, detectBoot_bootTime]

/-- A death after the session is created: it is resumed without its link. -/
theorem not_recovers_created {settled : Database} :
    ¬ Recovers (detectBoot db now bootTime)
      (detectBoot (settled.createSession bootTime now).1 later bootTime) := by
  intro recovers
  have isLatest : (settled.createSession bootTime now).1.latestSession =
      some ⟨settled.sessions.seq + 1, { bootTime, createdAt := now }⟩ :=
    AutoTable.latest_insert _ _
  have unlinked : (detectBoot (settled.createSession bootTime now).1 later
      bootTime).2.previousBootTime = none := by
    rw [detectBoot_sameBoot isLatest (sameBoot_self _ _) later]
    rfl
  have whole := (detectBoot_previous now bootTime latest other).1
  have linked := recovers.previousBootTime
  rw [unlinked, whole] at linked
  cases linked

/-- A death after the last commit: the session is resumed. -/
theorem recovers_linked :
    Recovers (detectBoot db now bootTime)
      (detectBoot (detectBoot db now bootTime).1 later bootTime) := by
  obtain ⟨wholeTime, wholeId⟩ := detectBoot_previous now bootTime latest other
  have opened : ∃ settled : Database, ∃ kept : Entry SessionRow,
      kept.id = prev.id ∧ settled.latestSession = some kept ∧
      (detectBoot db now bootTime).1 =
        (openSession settled bootTime now (some prev.row.bootTime)).1 := by
    obtain ⟨earlier, split⟩ := AutoTable.latest_eq_some_iff.mp latest
    by_cases zero : prev.row.bootTime = 0
    · refine ⟨db, prev, rfl, latest, ?_⟩
      simp only [detectBoot, latest, if_neg other, if_pos zero]
    · obtain ⟨finalised, id, -, isLatest, -⟩ := @finaliseSession_twice db bootTime prev _ split
      refine ⟨finaliseSession db prev bootTime, finalised, id, isLatest, ?_⟩
      simp only [detectBoot, latest, if_neg other, if_neg zero]
  obtain ⟨settled, kept, id, isLatest, stored⟩ := opened
  have newest := openSession_latest settled bootTime now (some prev.row.bootTime)
  have earlier : (openSession settled bootTime now
      (some prev.row.bootTime)).1.earlierSession (settled.sessions.seq + 1) = some kept := by
    refine (AutoTable.before_update_of_le _ (le_refl _)).trans ?_
    exact (AutoTable.before_insert _ _).trans isLatest
  rw [← stored] at newest earlier
  have rerun := detectBoot_sameBoot newest (sameBoot_self _ _) later
  have sameId : (resumeSession (detectBoot db now bootTime).1 ⟨settled.sessions.seq + 1,
      { bootTime, previousBootTime := some prev.row.bootTime, createdAt := now }⟩
      bootTime).previousSessionId = some prev.id :=
    (congrArg (Option.map Entry.id) earlier).trans (congrArg some id)
  rw [rerun]
  refine ⟨rfl, wholeTime.symm, sameId.trans wholeId.symm, ?_⟩
  exact transitionEvents_eq rfl (detectBoot_bootTime db now bootTime).symm wholeTime.symm

end Commits

/-- **The next start ends where an uninterrupted one does exactly when the
process did not die with a created session that is not linked yet.** -/
theorem recovers_iff (db : Database) (now later bootTime : Epoch) (commit : Commit)
    (stage : Database) (reached : (commit, stage) ∈ commits db now bootTime) :
    Recovers (detectBoot db now bootTime) (detectBoot stage later bootTime) ↔
      (commit = .created → db.latestSession = none) := by
  unfold commits at reached
  split at reached
  · rename_i first
    obtain ⟨rfl, rfl⟩ := Prod.mk.inj (List.mem_singleton.mp reached)
    exact iff_of_true (recovers_first now later bootTime first) fun _ => first
  · rename_i prev latest
    have known : db.latestSession ≠ none := by simp [latest]
    split at reached
    · cases reached
    · rename_i other
      have notCreated : ∀ {settled : Database}, Recovers (detectBoot db now bootTime)
          (detectBoot (settled.createSession bootTime now).1 later bootTime) ↔
          (Commit.created = .created → db.latestSession = none) :=
        iff_of_false (not_recovers_created now later bootTime latest other)
          fun linked => known (linked rfl)
      split at reached
      all_goals
        rename_i zero
        simp only [List.mem_cons, List.not_mem_nil, or_false, Prod.mk.injEq] at reached
      · rcases reached with ⟨rfl, rfl⟩ | ⟨rfl, rfl⟩
        · exact notCreated
        · refine iff_of_true ?_ (by simp)
          have whole := recovers_linked now later bootTime latest other
          simp only [detectBoot, latest, if_neg other, if_pos zero, openSession] at whole ⊢
          exact whole
      · rcases reached with ⟨rfl, rfl⟩ | ⟨rfl, rfl⟩ | ⟨rfl, rfl⟩
        · exact iff_of_true (recovers_finalised now later bootTime latest other zero) (by simp)
        · exact notCreated
        · refine iff_of_true ?_ (by simp)
          have whole := recovers_linked now later bootTime latest other
          simp only [detectBoot, latest, if_neg other, if_neg zero, openSession] at whole ⊢
          exact whole

/-- The commits of a reboot. -/
theorem Reboot.commits_eq {db : Database} (reboot : Reboot db) (now : Epoch) :
    commits db now reboot.bootTime =
      let settled := finaliseSession db reboot.prev reboot.bootTime
      let created := settled.createSession reboot.bootTime now
      [(.finalised, settled), (.created, created.1),
        (.linked, created.1.updateSession created.2
          { previousBootTime := some reboot.prev.row.bootTime })] := by
  have other : ¬ SameBoot reboot.prev reboot.bootTime := not_lt.mpr reboot.apart
  simp only [commits, reboot.latest, if_neg other, if_neg reboot.nonzero]

theorem powerLoss_apart : (60 : Epoch) ≤ |1000 - 2000| := by decide +kernel

/-- A power loss in a first session. -/
def powerLoss : Reboot (oneSession [kernelPower41 2000]) :=
  oneSession.reboot [kernelPower41 2000] 2000 powerLoss_apart

theorem powerLoss_commits : commits (oneSession [kernelPower41 2000]) 2000 2000 =
    let settled := finaliseSession (oneSession [kernelPower41 2000]) powerLoss.prev 2000
    let created := settled.createSession 2000 2000
    [(.finalised, settled), (.created, created.1),
      (.linked, created.1.updateSession created.2 { previousBootTime := some 1000 })] :=
  powerLoss.commits_eq 2000

/-- The start after a death that followed the first commit. -/
theorem recovers_power_loss :
    Recovers (detectBoot (oneSession [kernelPower41 2000]) 2000 2000)
      (detectBoot (finaliseSession (oneSession [kernelPower41 2000]) powerLoss.prev 2000)
        2060 2000) := by
  refine (recovers_iff _ 2000 2060 2000 .finalised _ ?_).mpr (by decide)
  rw [powerLoss_commits]
  exact List.mem_cons_self

/-- The start after a death that followed the second commit forgets when the
previous session booted, and the diagnosis reads back over the retention
time. -/
theorem not_recovers_power_loss :
    let settled := finaliseSession (oneSession [kernelPower41 2000]) powerLoss.prev 2000
    let stage := (settled.createSession 2000 2000).1
    (.created, stage) ∈ commits (oneSession [kernelPower41 2000]) 2000 2000 ∧
      ¬ Recovers (detectBoot (oneSession [kernelPower41 2000]) 2000 2000)
        (detectBoot stage 2060 2000) ∧
      transitionStart (detectBoot (oneSession [kernelPower41 2000]) 2000 2000).2.toTransition {} =
        1000 ∧
      transitionStart (detectBoot stage 2060 2000).2.toTransition {} = 2000 - 24 * 3600 := by
  intro settled stage
  refine ⟨?_, fun recovers => ?_, by decide +kernel, by decide +kernel⟩
  · rw [powerLoss_commits]
    exact List.mem_cons_of_mem _ List.mem_cons_self
  · have linked := recovers.previousBootTime
    revert linked
    decide +kernel

end BootDetector

end PcDiagnosticAgent
