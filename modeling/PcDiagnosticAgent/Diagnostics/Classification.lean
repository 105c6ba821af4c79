import PcDiagnosticAgent.Diagnostics.Verdict

/-!
# Which incident is reported

Two results about `run_diagnosis` for every database, transition and
configuration.

With Kernel-Power 41 in the window, no BugCheck and no clean flag, the gap
between the last activity and the boot decides type, confidence and duration
(`gap_decides_incident`). A BugCheck overrides every gap. More activity before
the boot can only shorten the gap, so it can turn a hang into a power loss and
never a power loss into a hang.

The documentation reserves `HARD_HANG` and `POWER_LOSS` for transitions with
Kernel-Power 41 and calls a transition with 6008 alone `UNEXPECTED_REBOOT`.
The code reports a hang of low confidence there, so it follows the
documentation exactly when 6008 is not the only evidence
(`typedAsDocumented_iff`).
-/

set_option autoImplicit false

namespace PcDiagnosticAgent

open AutoTables EventAnalyzer BootDetector

namespace Diagnosis

/-! ## The gap -/

/-- The gap of the greatest activity before the boot. -/
theorem activityGap_of_greatest {db : Database} {boot last : Epoch}
    (greatest : IsGreatest (activityTimes db ∩ Set.Iio boot) last) :
    activityGap (lastMetricTimestamp db boot) boot = some (boot - last) := by
  have last : OptionalMax.Greatest (activityTimes db ∩ Set.Iio boot) (some last) := greatest
  have answer := (lastMetricTimestamp_greatest db boot).unique last
  rw [answer, activityGap_of_lt greatest.1.2]

theorem activityGap_of_empty {db : Database} {boot : Epoch}
    (empty : activityTimes db ∩ Set.Iio boot = ∅) :
    activityGap (lastMetricTimestamp db boot) boot = none := by
  rw [(lastMetricTimestamp_greatest db boot).eq_none_iff.mpr empty]
  rfl

/-- A BugCheck overrides every gap and every clean flag. -/
theorem reported_bugcheck {db : Database} {transition : Transition} {config : Config}
    {persist : Bool} (bugcheck : Holds (transitionEvents db transition config) .bugcheck) :
    reported db transition config persist = some ⟨.bsod, .high, none⟩ := by
  rw [reported_eq, verdict, if_pos bugcheck]

/-- With Kernel-Power 41, neither a BugCheck nor a clean flag, the gap decides. -/
theorem reported_kernelPower {db : Database} {transition : Transition} {config : Config}
    {persist : Bool} (unclean : transition.previousSessionClean ≠ some true)
    (kernelPower : Holds (transitionEvents db transition config) .kernelPower)
    (noBugcheck : ¬ Holds (transitionEvents db transition config) .bugcheck) :
    reported db transition config persist =
      some (gapVerdict config.collectionIntervalSeconds
        (activityGap (lastMetricTimestamp db transition.bootTime) transition.bootTime)) := by
  rw [reported_eq, verdict, if_neg noBugcheck, if_neg (getD_false_iff.not.mpr unclean),
    if_pos kernelPower]

/-- A power loss is reported exactly in an unclean transition with Kernel-Power
41, no BugCheck and activity less than two intervals before the boot. -/
theorem reported_powerLoss_iff (db : Database) (transition : Transition) (config : Config)
    (persist : Bool) :
    (reported db transition config persist).map Verdict.type = some .powerLoss ↔
      transition.previousSessionClean ≠ some true ∧
        Holds (transitionEvents db transition config) .kernelPower ∧
        ¬ Holds (transitionEvents db transition config) .bugcheck ∧
        ∃ time ∈ activityTimes db, time < transition.bootTime ∧
          transition.bootTime - time < config.collectionIntervalSeconds * 2 := by
  have greatest := lastMetricTimestamp_greatest db transition.bootTime
  have nonneg : (0 : ℚ) ≤ config.collectionIntervalSeconds := Nat.cast_nonneg _
  rw [reported_eq, ne_eq, ← getD_false_iff]
  unfold verdict
  split
  · rename_i bugcheck
    simp [bugcheck]
  · split
    · rename_i clean
      simp [clean]
    · split
      · rename_i noBugcheck unclean kernelPower
        simp only [Option.map_some, Option.some.injEq, unclean, kernelPower, noBugcheck,
          Bool.false_eq_true, not_false_eq_true, true_and]
        cases answer : lastMetricTimestamp db transition.bootTime with
        | none =>
          rw [answer] at greatest
          have empty : activityTimes db ∩ Set.Iio transition.bootTime = ∅ := greatest
          simp only [activityGap, Option.map_none, gapVerdict, reduceCtorEq, false_iff]
          rintro ⟨time, active, early, -⟩
          exact (Set.eq_empty_iff_forall_notMem.mp empty) time ⟨active, early⟩
        | some last =>
          rw [answer] at greatest
          rw [activityGap_of_lt greatest.1.2]
          simp only [gapVerdict]
          constructor
          · intro loss
            refine ⟨last, greatest.1.1, greatest.1.2, ?_⟩
            by_contra long
            rw [not_lt] at long
            by_cases longer : (config.collectionIntervalSeconds : ℚ) * 5 ≤
                transition.bootTime - last
            · rw [if_pos longer] at loss
              cases loss
            · rw [if_neg longer, if_pos long] at loss
              cases loss
          · rintro ⟨time, active, early, short⟩
            have later : time ≤ last := greatest.2 ⟨active, early⟩
            have two : ¬ (config.collectionIntervalSeconds : ℚ) * 2 ≤
                transition.bootTime - last := by linarith
            have five : ¬ (config.collectionIntervalSeconds : ℚ) * 5 ≤
                transition.bootTime - last := by linarith
            rw [if_neg five, if_neg two]
      · rename_i noKernelPower
        split <;> simp [noKernelPower]

/-- The rows a metric table gains are activity when the table counts as such. -/
theorem mem_activityTimes_addMetrics (db : Database) {table : MetricTable}
    (active : table ∈ activityTables) (row : MetricRow) :
    row.timestamp ∈ activityTimes (db.addMetrics table [row]) := by
  refine Or.inl ⟨table, active, row, ?_, rfl⟩
  simp [Database.addMetrics]

/-- **The gap between the last activity and the boot decides the incident.**

Later activity before the boot turns a hang into a power loss, and no activity
before the boot turns a power loss into a hang. -/
theorem gap_decides_incident (db : Database) (transition : Transition) (config : ValidConfig)
    (persist : Bool) (unclean : transition.previousSessionClean ≠ some true) :
    let boot := transition.bootTime
    let interval : ℚ := config.collectionIntervalSeconds
    let events := transitionEvents db transition config.toConfig
    let reports := fun db => reported db transition config.toConfig persist
    let activity := fun db => activityTimes db ∩ Set.Iio boot
    (Holds events .bugcheck → reports db = some ⟨.bsod, .high, none⟩) ∧
      (Holds events .kernelPower → ¬ Holds events .bugcheck →
        (activity db = ∅ → reports db = some ⟨.hardHang, .low, none⟩) ∧
        (∀ last, IsGreatest (activity db) last →
          0 < boot - last ∧
          (interval * 5 ≤ boot - last →
            reports db = some ⟨.hardHang, .high, some (boot - last)⟩) ∧
          (interval * 2 ≤ boot - last → boot - last < interval * 5 →
            reports db = some ⟨.hardHang, .medium, some (boot - last)⟩) ∧
          (boot - last < interval * 2 →
            reports db = some ⟨.powerLoss, .low, some (boot - last)⟩)) ∧
        ∃ time < boot, ∀ sessionId,
          (reports (db.insertSnapshot [("metrics_cpu", [[]])] time sessionId)).map Verdict.type =
            some .powerLoss) ∧
      ∀ other : Database, other.events = db.events →
        (∀ time ∈ activity db, ∃ later ∈ activity other, time ≤ later) →
        (reports db).map Verdict.type = some .powerLoss →
        (reports other).map Verdict.type = some .powerLoss := by
  intro boot interval events reports activity
  have positive : (0 : ℚ) < interval := Nat.cast_pos.mpr config.interval_pos
  refine ⟨reported_bugcheck, fun kernelPower noBugcheck => ⟨fun empty => ?_,
    fun last greatest => ?_, boot - interval, by linarith, fun sessionId => ?_⟩,
    fun other same covered loss => ?_⟩
  · -- no activity at all
    have table : reports db = _ := reported_kernelPower unclean kernelPower noBugcheck
    rwa [activityGap_of_empty empty] at table
  · have earlier : last < boot := greatest.1.2
    have table : reports db = some (gapVerdict config.collectionIntervalSeconds
        (some (boot - last))) := by
      rw [← activityGap_of_greatest greatest]
      exact reported_kernelPower unclean kernelPower noBugcheck
    refine ⟨sub_pos.mpr earlier, fun long => ?_, fun middle notLong => ?_, fun short => ?_⟩
    · rw [table, gapVerdict, if_pos long]
    · rw [table, gapVerdict, if_neg (not_le.mpr notLong), if_pos middle]
    · have notLong : ¬ interval * 5 ≤ boot - last := by linarith
      rw [table, gapVerdict, if_neg notLong, if_neg (not_le.mpr short)]
  · -- one sample an interval before the boot
    let sample := Database.snapshotRow .cpu (boot - interval) sessionId []
    have inserted : db.insertSnapshot [("metrics_cpu", [[]])] (boot - interval) sessionId =
        db.addMetrics .cpu [sample] := rfl
    rw [inserted]
    refine (reported_powerLoss_iff ..).mpr ⟨unclean, kernelPower, noBugcheck, boot - interval,
      mem_activityTimes_addMetrics db (by decide) sample, by linarith, ?_⟩
    have gap : boot - (boot - interval) < interval * 2 := by linarith
    exact gap
  · have sameEvents : transitionEvents other transition config.toConfig = events :=
      Database.eventsBetween_congr same _ _
    obtain ⟨-, kernelPower, noBugcheck, time, active, early, short⟩ :=
      (reported_powerLoss_iff ..).mp loss
    obtain ⟨later, ⟨laterActive, laterEarly⟩, order⟩ := covered time ⟨active, early⟩
    refine (reported_powerLoss_iff ..).mpr ⟨unclean, sameEvents ▸ kernelPower,
      sameEvents ▸ noBugcheck, later, laterActive, laterEarly, ?_⟩
    exact lt_of_le_of_lt (sub_le_sub_left order _) short

/-- A heartbeat five minutes before a boot with Kernel-Power 41. -/
def silentFor300 : Database :=
  (oneSession [kernelPower41 2000]).updateHeartbeat 1700

theorem gap_decides_incident_silent :
    reported silentFor300 ⟨2000, some 1000, some 1, some false⟩ {} true =
      some ⟨.hardHang, .high, some 300⟩ := by
  have greatest : IsGreatest (activityTimes silentFor300 ∩ Set.Iio 2000) 1700 := by
    have answer : lastMetricTimestamp silentFor300 2000 = some 1700 := by decide +kernel
    have spec := lastMetricTimestamp_greatest silentFor300 2000
    rwa [answer] at spec
  have decided := (gap_decides_incident silentFor300 ⟨2000, some 1000, some 1, some false⟩
    .default true (by decide)).2.1 (by decide +kernel) (by decide +kernel)
  have high := (decided.2.1 1700 greatest).2.1 (by decide +kernel)
  have gap : (2000 : ℚ) - 1700 = 300 := by norm_num
  rw [← gap]
  exact high

/-! ## The documented types -/

/-- What the documentation says about the types: a hang and a power loss come
with Kernel-Power 41 and without a BugCheck, and 6008 as the only evidence of
an unclean transition is an unexpected reboot. -/
structure TypedAsDocumented (db : Database) (transition : Transition) (config : Config)
    (persist : Bool) : Prop where
  hangOrLoss : ∀ verdict, reported db transition config persist = some verdict →
    verdict.type = .hardHang ∨ verdict.type = .powerLoss →
    Holds (transitionEvents db transition config) .kernelPower ∧
      ¬ Holds (transitionEvents db transition config) .bugcheck
  unexpectedOnly : transition.previousSessionClean ≠ some true →
    Holds (transitionEvents db transition config) .shutdownUnexpected →
    ¬ Holds (transitionEvents db transition config) .kernelPower →
    ¬ Holds (transitionEvents db transition config) .bugcheck →
    ¬ Holds (transitionEvents db transition config) .shutdownClean →
    ∃ verdict, reported db transition config persist = some verdict ∧
      verdict.type = .unexpectedReboot

/-- With 6008 as the only evidence the code reports a hang of low confidence. -/
theorem reported_unexpectedOnly {db : Database} {transition : Transition} {config : Config}
    {persist : Bool} (unclean : transition.previousSessionClean ≠ some true)
    (unexpected : Holds (transitionEvents db transition config) .shutdownUnexpected)
    (noKernelPower : ¬ Holds (transitionEvents db transition config) .kernelPower)
    (noBugcheck : ¬ Holds (transitionEvents db transition config) .bugcheck) :
    reported db transition config persist =
      some ⟨.hardHang, .low,
        activityGap (lastMetricTimestamp db transition.bootTime) transition.bootTime⟩ := by
  rw [reported_eq, verdict, if_neg noBugcheck, if_neg (getD_false_iff.not.mpr unclean),
    if_neg noKernelPower, if_pos unexpected]

/-- Without a BugCheck and without 6008 alone, a hang or a power loss has
Kernel-Power 41. -/
theorem kernelPower_of_reported {db : Database} {transition : Transition} {config : Config}
    {persist : Bool} {found : Verdict} (noBugcheck :
      ¬ Holds (transitionEvents db transition config) .bugcheck)
    (reports : reported db transition config persist = some found)
    (other : ¬ (transition.previousSessionClean ≠ some true ∧
      Holds (transitionEvents db transition config) .shutdownUnexpected ∧
      ¬ Holds (transitionEvents db transition config) .kernelPower)) :
    Holds (transitionEvents db transition config) .kernelPower := by
  have table := reported_eq db transition config persist
  by_contra noKernelPower
  rw [reports, verdict, if_neg noBugcheck, if_neg noKernelPower] at table
  split at table
  · cases table
  · rename_i unclean
    split at table
    · rename_i unexpected
      exact other ⟨getD_false_iff.not.mp unclean, unexpected, noKernelPower⟩
    · cases table

/-- **The code types an incident as documented exactly when 6008 is not the
only evidence of an unclean transition.** -/
theorem typedAsDocumented_iff (db : Database) (transition : Transition) (config : Config)
    (persist : Bool) :
    TypedAsDocumented db transition config persist ↔
      ¬ (transition.previousSessionClean ≠ some true ∧
        Holds (transitionEvents db transition config) .shutdownUnexpected ∧
        ¬ Holds (transitionEvents db transition config) .kernelPower ∧
        ¬ Holds (transitionEvents db transition config) .bugcheck) := by
  constructor
  · rintro documented ⟨unclean, unexpected, noKernelPower, noBugcheck⟩
    have hang : reported db transition config persist = _ :=
      reported_unexpectedOnly unclean unexpected noKernelPower noBugcheck
    exact noKernelPower (documented.hangOrLoss _ hang (.inl rfl)).1
  · intro other
    refine ⟨fun found reports typed => ?_, fun unclean unexpected noKernelPower noBugcheck _ =>
      absurd ⟨unclean, unexpected, noKernelPower, noBugcheck⟩ other⟩
    by_cases bugcheck : Holds (transitionEvents db transition config) .bugcheck
    · -- a BugCheck is reported as such
      rw [reported_bugcheck bugcheck] at reports
      cases reports
      rcases typed with hang | loss
      · cases hang
      · cases loss
    · refine ⟨kernelPower_of_reported bugcheck reports ?_, bugcheck⟩
      rintro ⟨unclean, unexpected, noKernelPower⟩
      exact other ⟨unclean, unexpected, noKernelPower, bugcheck⟩

/-- A session that ends with 6008 alone is reported as a hang. -/
theorem not_typedAsDocumented :
    let rebooted := detectBoot (oneSession [eventLog6008 1990]) 2000 2000
    ¬ TypedAsDocumented rebooted.1 rebooted.2.toTransition {} true := by
  intro rebooted documented
  have hang : reported rebooted.1 rebooted.2.toTransition {} true =
      some ⟨.hardHang, .low, none⟩ := by
    decide +kernel
  have noKernelPower :
      ¬ Holds (transitionEvents rebooted.1 rebooted.2.toTransition {}) .kernelPower := by
    decide +kernel
  exact noKernelPower (documented.hangOrLoss _ hang (.inl rfl)).1

end Diagnosis

end PcDiagnosticAgent
