import PcDiagnosticAgent.Agent.AnyConfig
import PcDiagnosticAgent.Diagnostics.Classification
import PcDiagnosticAgent.Simulation.Runner

/-!
# What a simulation yields

For every validated configuration, whatever its values are, a simulation of a
registered scenario yields the verdict of its events and of the gap that its
streams leave before the boot (`runSimulation_shows_iff`), unless an exception
comes first.

The gap is a property of the scenario and the limits scale with the configured
interval. The hard hang leaves 300 s, five intervals of 60 s. The power loss
leaves 30 s where its own comment says five, and that is three intervals of 10 s:
with this interval the simulation reports a hang (`power_loss_becomes_hang`). The
expected outcome is yielded in every other case (`yields_expected_iff`).
-/

set_option autoImplicit false

namespace PcDiagnosticAgent

open AutoTables EventAnalyzer Scenarios ConfiguredDiagnosis

namespace Simulation

open Diagnosis (Verdict verdictOf)

/-! ## Scenarios that run -/

/-- A scenario of a reboot, all of whose events belong to the transition. -/
def Timeline (scenario : Scenario) : Prop :=
  scenario.prevBoot ≠ 0 ∧ 60 ≤ |scenario.prevBoot - scenario.boot| ∧
    (∀ event ∈ scenario.events,
      scenario.prevBoot ≤ event.timestamp ∧ event.timestamp ≤ scenario.boot + 120) ∧
    (PyFloat.finite scenario.boot).add (.finite 120) = .finite (scenario.boot + 120)

instance (scenario : Scenario) : Decidable (Timeline scenario) :=
  inferInstanceAs (Decidable (_ ∧ _ ∧ _ ∧ _))

/-- A streamed scenario of a reboot that falls silent the given time before it. -/
structure Silent (scenario : Scenario) (gap : ℚ) : Prop where
  timeline : Timeline scenario
  streamed : Streamed scenario
  last : IsGreatest {time | time ∈ scenario.heartbeats} (scenario.boot - gap)
  positive : 0 < gap

/-- The verdict of the events with the gap. -/
def ending (scenario : Scenario) (gap : ℚ) (seconds : ℕ) : Option Verdict :=
  Diagnosis.verdict (storedEvents scenario)
    (decide (Holds (storedEvents scenario) .shutdownClean)) (some gap) seconds

section Run

variable {scenario : Scenario} {gap : ℚ}

/-- The reboot that boot detection sees. -/
def Silent.reboot (silent : Silent scenario gap) :
    BootDetector.Reboot (seed .empty scenario) where
  prev := ⟨1, { bootTime := scenario.prevBoot, createdAt := scenario.prevBoot }⟩
  bootTime := scenario.boot
  latest := latestSession_seed scenario
  nonzero := silent.timeline.1
  apart := silent.timeline.2.1

/-- The transition holds the seeded events. -/
theorem Silent.holds_window_iff (silent : Silent scenario gap) (category : Category) :
    Holds silent.reboot.window category ↔ Holds (storedEvents scenario) category := by
  have same : ∀ event, event ∈ silent.reboot.window ↔ event ∈ storedEvents scenario := by
    intro event
    have stored : event ∈ silent.reboot.window ↔ _ := Database.mem_eventsBetween
    rw [stored, events_seed]
    refine ⟨And.left, fun member => ⟨member, ?_⟩⟩
    obtain ⟨logged, listed, rfl⟩ := List.mem_map.mp member
    exact silent.timeline.2.2.1 logged listed
  unfold Holds
  simp only [same]

/-- **The engine measures the gap of the scenario.** -/
theorem Silent.activityGap_eq (silent : Silent scenario gap) :
    activityGap (Diagnosis.lastMetricTimestamp (seed .empty scenario) scenario.boot)
      scenario.boot = some gap := by
  have greatest : IsGreatest
      (Diagnosis.activityTimes (seed .empty scenario) ∩ Set.Iio scenario.boot)
      (scenario.boot - gap) := by
    rw [activityTimes_seed silent.streamed]
    refine ⟨⟨silent.last.1, sub_lt_self _ silent.positive⟩, ?_⟩
    rintro time ⟨beat, -⟩
    exact silent.last.2 beat
  rw [Diagnosis.activityGap_of_greatest greatest, sub_sub_cancel]

end Run

/-! ## Values that the diagnosis can use -/

/-- No sample of a scenario lies in the configured incident window. -/
def Unsampled (scenario : Scenario) (config : RawConfig) : Prop :=
  ∀ before after, config.incidentWindowBeforeMinutes.operand = .ok before →
    config.incidentWindowAfterMinutes.operand = .ok after →
    ∀ time ∈ scenario.heartbeats,
      within ((PyFloat.finite scenario.boot).sub (before.mul (.finite 60)))
        ((PyFloat.finite scenario.boot).add (after.mul (.finite 60))) time = false

/-- The windows become floats, and the thresholds that a sample is compared with
are numbers. -/
structure Usable (scenario : Scenario) (config : RawConfig) : Prop where
  before : Succeeds config.incidentWindowBeforeMinutes.operand
  after : Succeeds config.incidentWindowAfterMinutes.operand
  memory : Unsampled scenario config ∨ config.memoryWarningPercent.number?.isSome
  cpu : Unsampled scenario config ∨ config.cpuWarningPercent.number?.isSome

section Window

variable {scenario : Scenario} {config : RawConfig} {transition : Transition}
  {windowStart windowEnd : PyFloat}

theorem incidentStart_ok_iff : incidentStart transition config = .ok windowStart ↔
    ∃ before, config.incidentWindowBeforeMinutes.operand = .ok before ∧
      (PyFloat.finite transition.bootTime).sub (before.mul (.finite 60)) = windowStart := by
  rw [incidentStart, bind_ok_iff]
  simp only [pure, Except.pure, Except.ok.injEq]

theorem incidentEnd_ok_iff : incidentEnd transition config = .ok windowEnd ↔
    ∃ after, config.incidentWindowAfterMinutes.operand = .ok after ∧
      (PyFloat.finite transition.bootTime).add (after.mul (.finite 60)) = windowEnd := by
  rw [incidentEnd, bind_ok_iff]
  simp only [pure, Except.pure, Except.ok.injEq]

/-- Once the windows are computed, there is one window to look at. -/
theorem unsampled_iff (boots : transition.bootTime = scenario.boot)
    (opened : incidentStart transition config = .ok windowStart)
    (closed : incidentEnd transition config = .ok windowEnd) :
    Unsampled scenario config ↔
      ∀ time ∈ scenario.heartbeats, within windowStart windowEnd time = false := by
  obtain ⟨before, reads, rfl⟩ := incidentStart_ok_iff.mp opened
  obtain ⟨after, ends, rfl⟩ := incidentEnd_ok_iff.mp closed
  rw [boots]
  constructor
  · intro unsampled
    exact unsampled before after reads ends
  · intro outside other later sameBefore sameAfter
    obtain rfl : before = other := Except.ok.inj (reads.symm.trans sameBefore)
    obtain rfl : after = later := Except.ok.inj (ends.symm.trans sameAfter)
    exact outside

/-- **The diagnosis of a seeded scenario can use the values exactly when no
comparison and no product raises.** -/
theorem usable_iff (streamed : Streamed scenario) (boots : transition.bootTime = scenario.boot)
    (temperature : config.temperatureCriticalCelsius.number?.isSome) :
    (∃ windowStart windowEnd, incidentStart transition config = .ok windowStart ∧
        incidentEnd transition config = .ok windowEnd ∧
        Comparable config (aggregates (seed .empty scenario) windowStart windowEnd)) ↔
      Usable scenario config := by
  constructor
  · rintro ⟨windowStart, windowEnd, opened, closed, comparable⟩
    obtain ⟨before, reads, -⟩ := incidentStart_ok_iff.mp opened
    obtain ⟨after, ends, -⟩ := incidentEnd_ok_iff.mp closed
    have unsampled := unsampled_iff boots opened closed
    refine ⟨⟨before, reads⟩, ⟨after, ends⟩, ?_, ?_⟩
    · rw [unsampled, ← maxOf_seed_eq_none_iff streamed measured_memory]
      exact comparable.memory
    · rw [unsampled, ← maxOf_seed_eq_none_iff streamed measured_cpu]
      exact comparable.cpu
  · rintro ⟨⟨before, reads⟩, ⟨after, ends⟩, memory, cpu⟩
    have opened := (@incidentStart_ok_iff config transition _).mpr ⟨before, reads, rfl⟩
    have closed := (@incidentEnd_ok_iff config transition _).mpr ⟨after, ends, rfl⟩
    rw [unsampled_iff boots opened closed] at memory cpu
    refine ⟨_, _, opened, closed, .inr temperature, ?_, ?_⟩
    · rwa [← maxOf_seed_eq_none_iff streamed measured_memory] at memory
    · rwa [← maxOf_seed_eq_none_iff streamed measured_cpu] at cpu

end Window

/-! ## The verdict of a simulation -/

/-- What boot detection leaves to the diagnosis. -/
def rebooted (scenario : Scenario) : Database × BootResult :=
  BootDetector.detectBoot (seed .empty scenario) scenario.boot scenario.boot

section Verdict

variable {scenario : Scenario} {gap : ℚ} (silent : Silent scenario gap)

include silent in
theorem Silent.transition_eq : (rebooted scenario).2.toTransition =
    ⟨scenario.boot, some scenario.prevBoot, some 1,
      some (decide (Holds (storedEvents scenario) .shutdownClean))⟩ := by
  have result : (rebooted scenario).2 = _ := silent.reboot.detectBoot_result scenario.boot
  have clean : silent.reboot.summary.cleanShutdown =
      decide (Holds (storedEvents scenario) .shutdownClean) := by
    rw [← decide_eq_decide.mpr (silent.holds_window_iff .shutdownClean)]
    exact (summarize_flags silent.reboot.window).1
  rw [result, ← clean]
  rfl

include silent in
theorem Silent.bounded :
    Bounded (rebooted scenario).2.toTransition scenario.prevBoot := by
  rw [silent.transition_eq]
  exact ⟨rfl, silent.timeline.2.2.2⟩

variable {config : RawConfig} {seconds : ℕ}

include silent in
/-- The diagnosis of the rebooted machine gives the verdict of the scenario. -/
theorem Silent.diagnose_verdict (counts : Counts config seconds)
    {result : Diagnosis.DiagnosisResult}
    (computed : diagnose (rebooted scenario).1 (rebooted scenario).2.toTransition config =
      .ok result) :
    result.incident.map verdictOf = ending scenario gap seconds := by
  have events : (rebooted scenario).1.events = (seed .empty scenario).events :=
    BootDetector.detectBoot_events ..
  have metrics : (rebooted scenario).1.metrics = (seed .empty scenario).metrics :=
    BootDetector.detectBoot_metrics ..
  have heartbeat : (rebooted scenario).1.heartbeat = (seed .empty scenario).heartbeat :=
    BootDetector.detectBoot_heartbeat ..
  have window : (rebooted scenario).1.eventsBetween scenario.prevBoot (scenario.boot + 120) =
      silent.reboot.window := Database.eventsBetween_congr events _ _
  rw [ConfiguredDiagnosis.diagnose_verdict counts silent.bounded computed, silent.transition_eq,
    deciding, window, Diagnosis.lastMetricTimestamp_congr metrics heartbeat,
    silent.activityGap_eq, Diagnosis.verdict_congr silent.holds_window_iff]
  rfl

include silent in
theorem Silent.diagnose_succeeds_iff (counts : Counts config seconds)
    (temperature : config.temperatureCriticalCelsius.number?.isSome) :
    Succeeds (diagnose (rebooted scenario).1 (rebooted scenario).2.toTransition config) ↔
      Usable scenario config := by
  have metrics : (rebooted scenario).1.metrics = (seed .empty scenario).metrics :=
    BootDetector.detectBoot_metrics ..
  have maxima : aggregates (rebooted scenario).1 = aggregates (seed .empty scenario) := by
    funext start stop
    simp only [aggregates, maxOf, metrics]
  have boots : (rebooted scenario).2.toTransition.bootTime = scenario.boot := by
    rw [silent.transition_eq]
  rw [ConfiguredDiagnosis.diagnose_succeeds_iff counts silent.bounded, maxima]
  exact usable_iff silent.streamed boots temperature

end Verdict

/-- A simulation is the diagnosis of the rebooted machine. -/
theorem runSimulation_diagnose_iff {name : String} {scenario : Scenario} {config : RawConfig}
    {shown : Option Verdict} (registered : getScenario name = .ok scenario) :
    (∃ answer, runSimulation name config = .ok answer ∧
        answer.incident.map verdictOf = shown) ↔
      ∃ result, diagnose (rebooted scenario).1 (rebooted scenario).2.toTransition config =
        .ok result ∧ result.incident.map verdictOf = shown := by
  rw [← @runDiagnosis_shows_iff _ _ _ true]
  simp only [runSimulation, registered, ok_bind, bind_ok_iff]
  constructor
  · rintro ⟨answer, ⟨diagnosed, run, same⟩, shows⟩
    obtain rfl := Except.ok.inj same
    exact ⟨diagnosed, run, shows⟩
  · rintro ⟨diagnosed, run, shows⟩
    exact ⟨_, ⟨diagnosed, run, rfl⟩, shows⟩

/-- **A simulation yields the verdict of its scenario exactly where the values
can be used.** -/
theorem runSimulation_shows_iff {name : String} {scenario : Scenario} {gap : ℚ}
    {config : RawConfig} {seconds : ℕ} {shown : Option Verdict}
    (registered : getScenario name = .ok scenario) (silent : Silent scenario gap)
    (counts : Counts config seconds)
    (temperature : config.temperatureCriticalCelsius.number?.isSome) :
    (∃ answer, runSimulation name config = .ok answer ∧
        answer.incident.map verdictOf = shown) ↔
      Usable scenario config ∧ ending scenario gap seconds = shown := by
  rw [runSimulation_diagnose_iff registered,
    ← silent.diagnose_succeeds_iff counts temperature]
  constructor
  · rintro ⟨result, computed, shows⟩
    exact ⟨⟨result, computed⟩, (silent.diagnose_verdict counts computed).symm.trans shows⟩
  · rintro ⟨⟨result, computed⟩, shows⟩
    exact ⟨result, computed, (silent.diagnose_verdict counts computed).trans shows⟩

/-! ## The registered scenarios -/

theorem mem_of_getScenario {name : String} {scenario : Scenario}
    (registered : getScenario name = .ok scenario) : (name, scenario) ∈ scenarios := by
  unfold getScenario at registered
  split at registered
  · cases registered
  · rename_i found listed
    obtain rfl : found = scenario := Except.ok.inj registered
    obtain ⟨before, after, same, -⟩ := List.lookup_eq_some_iff.mp listed
    rw [same]
    exact List.mem_append_right _ List.mem_cons_self

theorem timeline_of_mem : ∀ entry ∈ scenarios, Timeline entry.2 := by decide +kernel

/-- The streams of a scenario that ends less than a step after the given round. -/
theorem silent_of_stream {name : String} {scenario : Scenario} {stop : Epoch} {gap : ℚ}
    {count : ℕ} (registered : getScenario name = .ok scenario) (streamed : Streamed scenario)
    (heartbeats : scenario.heartbeats = heartbeatStream t0 stop)
    (reached : t0 + count * 30 ≤ stop) (last : stop < t0 + (count + 1) * 30 - 1 / 10 ^ 6)
    (ends : t0 + count * 30 = scenario.boot - gap) (positive : 0 < gap) :
    Silent scenario gap := by
  refine ⟨timeline_of_mem _ (mem_of_getScenario registered), streamed, ?_, positive⟩
  rw [heartbeats, ← ends]
  exact isGreatest_heartbeatStream reached last

/-- The hard hang ends with its last step, five minutes before the boot. -/
theorem silent_hardHang : Silent hardHang 300 := by
  refine @silent_of_stream hardHangName _ _ _ 42 rfl ⟨_, _, _, _, _, rfl, rfl⟩ rfl ?_ ?_ ?_ ?_
  all_goals norm_num [hardHang, t0]

/-- The power loss ends 25 s after its last step, which is 30 s before the
boot. -/
theorem silent_powerLoss : Silent powerLoss 30 := by
  refine @silent_of_stream powerLossName _ _ _ 41 rfl ⟨_, _, _, _, _, rfl, rfl⟩ rfl ?_ ?_ ?_ ?_
  all_goals norm_num [powerLoss, t0]

theorem silent_bsod : Silent bsod 240 := by
  refine @silent_of_stream bsodName _ _ _ 32 rfl ⟨_, _, _, _, _, rfl, rfl⟩ rfl ?_ ?_ ?_ ?_
  all_goals norm_num [bsod, t0]

theorem silent_normalRestart : Silent normalRestart 30 := by
  refine @silent_of_stream normalRestartName _ _ _ 49 rfl ⟨_, _, _, _, _, rfl, rfl⟩ rfl ?_ ?_ ?_ ?_
  all_goals norm_num [normalRestart, t0]

/-! ## Endings -/

section Ending

variable {scenario : Scenario} (gap : ℚ) (seconds : ℕ)

theorem ending_bugcheck (bugcheck : Holds (storedEvents scenario) .bugcheck) :
    ending scenario gap seconds = some ⟨.bsod, .high, none⟩ := by
  rw [ending, Diagnosis.verdict, if_pos bugcheck]

theorem ending_clean (noBugcheck : ¬ Holds (storedEvents scenario) .bugcheck)
    (clean : Holds (storedEvents scenario) .shutdownClean) :
    ending scenario gap seconds = none := by
  rw [ending, Diagnosis.verdict, if_neg noBugcheck, if_pos (decide_eq_true clean)]

/-- With Kernel-Power 41 alone the gap decides. -/
theorem ending_kernelPower (noBugcheck : ¬ Holds (storedEvents scenario) .bugcheck)
    (unclean : ¬ Holds (storedEvents scenario) .shutdownClean)
    (kernelPower : Holds (storedEvents scenario) .kernelPower) :
    ending scenario gap seconds = some (Diagnosis.gapVerdict seconds (some gap)) := by
  have flag : ¬ decide (Holds (storedEvents scenario) .shutdownClean) = true := by
    rwa [decide_eq_true_eq]
  rw [ending, Diagnosis.verdict, if_neg noBugcheck, if_neg flag, if_pos kernelPower]

end Ending

/-! ### What the seeded events count as -/

theorem categories_hardHang : (storedEvents hardHang).map classifyEvent =
    [.other, .other, .other, .kernelPower, .other, .other] := by
  decide +kernel

theorem categories_powerLoss : (storedEvents powerLoss).map classifyEvent =
    [.other, .other, .other, .kernelPower, .other, .other] := by
  decide +kernel

theorem categories_bsod : (storedEvents bsod).map classifyEvent =
    [.other, .other, .other, .bugcheck, .other, .other] := by
  decide +kernel

theorem categories_normalRestart : (storedEvents normalRestart).map classifyEvent =
    [.other, .shutdownClean, .shutdownClean, .other, .other, .other, .other, .other, .other,
      .other] := by
  decide +kernel

/-! ### The four endings -/

variable {seconds : ℕ}

/-- No allowed interval is longer than a minute. -/
theorem allowed_le : ∀ seconds ∈ allowedIntervals, seconds ≤ 60 := by decide

/-- Five minutes are five intervals, whichever is configured. -/
theorem ending_hardHang (allowed : seconds ∈ allowedIntervals) :
    ending hardHang 300 seconds = some ⟨.hardHang, .high, some 300⟩ := by
  have short : (seconds : ℚ) ≤ 60 := by exact_mod_cast allowed_le seconds allowed
  have long : (seconds : ℚ) * 5 ≤ 300 := by linarith
  rw [ending_kernelPower, Diagnosis.gapVerdict, if_pos long]
  all_goals simp [holds_iff_mem_map, categories_hardHang]

theorem ending_powerLoss (seconds : ℕ) :
    ending powerLoss 30 seconds = some (Diagnosis.gapVerdict seconds (some 30)) := by
  apply ending_kernelPower
  all_goals simp [holds_iff_mem_map, categories_powerLoss]

theorem ending_bsod (seconds : ℕ) :
    ending bsod 240 seconds = some ⟨.bsod, .high, none⟩ := by
  apply ending_bugcheck
  simp [holds_iff_mem_map, categories_bsod]

theorem ending_normalRestart (seconds : ℕ) : ending normalRestart 30 seconds = none := by
  apply ending_clean
  all_goals simp [holds_iff_mem_map, categories_normalRestart]

/-! ## Expected outcomes -/

/-- The simulation returns, and with the expected type and confidence. -/
def YieldsExpected (name : String) (config : RawConfig) : Prop :=
  ∃ answer, runSimulation name config = .ok answer ∧
    expectedOutcome name = .ok (answer.incident.map Incident.incidentType,
      answer.incident.map Incident.confidence)

/-- A verdict has the type and the confidence that a scenario expects. -/
def Agrees (scenario : Scenario) (shown : Option Verdict) : Prop :=
  scenario.expectedType = shown.map Verdict.type ∧
    scenario.expectedConfidence = shown.map Verdict.confidence

theorem yieldsExpected_iff_agrees {name : String} {scenario : Scenario} {gap : ℚ}
    {config : RawConfig} (registered : getScenario name = .ok scenario)
    (silent : Silent scenario gap) (counts : Counts config seconds)
    (temperature : config.temperatureCriticalCelsius.number?.isSome) :
    YieldsExpected name config ↔
      Usable scenario config ∧ Agrees scenario (ending scenario gap seconds) := by
  have agrees : ∀ answer : SimulationResult,
      expectedOutcome name = .ok (answer.incident.map Incident.incidentType,
        answer.incident.map Incident.confidence) ↔
      Agrees scenario (answer.incident.map verdictOf) := by
    intro answer
    have expected : expectedOutcome name =
        .ok (scenario.expectedType, scenario.expectedConfidence) := by
      rw [expectedOutcome, registered]
      rfl
    rw [expected, Agrees, Option.map_map, Option.map_map, Except.ok.injEq, Prod.mk.injEq]
    rfl
  have shows := fun shown =>
    @runSimulation_shows_iff name scenario gap config seconds shown registered silent counts
      temperature
  unfold YieldsExpected
  simp only [agrees]
  constructor
  · rintro ⟨answer, run, agree⟩
    obtain ⟨usable, same⟩ := (shows _).mp ⟨answer, run, rfl⟩
    rw [same]
    exact ⟨usable, agree⟩
  · rintro ⟨usable, agree⟩
    obtain ⟨answer, run, same⟩ := (shows _).mpr ⟨usable, rfl⟩
    rw [← same] at agree
    exact ⟨answer, run, agree⟩

/-- The power loss is expected where 30 s are less than two intervals. -/
theorem agrees_powerLoss_iff (allowed : seconds ∈ allowedIntervals) :
    Agrees powerLoss (ending powerLoss 30 seconds) ↔ seconds ≠ 10 := by
  have table : ∀ seconds ∈ allowedIntervals,
      (Diagnosis.gapVerdict seconds (some 30)).type = .powerLoss ∧
        (Diagnosis.gapVerdict seconds (some 30)).confidence = .low ↔ seconds ≠ 10 := by
    decide +kernel
  rw [ending_powerLoss, ← table seconds allowed]
  simp only [Agrees, powerLoss, Option.map_some, Option.some.injEq, eq_comm]

theorem yields_of_agrees {name : String} {scenario : Scenario} {gap : ℚ} {config : RawConfig}
    (registered : getScenario name = .ok scenario) (silent : Silent scenario gap)
    (counts : Counts config seconds)
    (temperature : config.temperatureCriticalCelsius.number?.isSome)
    (agree : Agrees scenario (ending scenario gap seconds)) (other : name ≠ powerLossName) :
    YieldsExpected name config ↔
      Usable scenario config ∧
        ¬ (name = powerLossName ∧
          config.collectionIntervalSeconds.number? = some (.finite 10)) := by
  rw [yieldsExpected_iff_agrees registered silent counts temperature]
  refine and_congr_right fun _ => iff_of_true agree ?_
  rintro ⟨same, -⟩
  exact other same

/-- **A simulation of a registered scenario yields the expected outcome exactly
when the diagnosis can use the values of the configuration and it is not the
power loss with an interval of ten seconds.** -/
theorem yields_expected_iff (python : Runtime) {raw config : RawConfig}
    (validated : raw.validated python = .ok config) {name : String} {scenario : Scenario}
    (registered : getScenario name = .ok scenario) :
    YieldsExpected name config ↔
      Usable scenario config ∧
        ¬ (name = powerLossName ∧
          config.collectionIntervalSeconds.number? = some (.finite 10)) := by
  obtain ⟨warning, critical, level, -, -, -, rfl⟩ := validated_ok_iff.mp validated
  obtain ⟨_, isNumber, seconds, allowed, rfl⟩ :=
    collectionInterval_allowed raw.collectionIntervalSeconds
  set config := raw.settled warning critical level
  have number : config.collectionIntervalSeconds.number? = some (.finite seconds) := isNumber
  have counts : Counts config seconds := Counts.of_allowed allowed number
  have temperature : config.temperatureCriticalCelsius.number?.isSome := rfl
  have cases := mem_of_getScenario registered
  simp only [scenarios, List.mem_cons, Prod.mk.injEq, List.not_mem_nil, or_false] at cases
  rcases cases with ⟨rfl, rfl⟩ | ⟨rfl, rfl⟩ | ⟨rfl, rfl⟩ | ⟨rfl, rfl⟩
  · refine yields_of_agrees registered silent_hardHang counts temperature ?_ (by decide)
    rw [ending_hardHang allowed]
    exact ⟨rfl, rfl⟩
  · rw [yieldsExpected_iff_agrees registered silent_powerLoss counts temperature,
      agrees_powerLoss_iff allowed, number]
    refine and_congr_right fun _ => not_congr ?_
    simp only [true_and, Option.some.injEq, PyFloat.finite.injEq]
    exact_mod_cast Iff.rfl
  · refine yields_of_agrees registered silent_bsod counts temperature ?_ (by decide)
    rw [ending_bsod]
    exact ⟨rfl, rfl⟩
  · refine yields_of_agrees registered silent_normalRestart counts temperature ?_ (by decide)
    rw [ending_normalRestart]
    exact ⟨rfl, rfl⟩

/-- A runtime in which nothing but numbers and texts is converted. -/
def readsNumbers : Runtime where
  floatOfText := fun _ => none
  floatOfBytes := fun _ => none
  strOf := fun _ => none
  safeLoad := fun _ => .error .yaml

/-- The defaults can be used, whatever interval comes with them. -/
theorem usable_defaults (scenario : Scenario) (interval : PyValue) :
    Usable scenario { collectionIntervalSeconds := interval } :=
  ⟨ofInt_30, ofInt_5, .inr rfl, .inr rfl⟩

/-- The power loss with the defaults. -/
theorem yields_expected_defaults : YieldsExpected powerLossName {} := by
  refine (@yields_expected_iff readsNumbers {} {} rfl powerLossName powerLoss rfl).mpr
    ⟨usable_defaults powerLoss _, ?_⟩
  rintro ⟨-, ten⟩
  have same : (30 : ℚ) = 10 := PyFloat.finite.inj (Option.some.inj ten)
  linarith

/-- The defaults with an interval of ten seconds. -/
def tenSeconds : RawConfig := { collectionIntervalSeconds := .int 10 }

/-- **With an interval of ten seconds the power loss is a hang of medium
confidence.** -/
theorem power_loss_becomes_hang :
    tenSeconds.validated readsNumbers = .ok tenSeconds ∧
      ¬ YieldsExpected powerLossName tenSeconds ∧
      ∃ answer, runSimulation powerLossName tenSeconds = .ok answer ∧
        answer.incident.map verdictOf = some ⟨.hardHang, .medium, some 30⟩ := by
  have counts : Counts tenSeconds 10 := Counts.of_allowed (by decide) rfl
  refine ⟨rfl, ?_, ?_⟩
  · rw [yieldsExpected_iff_agrees rfl silent_powerLoss counts rfl]
    rintro ⟨-, agree⟩
    exact (agrees_powerLoss_iff (by decide)).mp agree rfl
  · refine (runSimulation_shows_iff rfl silent_powerLoss counts rfl).mpr
      ⟨usable_defaults powerLoss _, ?_⟩
    rw [ending_powerLoss]
    decide +kernel

end Simulation

end PcDiagnosticAgent
