import PcDiagnosticAgent.Diagnostics.Verdict

/-!
# What the findings report

A finding comes from one of three sources. Hardware, disk and display findings
come from the events around the reboot, one finding comes from the inferred
termination, and the rest compare the greatest sample around the reboot with a
threshold. Without any of them there is one placeholder.

So a type that is not the placeholder is reported exactly when its source gives
it (`mem_findingTypes`), and a threshold is reported exactly when a stored
sample of the window reaches it (`Threshold.reported_iff`).
-/

set_option autoImplicit false

namespace PcDiagnosticAgent

open EventAnalyzer

namespace Diagnosis

/-! ## Thresholds -/

/-- A column whose samples are compared with a bound, and the finding that
reports it. -/
structure Threshold where
  finding : FindingType
  table : MetricTable
  column : String
  bound : ℚ

/-- The thresholds of `_build_findings`. -/
def thresholds (config : Config) : List Threshold :=
  [⟨.thermal, .temperature, "temperature_c", config.temperatureCriticalCelsius⟩,
    ⟨.memory, .memory, "memory_percent", config.memoryWarningPercent⟩,
    ⟨.cpu, .cpu, "cpu_percent", config.cpuWarningPercent⟩]

/-- A finding that depends on the samples: one of a threshold, or the
placeholder for no finding at all. -/
def FromSamples (type : FindingType) : Prop :=
  type = .thermal ∨ type = .memory ∨ type = .cpu ∨ type = .insufficient

instance (type : FindingType) : Decidable (FromSamples type) :=
  inferInstanceAs (Decidable (_ ∨ _))

/-- Some sample stored for the given times reaches the threshold. -/
def Threshold.Reached (threshold : Threshold) (db : Database) (start stop : Epoch) : Prop :=
  ∃ row ∈ db.metrics threshold.table, start ≤ row.timestamp ∧ row.timestamp ≤ stop ∧
    ∃ value, (row.column threshold.column).number? = some value ∧ threshold.bound ≤ value

/-- A maximum reaches the bound exactly when a sample does. -/
theorem Threshold.reached_iff (threshold : Threshold) (db : Database) (start stop : Epoch) :
    (∃ value, maxOf db start stop threshold.table threshold.column = some value ∧
      threshold.bound ≤ value) ↔ threshold.Reached db start stop := by
  have greatest := OptionalMax.Greatest.max?
    (((db.metrics threshold.table).filter fun row =>
      start ≤ row.timestamp ∧ row.timestamp ≤ stop).filterMap
        fun row => (row.column threshold.column).number?)
  have sample : ∀ value, (∃ row ∈ db.metrics threshold.table, start ≤ row.timestamp ∧
      row.timestamp ≤ stop ∧ (row.column threshold.column).number? = some value) ↔
      value ∈ ((db.metrics threshold.table).filter fun row =>
        start ≤ row.timestamp ∧ row.timestamp ≤ stop).filterMap
          fun row => (row.column threshold.column).number? := by
    intro value
    simp [List.mem_filterMap, and_assoc]
  constructor
  · rintro ⟨value, isMax, reaches⟩
    rw [show List.max? _ = some value from isMax] at greatest
    obtain ⟨row, member, early, late, isValue⟩ := (sample value).mpr greatest.1
    exact ⟨row, member, early, late, value, isValue, reaches⟩
  · rintro ⟨row, member, early, late, value, isValue, reaches⟩
    have present := (sample value).mp ⟨row, member, early, late, isValue⟩
    cases answer : maxOf db start stop threshold.table threshold.column with
    | none =>
      rw [show List.max? _ = none from answer] at greatest
      have empty : {value | value ∈ ((db.metrics threshold.table).filter fun row =>
        start ≤ row.timestamp ∧ row.timestamp ≤ stop).filterMap
          fun row => (row.column threshold.column).number?} = ∅ := greatest
      exact absurd present (Set.eq_empty_iff_forall_notMem.mp empty value)
    | some best =>
      rw [show List.max? _ = some best from answer] at greatest
      exact ⟨best, rfl, le_trans reaches (greatest.2 present)⟩

/-! ## Types -/

/-- The types of the findings about events. -/
def eventFindingTypes (summary : Summary) : List FindingType :=
  (hardwareFindings summary ++ diskFindings summary ++ displayFindings summary).map Finding.type

theorem mem_countFinding {count : ℕ} {finding : Finding} {type : FindingType}
    (member : type ∈ (countFinding count finding).map Finding.type) : type = finding.type := by
  unfold countFinding at member
  split at member
  · exact List.mem_singleton.mp member
  · cases member

theorem mem_thresholdFinding {maximum : Option ℚ} {bound : ℚ} {finding : ℚ → Finding}
    {reported type : FindingType} (names : ∀ value, (finding value).type = reported) :
    type ∈ (thresholdFinding maximum bound finding).map Finding.type ↔
      type = reported ∧ ∃ value, maximum = some value ∧ bound ≤ value := by
  cases maximum with
  | none => simp [thresholdFinding]
  | some value =>
    by_cases reaches : bound ≤ value <;> simp [thresholdFinding, reaches, names]

section Samples

variable {maxima : Aggregates} {config : Config} {type : FindingType}

theorem mem_thermalFindings : type ∈ (thermalFindings maxima config).map Finding.type ↔
    type = .thermal ∧ ∃ value, maxima.maxTemperature = some value ∧
      config.temperatureCriticalCelsius ≤ value :=
  mem_thresholdFinding fun _ => rfl

theorem mem_memoryFindings : type ∈ (memoryFindings maxima config).map Finding.type ↔
    type = .memory ∧ ∃ value, maxima.maxMemoryPercent = some value ∧
      config.memoryWarningPercent ≤ value :=
  mem_thresholdFinding fun _ => rfl

theorem mem_cpuFindings : type ∈ (cpuFindings maxima config).map Finding.type ↔
    type = .cpu ∧ ∃ value, maxima.maxCpuPercent = some value ∧
      config.cpuWarningPercent ≤ value :=
  mem_thresholdFinding fun _ => rfl

end Samples

/-- The findings about events are about hardware, disks and displays. -/
theorem mem_eventFindingTypes {summary : Summary} {type : FindingType}
    (member : type ∈ eventFindingTypes summary) :
    type = .hardware ∨ type = .disk ∨ type = .gpu := by
  simp only [eventFindingTypes, List.map_append, List.mem_append] at member
  rcases member with (hardware | disk) | display
  · exact .inl (mem_countFinding hardware)
  · exact .inr (.inl (mem_countFinding disk))
  · exact .inr (.inr (mem_countFinding display))

theorem mem_terminationFindings {inference : TerminationInference} {type : FindingType}
    (member : type ∈ (terminationFindings inference).map Finding.type) :
    type = .hardHang ∨ type = .powerLoss ∨ type = .crash := by
  unfold terminationFindings at member
  split at member
  · exact .inl (List.mem_singleton.mp member)
  · split at member
    · exact .inr (.inl (List.mem_singleton.mp member))
    · split at member
      · exact .inr (.inr (List.mem_singleton.mp member))
      · cases member

/-- The order of the findings plays no part in which types are reported. -/
theorem mem_types_insertionSort {order : Finding → Finding → Prop} [DecidableRel order]
    {findings : List Finding} {type : FindingType} :
    type ∈ (findings.insertionSort order).map Finding.type ↔ type ∈ findings.map Finding.type := by
  simp only [List.mem_map, List.mem_insertionSort]

/-- **A type other than the placeholder is reported exactly when its source
gives it.** -/
theorem mem_findingTypes {summary : Summary} {aggregates : Aggregates}
    {inference : TerminationInference} {config : Config} {type : FindingType}
    (named : type ≠ .insufficient) :
    type ∈ (buildFindings summary aggregates inference config).map Finding.type ↔
      type ∈ eventFindingTypes summary ∨
        type ∈ (thermalFindings aggregates config).map Finding.type ∨
        type ∈ (memoryFindings aggregates config).map Finding.type ∨
        type ∈ (cpuFindings aggregates config).map Finding.type ∨
        type ∈ (terminationFindings inference).map Finding.type := by
  rw [buildFindings, mem_types_insertionSort]
  generalize found : hardwareFindings summary ++ diskFindings summary ++
    displayFindings summary ++ thermalFindings aggregates config ++
    memoryFindings aggregates config ++ cpuFindings aggregates config ++
    terminationFindings inference = findings
  have kept : type ∈ (if findings = [] then [insufficientFinding] else findings).map
      Finding.type ↔ type ∈ findings.map Finding.type := by
    split
    · rename_i none
      simp [none, insufficientFinding, named]
    · rfl
  rw [kept, ← found]
  simp only [eventFindingTypes, List.map_append, List.mem_append, or_assoc]

/-- Events and the termination give no finding that depends on the samples. -/
theorem notMem_otherSources {summary : Summary} {inference : TerminationInference}
    {type : FindingType} (sampled : FromSamples type) :
    type ∉ eventFindingTypes summary ∧
      type ∉ (terminationFindings inference).map Finding.type := by
  constructor
  · intro member
    rcases mem_eventFindingTypes member with rfl | rfl | rfl <;>
      exact absurd sampled (by decide)
  · intro member
    rcases mem_terminationFindings member with rfl | rfl | rfl <;>
      exact absurd sampled (by decide)

/-- The other types do not depend on the samples. -/
theorem mem_findingTypes_standing {summary : Summary} {aggregates : Aggregates}
    {inference : TerminationInference} {config : Config} {type : FindingType}
    (standing : ¬ FromSamples type) :
    type ∈ (buildFindings summary aggregates inference config).map Finding.type ↔
      type ∈ eventFindingTypes summary ∨
        type ∈ (terminationFindings inference).map Finding.type := by
  have named : type ≠ .insufficient := by
    rintro rfl
    exact standing (by decide)
  have thermal : type ∉ (thermalFindings aggregates config).map Finding.type := fun member =>
    standing (.inl (mem_thermalFindings.mp member).1)
  have memory : type ∉ (memoryFindings aggregates config).map Finding.type := fun member =>
    standing (.inr (.inl (mem_memoryFindings.mp member).1))
  have cpu : type ∉ (cpuFindings aggregates config).map Finding.type := fun member =>
    standing (.inr (.inr (.inl (mem_cpuFindings.mp member).1)))
  rw [mem_findingTypes named]
  simp only [thermal, memory, cpu, false_or]

/-- **A threshold is reported exactly when a sample of the window reaches it.** -/
theorem Threshold.reported_iff {config : Config} {threshold : Threshold}
    (member : threshold ∈ thresholds config) (summary : Summary) (db : Database)
    (start stop : Epoch) (inference : TerminationInference) :
    threshold.finding ∈
        (buildFindings summary (aggregates db start stop) inference config).map Finding.type ↔
      threshold.Reached db start stop := by
  have sampled : FromSamples threshold.finding ∧ threshold.finding ≠ .insufficient := by
    simp only [thresholds, List.mem_cons, List.not_mem_nil, or_false] at member
    rcases member with rfl | rfl | rfl <;> exact ⟨by simp [FromSamples], by simp⟩
  have sources := @notMem_otherSources summary inference threshold.finding sampled.1
  rw [← threshold.reached_iff, mem_findingTypes sampled.2]
  simp only [sources, mem_thermalFindings, mem_memoryFindings, mem_cpuFindings, false_or,
    or_false]
  simp only [thresholds, List.mem_cons, List.not_mem_nil, or_false] at member
  rcases member with rfl | rfl | rfl <;> simp [aggregates]

end Diagnosis

end PcDiagnosticAgent
