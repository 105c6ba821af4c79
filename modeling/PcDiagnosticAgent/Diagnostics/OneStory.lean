import PcDiagnosticAgent.Diagnostics.Findings

/-!
# One story

The type of an incident is chosen from the signals first, its findings from the
inferred termination first. The two orders differ in one place: a BugCheck
outranks a clean shutdown for the incident, and the clean shutdown outranks the
BugCheck for the inference.

Everywhere else the incident, its findings and the inference tell one story
(`OneStory`), and there they never do (`one_story_iff`).
-/

set_option autoImplicit false

namespace PcDiagnosticAgent

open EventAnalyzer

namespace Diagnosis

/-! ## The story -/

/-- The finding types that name how a session ended. -/
def NamesTermination (type : FindingType) : Prop :=
  type = .hardHang ∨ type = .powerLoss ∨ type = .crash

instance (type : FindingType) : Decidable (NamesTermination type) :=
  inferInstanceAs (Decidable (_ ∨ _))

/-- The confidences of the findings of one type. -/
def confidences (findings : List Finding) (type : FindingType) : List Level :=
  (findings.filter (·.type = type)).map Finding.confidence

/-- The findings and the inference that go with an incident say what the
incident says. -/
structure OneStory (incident : Incident) (findings : List Finding)
    (inference : Option TerminationInference) : Prop where
  hang : incident.incidentType = .hardHang →
    confidences findings .hardHang = [incident.confidence]
  loss : incident.incidentType = .powerLoss →
    confidences findings .powerLoss = [incident.confidence]
  crash : incident.incidentType = .bsod → (confidences findings .crash).length = 1
  onlyHang : .hardHang ∈ findings.map Finding.type → incident.incidentType = .hardHang
  onlyLoss : .powerLoss ∈ findings.map Finding.type → incident.incidentType = .powerLoss
  onlyCrash : .crash ∈ findings.map Finding.type → incident.incidentType = .bsod
  grounded : incident.confidence = .high → .insufficient ∉ findings.map Finding.type
  abnormal : ∀ inferred, inference = some inferred → inferred.probableNormalShutdown = false

/-! ## The findings about the termination -/

section Findings

variable (summary : Summary) (aggregates : Aggregates) (config : Config)
  {inference : TerminationInference} {type : FindingType}

/-- The findings that do not come from the inference. -/
def observed : List Finding :=
  hardwareFindings summary ++ diskFindings summary ++ displayFindings summary ++
    thermalFindings aggregates config ++ memoryFindings aggregates config ++
    cpuFindings aggregates config

theorem notMem_observed (other : NamesTermination type ∨ type = .insufficient) :
    type ∉ (observed summary aggregates config).map Finding.type := by
  intro member
  rw [observed] at member
  simp only [List.map_append, List.mem_append] at member
  rcases member with (((events | thermal) | memory) | cpu)
  · have fromEvents : type ∈ eventFindingTypes summary := by
      simpa only [eventFindingTypes, List.map_append, List.mem_append] using events
    rcases mem_eventFindingTypes fromEvents with rfl | rfl | rfl <;>
      exact absurd other (by decide)
  · rw [(mem_thermalFindings.mp thermal).1] at other
    exact absurd other (by decide)
  · rw [(mem_memoryFindings.mp memory).1] at other
    exact absurd other (by decide)
  · rw [(mem_cpuFindings.mp cpu).1] at other
    exact absurd other (by decide)

variable (found : terminationFindings inference ≠ [])

include found

/-- With a finding of the inference, the findings are the observed ones and that
one, in another order. -/
theorem buildFindings_perm : (buildFindings summary aggregates inference config).Perm
    (observed summary aggregates config ++ terminationFindings inference) := by
  have some : observed summary aggregates config ++ terminationFindings inference ≠ [] :=
    List.append_ne_nil_of_right_ne_nil _ found
  have sorted := List.perm_insertionSort (fun first second : Finding =>
    severityRank second.severity ≤ severityRank first.severity)
      (observed summary aggregates config ++ terminationFindings inference)
  rw [buildFindings]
  simp only [observed] at some sorted ⊢
  rw [if_neg some]
  exact sorted

/-- The types of the inference and the placeholder are those of the inference
only. -/
theorem mem_types_buildFindings (other : NamesTermination type ∨ type = .insufficient) :
    type ∈ (buildFindings summary aggregates inference config).map Finding.type ↔
      type ∈ (terminationFindings inference).map Finding.type := by
  rw [((buildFindings_perm summary aggregates config found).map Finding.type).mem_iff,
    List.map_append, List.mem_append,
    or_iff_right (notMem_observed summary aggregates config other)]

theorem confidences_buildFindings (names : NamesTermination type) :
    (confidences (buildFindings summary aggregates inference config) type).Perm
      (confidences (terminationFindings inference) type) := by
  have none : (observed summary aggregates config).filter (·.type = type) = [] := by
    refine List.filter_eq_nil_iff.mpr fun finding member same => ?_
    have typed : finding.type = type := of_decide_eq_true same
    exact notMem_observed summary aggregates config (.inl names)
      (List.mem_map.mpr ⟨finding, member, typed⟩)
  have kept := ((buildFindings_perm summary aggregates config found).filter
    (·.type = type)).map Finding.confidence
  rw [List.filter_append, none, List.nil_append] at kept
  exact kept

end Findings

/-! ## The three endings -/

/-- The inference of an incident whose session was not marked clean: a crash, a
hang or a power loss. -/
inductive Ending (crash : CrashSignals) : TerminationInference → Prop where
  | crash (bugcheck : crash.bugcheckDetected = true) :
    Ending crash { probableCrash := true, confidence := .high }
  | hang (noBugcheck : crash.bugcheckDetected = false) (confidence : Level) (gap : Option ℚ) :
    Ending crash { probableHardHang := true, confidence, hangGapSeconds := gap }
  | loss (noBugcheck : crash.bugcheckDetected = false) (confidence : Level) (gap : Option ℚ) :
    Ending crash { probablePowerLoss := true, confidence, hangGapSeconds := gap }

theorem ending_of_unclean {crash : CrashSignals} (unclean : crash.cleanShutdown = false)
    (incident : (crash.unexpectedShutdown || crash.bugcheckDetected) = true)
    (last : Option Epoch) (reboot : Epoch) (interval : ℕ) :
    Ending crash (inferTermination crash last reboot interval) := by
  cases bugcheck : crash.bugcheckDetected with
  | true =>
    have inferred : inferTermination crash last reboot interval =
        { probableCrash := true, confidence := .high } := by
      simp [inferTermination, unclean, bugcheck]
    rw [inferred]
    exact .crash bugcheck
  | false =>
    rw [bugcheck, Bool.or_false] at incident
    cases kernelPower : crash.kernelPowerDetected with
    | true =>
      rw [inferTermination_kernelPower last reboot interval unclean bugcheck incident kernelPower]
      split
      · exact .hang bugcheck _ none
      · split
        · exact .hang bugcheck _ _
        · split
          · exact .hang bugcheck _ _
          · exact .loss bugcheck _ _
    | false =>
      rw [inferTermination_unexpectedOnly last reboot interval unclean bugcheck incident
        kernelPower]
      exact .hang bugcheck _ _

/-- Each ending has one finding, which agrees with the incident. -/
theorem Ending.oneStory {crash : CrashSignals} {inference : TerminationInference}
    (ending : Ending crash inference) (summary : Summary) (maxima : Aggregates) (config : Config)
    {incident : Incident} (type : incident.incidentType = incidentType inference crash)
    (confidence : incident.confidence = incidentConfidence inference crash
      (buildFindings summary maxima inference config)) :
    OneStory incident (buildFindings summary maxima inference config) (some inference) := by
  have found : terminationFindings inference ≠ [] := by
    cases ending <;> simp [terminationFindings]
  have single : ∀ {named level}, NamesTermination named →
      confidences (terminationFindings inference) named = [level] →
      confidences (buildFindings summary maxima inference config) named = [level] := by
    intro named level names one
    have perm := confidences_buildFindings summary maxima config found names
    rw [one] at perm
    exact List.perm_singleton.mp perm
  have types : ∀ named, NamesTermination named ∨ named = .insufficient →
      (named ∈ (buildFindings summary maxima inference config).map Finding.type ↔
        named ∈ (terminationFindings inference).map Finding.type) :=
    fun named other => mem_types_buildFindings summary maxima config found other
  have hangs := types .hardHang (.inl (by decide))
  have losses := types .powerLoss (.inl (by decide))
  have crashes := types .crash (.inl (by decide))
  have grounded : FindingType.insufficient ∉
      (buildFindings summary maxima inference config).map Finding.type := by
    rw [types .insufficient (.inr rfl)]
    intro member
    exact absurd (mem_terminationFindings member) (by decide)
  rw [incidentConfidence] at confidence
  rw [incidentType] at type
  cases ending with
  | crash bugcheck =>
    rw [if_pos bugcheck] at type confidence
    refine ⟨by simp [type], by simp [type], fun _ => ?_, ?_, ?_, fun _ => type,
      fun _ => grounded, fun inferred same => ?_⟩
    · exact congrArg List.length (single (by decide) rfl)
    · rw [hangs]
      simp [terminationFindings]
    · rw [losses]
      simp [terminationFindings]
    · rw [← Option.some.inj same]
  | hang noBugcheck level gap =>
    rw [noBugcheck] at type confidence
    have typed : incident.incidentType = .hardHang := type
    have graded : incident.confidence = level := confidence
    refine ⟨fun _ => ?_, by simp [typed], by simp [typed], fun _ => typed, ?_, ?_,
      fun _ => grounded, fun inferred same => ?_⟩
    · rw [graded]
      exact single (by decide) rfl
    · rw [losses]
      simp [terminationFindings]
    · rw [crashes]
      simp [terminationFindings]
    · rw [← Option.some.inj same]
  | loss noBugcheck level gap =>
    rw [noBugcheck] at type confidence
    have typed : incident.incidentType = .powerLoss := type
    have graded : incident.confidence = level := confidence
    refine ⟨by simp [typed], fun _ => ?_, by simp [typed], ?_, fun _ => typed, ?_,
      fun _ => grounded, fun inferred same => ?_⟩
    · rw [graded]
      exact single (by decide) rfl
    · rw [hangs]
      simp [terminationFindings]
    · rw [crashes]
      simp [terminationFindings]
    · rw [← Option.some.inj same]

/-! ## The result -/

/-- A session that was marked clean gets an incident for a BugCheck only, and an
inference that says it ended normally. -/
theorem diagnose_clean {db : Database} {transition : Transition} {config : Config}
    (clean : transition.previousSessionClean = some true)
    (bugcheck : Holds (transitionEvents db transition config) .bugcheck) :
    (diagnose db transition config).incident.isSome ∧
      (diagnose db transition config).inference =
        some { probableNormalShutdown := true, confidence := .high } := by
  simp only [diagnose, crashSignals_eq, clean, bugcheck]
  exact ⟨rfl, rfl⟩

theorem diagnose_unclean {db : Database} {transition : Transition} {config : Config}
    (one : ¬ (transition.previousSessionClean = some true ∧
      Holds (transitionEvents db transition config) .bugcheck)) {incident : Incident}
    (found : (diagnose db transition config).incident = some incident) :
    OneStory incident (diagnose db transition config).findings
      (diagnose db transition config).inference := by
  have reported := (diagnose_isSome_iff db transition config).mp (found ▸ rfl)
  have unclean : (crashSignals db transition config).cleanShutdown = false := by
    rw [crashSignals_eq, ← Bool.not_eq_true, getD_false_iff]
    intro clean
    rcases reported with bugcheck | ⟨marked, -⟩
    · exact one ⟨clean, bugcheck⟩
    · exact marked clean
  simp only [diagnose] at found ⊢
  split at found
  · rename_i incidental
    rw [if_pos incidental]
    have ending := ending_of_unclean unclean incidental
      (lastMetricTimestamp db transition.bootTime) transition.bootTime
      config.collectionIntervalSeconds
    refine ending.oneStory _ _ config ?_ ?_
    · rw [← Option.some.inj found]
    · rw [← Option.some.inj found]
  · cases found

/-- **The incident, the findings and the inference tell one story exactly when
the session was not marked clean in spite of a BugCheck.** -/
theorem one_story_iff (db : Database) (transition : Transition) (config : Config)
    (persist : Bool) :
    let result := (runDiagnosis db transition config persist).2
    (∀ incident, result.incident = some incident →
        OneStory incident result.findings result.inference) ↔
      ¬ (transition.previousSessionClean = some true ∧
        Holds (transitionEvents db transition config) .bugcheck) := by
  intro result
  have same : result.withoutId = diagnose db transition config := runDiagnosis_withoutId ..
  have findings : result.withoutId.findings = (diagnose db transition config).findings :=
    congrArg DiagnosisResult.findings same
  have inference : result.withoutId.inference = (diagnose db transition config).inference :=
    congrArg DiagnosisResult.inference same
  have incidents : result.incident.map ({ · with incidentId := none }) =
      (diagnose db transition config).incident := congrArg DiagnosisResult.incident same
  rw [show result.findings = _ from findings, show result.inference = _ from inference]
  constructor
  · rintro story ⟨clean, bugcheck⟩
    obtain ⟨reported, inferred⟩ := diagnose_clean clean bugcheck
    rw [← incidents, Option.isSome_map] at reported
    obtain ⟨incident, found⟩ := Option.isSome_iff_exists.mp reported
    have abnormal := (story incident found).abnormal _ inferred
    cases abnormal
  · intro one incident found
    rw [found] at incidents
    obtain ⟨hang, loss, crash, onlyHang, onlyLoss, onlyCrash, grounded, abnormal⟩ :=
      diagnose_unclean one incidents.symm
    exact ⟨hang, loss, crash, onlyHang, onlyLoss, onlyCrash, grounded, abnormal⟩

/-- A crash while Windows was shutting down: a blue screen of high confidence,
no evidence for any cause, and a normal shutdown. -/
theorem clean_bugcheck_two_stories :
    let booted := BootDetector.detectBoot
      (BootDetector.oneSession [eventLog6006 1500, bugcheck1001 2000]) 2000 2000
    let result := (runDiagnosis booted.1 booted.2.toTransition {} true).2
    result.incident.map verdictOf = some ⟨.bsod, .high, none⟩ ∧
      result.findings.map Finding.type = [.insufficient] ∧
      result.inference = some { probableNormalShutdown := true, confidence := .high } ∧
      ¬ ∀ incident, result.incident = some incident →
        OneStory incident result.findings result.inference := by
  intro booted result
  have inferred : result.inference = some { probableNormalShutdown := true, confidence := .high } :=
    by decide +kernel
  have reported : result.incident.isSome := by decide +kernel
  refine ⟨by decide +kernel, by decide +kernel, inferred, fun story => ?_⟩
  obtain ⟨incident, found⟩ := Option.isSome_iff_exists.mp reported
  have abnormal := (story incident found).abnormal _ inferred
  cases abnormal

end Diagnosis

end PcDiagnosticAgent
