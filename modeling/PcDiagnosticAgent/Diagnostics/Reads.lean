import PcDiagnosticAgent.Diagnostics.Verdict

/-!
# What the engine takes from its reads

The engine reads two windows of events, the last activity and four maxima, and
keeps little of each. Of the transition window it keeps the signals. Of the
incident window it keeps, for each category, how many events there are and the
earliest time. Two databases that agree on these (`SameReads`) get the same
incident, the same findings in the same order and the same maxima
(`SameReads.runDiagnosis`).
-/

set_option autoImplicit false

namespace PcDiagnosticAgent

open AutoTables EventAnalyzer

namespace Diagnosis

/-! ## The incident window -/

/-- Two lists of events that have, for each category, the same number of events
and the same earliest time. -/
structure Alike (first second : List EventRow) : Prop where
  counts : (summarize first).counts = (summarize second).counts
  earliest : ∀ category, firstTs ((tally first).byCategory category) =
    firstTs ((tally second).byCategory category)

namespace Alike

variable {first second : List EventRow}

theorem refl (events : List EventRow) : Alike events events := ⟨rfl, fun _ => rfl⟩

theorem of_eq (same : first = second) : Alike first second := same ▸ refl first

theorem count (alike : Alike first second) (category : Category) :
    (tally first).counts category = (tally second).counts category :=
  congrFun alike.counts category

theorem buildFindings (alike : Alike first second) (aggregates : Aggregates)
    (inference : TerminationInference) (config : Config) :
    buildFindings (summarize first) aggregates inference config =
      buildFindings (summarize second) aggregates inference config := by
  have hardware : hardwareFindings (summarize first) = hardwareFindings (summarize second) := by
    have count : (summarize first).wheaCount = (summarize second).wheaCount := alike.count .whea
    have earliest : firstTs (summarize first).wheaEvents = firstTs (summarize second).wheaEvents :=
      alike.earliest .whea
    rw [hardwareFindings, hardwareFindings, count, earliest]
  have disk : diskFindings (summarize first) = diskFindings (summarize second) := by
    have count : (summarize first).diskErrorCount = (summarize second).diskErrorCount :=
      alike.count .disk
    have earliest : firstTs (summarize first).diskEvents = firstTs (summarize second).diskEvents :=
      alike.earliest .disk
    rw [diskFindings, diskFindings, count, earliest]
  have display : displayFindings (summarize first) = displayFindings (summarize second) := by
    have count : (summarize first).displayErrorCount = (summarize second).displayErrorCount :=
      alike.count .display
    have earliest :
        firstTs (summarize first).displayEvents = firstTs (summarize second).displayEvents :=
      alike.earliest .display
    rw [displayFindings, displayFindings, count, earliest]
  unfold Diagnosis.buildFindings
  rw [hardware, disk, display]

theorem evidence (alike : Alike first second) (aggregates : Aggregates)
    (inference : TerminationInference) (crash : CrashSignals) :
    evidence (summarize first) aggregates inference crash =
      evidence (summarize second) aggregates inference crash := by
  have whea : (summarize first).wheaCount = (summarize second).wheaCount := alike.count .whea
  have disk : (summarize first).diskErrorCount = (summarize second).diskErrorCount :=
    alike.count .disk
  have display : (summarize first).displayErrorCount = (summarize second).displayErrorCount :=
    alike.count .display
  rw [Diagnosis.evidence, Diagnosis.evidence, whea, disk, display]

end Alike

/-! ## All reads -/

/-- The reads of a diagnosis agree as far as the engine keeps them. -/
structure SameReads (db other : Database) (transition : Transition) (config : Config) :
    Prop where
  signals : crashSignals db transition config = crashSignals other transition config
  around : Alike (incidentEvents db transition config) (incidentEvents other transition config)
  last : lastMetricTimestamp db transition.bootTime =
    lastMetricTimestamp other transition.bootTime
  maxima : aggregates db (transition.bootTime - config.incidentWindowBeforeMinutes * 60)
      (transition.bootTime + config.incidentWindowAfterMinutes * 60) =
    aggregates other (transition.bootTime - config.incidentWindowBeforeMinutes * 60)
      (transition.bootTime + config.incidentWindowAfterMinutes * 60)

/-- Two results that give one account: only the lists of events behind the
counts may differ. -/
structure SameResult (first second : DiagnosisResult) : Prop where
  incident : first.incident = second.incident
  findings : first.findings = second.findings
  counts : first.summary.map Summary.counts = second.summary.map Summary.counts
  aggregates : first.aggregates = second.aggregates
  inference : first.inference = second.inference

namespace SameReads

variable {db other : Database} {transition : Transition} {config : Config}

theorem diagnose (reads : SameReads db other transition config) :
    SameResult (diagnose db transition config) (diagnose other transition config) := by
  obtain ⟨signals, around, last, maxima⟩ := reads
  unfold Diagnosis.diagnose
  simp only [signals, last, maxima, around.buildFindings, around.evidence]
  split
  · exact ⟨rfl, rfl, congrArg some around.counts, rfl, rfl⟩
  · exact ⟨rfl, rfl, congrArg some around.counts, rfl, rfl⟩

/-- **Databases that agree on the reads and on the incidents get the same
account, and the same rows are stored.** -/
theorem runDiagnosis (reads : SameReads db other transition config)
    (incidents : db.incidents = other.incidents) (findings : db.findings = other.findings)
    (persist : Bool) :
    let first := runDiagnosis db transition config persist
    let second := runDiagnosis other transition config persist
    SameResult first.2 second.2 ∧ first.1.incidents = second.1.incidents ∧
      first.1.findings = second.1.findings := by
  obtain ⟨sameIncident, sameFindings, counts, maxima, inference⟩ := reads.diagnose
  have exists_eq : incidentExists db transition.previousSessionId transition.bootTime =
      incidentExists other transition.previousSessionId transition.bootTime := by
    simp only [incidentExists, incidents]
  unfold Diagnosis.runDiagnosis
  simp only [sameIncident, exists_eq]
  split
  · exact ⟨⟨sameIncident, sameFindings, counts, maxima, inference⟩, incidents, findings⟩
  · split
    · simp only [Database.createIncident, incidents, findings, sameFindings, and_self, and_true]
      exact ⟨rfl, rfl, counts, maxima, inference⟩
    · exact ⟨⟨sameIncident, sameFindings, counts, maxima, inference⟩, incidents, findings⟩

end SameReads

end Diagnosis

end PcDiagnosticAgent
