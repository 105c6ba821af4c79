import PcDiagnosticAgent.Agent.Scheduler
import PcDiagnosticAgent.Agent.ServiceRestart

/-!
# Evidence that arrives after the analysis

A boot is analysed when the service starts and again at each restart. The first
analysis that warrants an incident stores it, and every later one finds it
stored. Records of the event log that are read in between are never analysed.

So what is stored is decided by one analysis, from the evidence it was handed
and with the clean flag it knew; at a restart that flag is unknown. The stored
outcome is the one of the complete evidence exactly when this analysis already
saw what decides (`complete_evidence_stored_iff`).
-/

set_option autoImplicit false

namespace PcDiagnosticAgent

open AutoTables EventAnalyzer BootDetector Diagnosis WindowsEvents

namespace Agent

/-! ## Analyses -/

/-- What a diagnosis is handed. -/
structure Handed where
  seen : Database
  transition : Transition

/-- What a start hands to the diagnosis. -/
def handed (db : Database) (inputs : StartInputs) : Handed :=
  let (booted, boot) := detectBoot db inputs.now inputs.bootTime
  { seen := collect booted "System" inputs.log boot.sessionId, transition := boot.toTransition }

/-- What the restarts among the steps hand to the diagnosis. -/
def restartAnalyses (config : Config) : Service → List SessionStep → List Handed
  | _, [] => []
  | service, .restart inputs :: steps =>
    handed service.database inputs ::
      restartAnalyses config (service.step config (.restart inputs)) steps
  | service, .collectHigh answers now :: steps =>
    restartAnalyses config (service.step config (.collectHigh answers now)) steps
  | service, .collectLow answers now :: steps =>
    restartAnalyses config (service.step config (.collectLow answers now)) steps

namespace Handed

variable (config : Config) (analysis : Handed)

/-- The events of the window of the transition. -/
def events : List EventRow := transitionEvents analysis.seen analysis.transition config

/-- The previous session is known to have ended cleanly. -/
def clean : Bool := analysis.transition.previousSessionClean.getD false

/-- The last activity is less than two intervals before the boot. -/
def short : Bool :=
  shortGap config.collectionIntervalSeconds
    (activityGap (lastMetricTimestamp analysis.seen analysis.transition.bootTime)
      analysis.transition.bootTime)

/-- A BugCheck, or Kernel-Power 41 or 6008 after a session that is not known to
have ended cleanly. -/
def Warranted : Prop :=
  Holds (analysis.events config) .bugcheck ∨
    analysis.clean = false ∧
      (Holds (analysis.events config) .kernelPower ∨
        Holds (analysis.events config) .shutdownUnexpected)

instance : Decidable (analysis.Warranted config) := inferInstanceAs (Decidable (_ ∨ _))

/-- Kernel-Power 41 with activity until just before the boot. -/
def PowerLost : Prop :=
  Holds (analysis.events config) .kernelPower ∧ analysis.short config = true

instance : Decidable (analysis.PowerLost config) := inferInstanceAs (Decidable (_ ∧ _))

/-- The analysis warrants an incident and finds none stored. -/
def Decides : Prop :=
  analysis.Warranted config ∧
    incidentExists analysis.seen analysis.transition.previousSessionId
      analysis.transition.bootTime = false

instance : Decidable (analysis.Decides config) := inferInstanceAs (Decidable (_ ∧ _))

/-- The analysis saw what decides the complete evidence: the BugCheck, when
there is one; otherwise the session is not known to have ended cleanly, and a
power loss shows in both or in neither. -/
structure Anticipates (complete : Handed) : Prop where
  bugcheck : Holds (complete.events config) .bugcheck → Holds (analysis.events config) .bugcheck
  unclean : ¬ Holds (complete.events config) .bugcheck → complete.clean = false
  powerLost : ¬ Holds (complete.events config) .bugcheck →
    (analysis.PowerLost config ↔ complete.PowerLost config)

instance (complete : Handed) : Decidable (analysis.Anticipates config complete) :=
  decidable_of_iff (_ ∧ _ ∧ _)
    ⟨fun ⟨bugcheck, unclean, powerLost⟩ => ⟨bugcheck, unclean, powerLost⟩,
      fun anticipates => ⟨anticipates.bugcheck, anticipates.unclean, anticipates.powerLost⟩⟩

/-! ## Types -/

/-- The type of the incident that the analysis warrants. -/
def type : Option IncidentType :=
  verdictType (analysis.events config) analysis.clean (analysis.short config)

theorem diagnose_type_eq :
    (diagnose analysis.seen analysis.transition config).incident.map Incident.incidentType =
      analysis.type config :=
  diagnose_type ..

/-- There is a type exactly when an incident is warranted. -/
theorem type_isSome_iff : (analysis.type config).isSome ↔ analysis.Warranted config := by
  unfold type verdictType Warranted
  cases analysis.clean <;> split_ifs <;> simp_all

end Handed

/-- Without a BugCheck and a clean flag, Kernel-Power 41 with a short gap is a
power loss and everything else a hang. -/
theorem verdictType_unclean {events : List EventRow} {short : Bool}
    (noBugcheck : ¬ Holds events .bugcheck)
    (crashes : Holds events .kernelPower ∨ Holds events .shutdownUnexpected) :
    verdictType events false short =
      some (if Holds events .kernelPower ∧ short = true then .powerLoss else .hardHang) := by
  by_cases kernelPower : Holds events .kernelPower
  · simp [verdictType, noBugcheck, kernelPower]
  · simp [verdictType, noBugcheck, kernelPower, crashes.resolve_left kernelPower]

/-- **An analysis of part of the evidence that warrants an incident gives the
type of the complete evidence exactly when it saw what decides.** -/
theorem Handed.type_eq_iff {config : Config} {analysis complete : Handed}
    (warranted : analysis.Warranted config)
    (part : ∀ category, Holds (analysis.events config) category →
      Holds (complete.events config) category) :
    analysis.type config = complete.type config ↔ analysis.Anticipates config complete := by
  by_cases bugcheck : Holds (complete.events config) .bugcheck
  · have bsod : complete.type config = some .bsod := if_pos bugcheck
    rw [bsod]
    constructor
    · intro same
      refine ⟨fun _ => ?_, fun none => absurd bugcheck none, fun none => absurd bugcheck none⟩
      by_contra unseen
      have unclean := (warranted.resolve_left unseen).1
      rw [Handed.type, unclean, verdictType_unclean unseen (warranted.resolve_left unseen).2]
        at same
      split at same <;> cases same
    · exact fun anticipates => if_pos (anticipates.bugcheck bugcheck)
  · have unseen : ¬ Holds (analysis.events config) .bugcheck := fun seen => bugcheck (part _ seen)
    obtain ⟨unclean, crashes⟩ := warranted.resolve_left unseen
    have stored : analysis.type config =
        some (if analysis.PowerLost config then .powerLoss else .hardHang) := by
      rw [Handed.type, unclean]
      exact verdictType_unclean unseen crashes
    have later : Holds (complete.events config) .kernelPower ∨
        Holds (complete.events config) .shutdownUnexpected := crashes.imp (part _) (part _)
    rw [stored]
    cases clean : complete.clean with
    | true =>
      have nothing : complete.type config = none := by
        rw [Handed.type, clean, verdictType, if_neg bugcheck, if_pos rfl]
      rw [nothing]
      refine iff_of_false (by simp) fun anticipates => ?_
      rw [anticipates.unclean bugcheck] at clean
      cases clean
    | false =>
      have completed : complete.type config =
          some (if complete.PowerLost config then .powerLoss else .hardHang) := by
        rw [Handed.type, clean]
        exact verdictType_unclean bugcheck later
      rw [completed]
      constructor
      · intro same
        refine ⟨fun seen => absurd seen bugcheck, fun _ => clean, fun _ => ?_⟩
        by_cases first : analysis.PowerLost config <;>
          by_cases second : complete.PowerLost config <;> simp_all
      · intro anticipates
        rw [if_congr (anticipates.powerLost bugcheck) rfl rfl]

/-! ## What an analysis stores -/

def storedTypes (db : Database) : List (Option IncidentType) :=
  db.incidents.rows.map IncidentRow.incidentType

theorem handed_bootTime (db : Database) (inputs : StartInputs) :
    (handed db inputs).transition.bootTime = inputs.bootTime :=
  detectBoot_bootTime db inputs.now inputs.bootTime

theorem handed_incidents (db : Database) (inputs : StartInputs) :
    (handed db inputs).seen.incidents = db.incidents :=
  (collect_incidents ..).trans (detectBoot_incidents ..)

/-- A start is the diagnosis of what it hands over. -/
theorem startService_database (config : Config) (db : Database) (inputs : StartInputs) :
    (startService config db inputs).database =
      (runDiagnosis (handed db inputs).seen (handed db inputs).transition config true).1 := rfl

/-- Whether an incident is stored depends on the stored incidents and the boot
time only. -/
theorem incidentExists_congr {db other : Database} (same : db.incidents = other.incidents)
    (previous another : Option ℕ) (bootTime : Epoch) :
    incidentExists db previous bootTime = incidentExists other another bootTime := by
  simp only [incidentExists, same]

/-- A start stores one incident when its analysis decides and none otherwise. -/
theorem storedTypes_start (config : Config) (db : Database) (inputs : StartInputs) :
    storedTypes (startService config db inputs).database =
      storedTypes db ++ if (handed db inputs).Decides config
        then [(handed db inputs).type config] else [] := by
  have stored := runDiagnosis_storedTypes (handed db inputs).seen (handed db inputs).transition
    config
  rw [Handed.diagnose_type_eq, handed_incidents] at stored
  rw [storedTypes, startService_database, stored, storedTypes]
  refine congrArg _ ?_
  have warranted := (handed db inputs).type_isSome_iff config
  by_cases recorded : incidentExists (handed db inputs).seen
      (handed db inputs).transition.previousSessionId (handed db inputs).transition.bootTime
  · simp [Handed.Decides, recorded]
  · cases typed : (handed db inputs).type config with
    | none => simp_all [Handed.Decides]
    | some type => simp_all [Handed.Decides]

/-- After an analysis that decides, the incident of the boot is stored. -/
theorem incidentExists_start {config : Config} {db : Database} {inputs : StartInputs}
    (decides : (handed db inputs).Decides config) (previous : Option ℕ) :
    incidentExists (startService config db inputs).database previous inputs.bootTime = true := by
  have typed := ((handed db inputs).type_isSome_iff config).mpr decides.1
  rw [← Handed.diagnose_type_eq, Option.isSome_map] at typed
  obtain ⟨incident, found⟩ := Option.isSome_iff_exists.mp typed
  have reboot : incident.rebootTimestamp = inputs.bootTime := by
    rw [← handed_bootTime db inputs]
    simp only [diagnose] at found
    split at found
    · rw [← Option.some.inj found]
    · cases found
  rw [incidentExists, startService_database, runDiagnosis_incidents, found]
  simp [decides.2, Database.incidentRow, reboot]

/-! ## Steps within a boot -/

/-- Every restart reads the given boot time. -/
def SessionStep.WithinBoot (bootTime : Epoch) : SessionStep → Prop
  | .restart inputs => inputs.bootTime = bootTime
  | _ => True

section Steps

variable (config : Config) (service : Service)

@[simp] theorem Service.run_nil : service.run config [] = service := rfl

@[simp] theorem Service.run_cons (step : SessionStep) (steps : List SessionStep) :
    service.run config (step :: steps) = (service.step config step).run config steps := rfl

theorem Service.step_restart (inputs : StartInputs) :
    service.step config (.restart inputs) = startService config service.database inputs := rfl

theorem cycle_incidents {step : SessionStep} (cycle : step.IsCycle) :
    (service.step config step).database.incidents = service.database.incidents := by
  obtain ⟨ops, background, same⟩ := service.step_cycle config cycle
  rw [same, applyAll_incidents _ background]

theorem restartAnalyses_cycle {step : SessionStep} (cycle : step.IsCycle)
    (steps : List SessionStep) :
    restartAnalyses config service (step :: steps) =
      restartAnalyses config (service.step config step) steps := by
  cases step with
  | collectHigh answers now => rfl
  | collectLow answers now => rfl
  | restart inputs => exact cycle.elim

theorem storedTypes_congr {db other : Database} (same : db.incidents = other.incidents) :
    storedTypes db = storedTypes other := by
  simp only [storedTypes, same]

/-- A start keeps the incidents that are stored. -/
theorem incidentExists_kept {db : Database} {inputs : StartInputs} {previous : Option ℕ}
    {bootTime : Epoch} (recorded : incidentExists db previous bootTime = true) :
    incidentExists (startService config db inputs).database previous bootTime = true := by
  rw [← incidentExists_congr (handed_incidents db inputs) previous] at recorded
  rw [incidentExists, startService_database, runDiagnosis_incidents]
  split
  · exact recorded
  · split
    · rw [AutoTable.rows_insert, List.any_append]
      exact Bool.or_eq_true_iff.mpr (.inl recorded)
    · exact recorded

/-- Once the incident of the boot is stored, nothing more is. -/
theorem storedTypes_recorded {bootTime : Epoch} {steps : List SessionStep}
    (within : ∀ step ∈ steps, step.WithinBoot bootTime)
    (recorded : incidentExists service.database none bootTime = true) :
    storedTypes (service.run config steps).database = storedTypes service.database := by
  induction steps generalizing service with
  | nil => rfl
  | cons step steps ih =>
    have rest : ∀ later ∈ steps, later.WithinBoot bootTime :=
      fun later member => within later (List.mem_cons_of_mem _ member)
    rw [Service.run_cons]
    rcases step.isCycle_or_restart with cycle | ⟨inputs, rfl⟩
    · have same := cycle_incidents config service cycle
      rw [ih _ rest ((incidentExists_congr same _ _ _).trans recorded), storedTypes_congr same]
    · have boots : inputs.bootTime = bootTime := within _ List.mem_cons_self
      have known : ¬ (handed service.database inputs).Decides config := by
        rintro ⟨-, absent⟩
        rw [handed_bootTime, boots, incidentExists_congr (handed_incidents ..) _ none,
          recorded] at absent
        cases absent
      have stored := storedTypes_start config service.database inputs
      rw [if_neg known, List.append_nil] at stored
      rw [Service.step_restart, ih _ rest (incidentExists_kept config recorded), stored]

/-- **The first analysis that decides stores its type, and no other does.** -/
theorem storedTypes_run {bootTime : Epoch} {steps : List SessionStep}
    (within : ∀ step ∈ steps, step.WithinBoot bootTime) :
    storedTypes (service.run config steps).database = storedTypes service.database ++
      (((restartAnalyses config service steps).find? fun analysis =>
        analysis.Decides config).map (Handed.type config)).toList := by
  induction steps generalizing service with
  | nil => simp [restartAnalyses]
  | cons step steps ih =>
    have rest : ∀ later ∈ steps, later.WithinBoot bootTime :=
      fun later member => within later (List.mem_cons_of_mem _ member)
    rw [Service.run_cons]
    rcases step.isCycle_or_restart with cycle | ⟨inputs, rfl⟩
    · rw [ih _ rest, storedTypes_congr (cycle_incidents config service cycle),
        restartAnalyses_cycle config service cycle]
    · have boots : inputs.bootTime = bootTime := within _ List.mem_cons_self
      have stored := storedTypes_start config service.database inputs
      rw [restartAnalyses, List.find?_cons]
      by_cases decides : (handed service.database inputs).Decides config
      · have recorded := incidentExists_start decides none
        rw [boots] at recorded
        rw [Service.step_restart, storedTypes_recorded config _ rest recorded]
        simp only [decides, if_true, decide_true] at stored ⊢
        exact stored
      · rw [ih _ rest]
        simp only [decides, if_false, decide_false, List.append_nil] at stored ⊢
        exact congrArg (· ++ _) stored

end Steps

/-! ## Evidence -/

/-- A step keeps the events that are stored. -/
theorem Service.mem_step_events {config : Config} {service : Service} {entry : Entry EventRow}
    (step : SessionStep) (member : entry ∈ service.database.events.entries) :
    entry ∈ (service.step config step).database.events.entries := by
  rcases step.isCycle_or_restart with cycle | ⟨inputs, rfl⟩
  · obtain ⟨ops, -, same⟩ := service.step_cycle config cycle
    rw [same]
    exact mem_applyAll_events ops member
  · have booted : entry ∈
        (detectBoot service.database inputs.now inputs.bootTime).1.events.entries := by
      rw [detectBoot_events]
      exact member
    rw [Service.step_restart, startService_database, runDiagnosis_events]
    exact mem_collect_events "System" inputs.log _ booted

theorem Service.mem_run_events {config : Config} {service : Service} {entry : Entry EventRow}
    (steps : List SessionStep) (member : entry ∈ service.database.events.entries) :
    entry ∈ (service.run config steps).database.events.entries :=
  Runs.run_invariant (fun later : Service => entry ∈ later.database.events.entries)
    (fun _ step (_ : True) stored => Service.mem_step_events step stored) member
    fun _ _ => trivial

/-- The events that were handed over are stored at the end of the run. -/
def Handed.Stored (analysis : Handed) (db : Database) : Prop :=
  ∀ entry ∈ analysis.seen.events.entries, entry ∈ db.events.entries

theorem handed_stored (config : Config) (db : Database) (inputs : StartInputs)
    (steps : List SessionStep) :
    (handed db inputs).Stored ((startService config db inputs).run config steps).database := by
  intro entry member
  refine Service.mem_run_events steps ?_
  rw [startService_database, runDiagnosis_events]
  exact member

section Boots

variable {db : Database} (reboot : Reboot db) (config : Config) {now : Epoch}
  {service : Service}

/-- A step within the boot leaves the sessions as the reboot left them. -/
theorem sessions_step (sessions : service.database.sessions = (reboot.booted now).sessions)
    {step : SessionStep} (within : step.WithinBoot reboot.bootTime) :
    (service.step config step).database.sessions = (reboot.booted now).sessions := by
  rcases step.isCycle_or_restart with cycle | ⟨inputs, rfl⟩
  · obtain ⟨ops, background, same⟩ := service.step_cycle config cycle
    rw [same, applyAll_sessions _ background, sessions]
  · have boots : inputs.bootTime = reboot.bootTime := within
    have resumed := reboot.detectBoot_restart sessions inputs.now
    rw [Service.step_restart, startService_database, runDiagnosis_sessions, handed, boots]
    simp only [resumed, collect_sessions, sessions]

/-- A restart is handed the transition of the boot without a clean flag. -/
theorem handed_restart (sessions : service.database.sessions = (reboot.booted now).sessions)
    {inputs : StartInputs} (boots : inputs.bootTime = reboot.bootTime) :
    (handed service.database inputs).transition = reboot.restartResult.toTransition := by
  have resumed := reboot.detectBoot_restart sessions inputs.now
  rw [handed, boots]
  exact congrArg (fun result => result.2.toTransition) resumed

/-- What the restarts of a boot are handed is part of what is stored at the
end. -/
theorem restartAnalyses_part {steps : List SessionStep}
    (sessions : service.database.sessions = (reboot.booted now).sessions)
    (within : ∀ step ∈ steps, step.WithinBoot reboot.bootTime) :
    ∀ analysis ∈ restartAnalyses config service steps,
      analysis.transition = reboot.restartResult.toTransition ∧
        analysis.Stored (service.run config steps).database := by
  induction steps generalizing service with
  | nil => simp [restartAnalyses]
  | cons step steps ih =>
    have inBoot := within step List.mem_cons_self
    have later := ih (sessions_step reboot config sessions inBoot)
      fun other member => within other (List.mem_cons_of_mem _ member)
    rcases step.isCycle_or_restart with cycle | ⟨inputs, rfl⟩
    · rw [restartAnalyses_cycle config service cycle]
      exact later
    · intro analysis member
      rcases List.mem_cons.mp member with rfl | tail
      · exact ⟨handed_restart reboot sessions inBoot,
          handed_stored config service.database inputs steps⟩
      · exact later analysis tail

end Boots

/-! ## Boots -/

/-- A start after a reboot and what happens to the service in this boot. -/
structure BootRun {db : Database} (reboot : Reboot db) where
  first : StartInputs
  steps : List SessionStep
  boots : first.bootTime = reboot.bootTime
  within : ∀ step ∈ steps, step.WithinBoot reboot.bootTime

namespace BootRun

variable {db : Database} {reboot : Reboot db} (boot : BootRun reboot) (config : Config)

def started : Service := startService config db boot.first

def ended : Service := (boot.started config).run config boot.steps

/-- The analyses of the boot, in order. -/
def analyses : List Handed :=
  handed db boot.first :: restartAnalyses config (boot.started config) boot.steps

/-- The first analysis that warrants an incident and finds none stored. -/
def decisive : Option Handed := (boot.analyses config).find? fun analysis =>
  analysis.Decides config

/-- The evidence at the end of the run, with the stored clean flag. -/
def complete : Handed where
  seen := (boot.ended config).database
  transition := reboot.transition

/-- The incidents stored since the reboot are the one, if any, that
`diagnose_latest` gives on the evidence at the end. -/
def Settled : Prop :=
  storedTypes (boot.ended config).database = storedTypes db ++
    ((diagnoseLatest (boot.ended config).database config).incident.map
      Incident.incidentType).toList.map some

/-- The decisive analysis saw what decides; without one the evidence at the end
warrants no incident. -/
structure Foreseen : Prop where
  decided : ∀ analysis ∈ boot.decisive config, analysis.Anticipates config (boot.complete config)
  undecided : boot.decisive config = none → ¬ (boot.complete config).Warranted config

instance : Decidable (boot.Foreseen config) :=
  decidable_of_iff (_ ∧ _)
    ⟨fun ⟨decided, undecided⟩ => ⟨decided, undecided⟩,
      fun foreseen => ⟨foreseen.decided, foreseen.undecided⟩⟩

/-- Two runs end with the same events of the window and the same last activity. -/
structure SameEvidence (other : BootRun reboot) : Prop where
  events : ∀ event, event ∈ (boot.complete config).events config ↔
    event ∈ (other.complete config).events config
  activity : lastMetricTimestamp (boot.ended config).database reboot.bootTime =
    lastMetricTimestamp (other.ended config).database reboot.bootTime

theorem handed_first : (handed db boot.first).transition = reboot.transition := by
  rw [handed, boot.boots]
  exact reboot.detectBoot_transition boot.first.now

theorem started_sessions :
    (boot.started config).database.sessions = (reboot.booted boot.first.now).sessions := by
  rw [started, startService_database, runDiagnosis_sessions, handed, boot.boots]
  exact collect_sessions ..

theorem ended_sessions :
    (boot.ended config).database.sessions = (reboot.booted boot.first.now).sessions :=
  Runs.run_invariant
    (fun service : Service =>
      service.database.sessions = (reboot.booted boot.first.now).sessions)
    (fun _ (step : SessionStep) (within : step.WithinBoot reboot.bootTime) sessions =>
      sessions_step reboot config sessions within)
    (boot.started_sessions config) boot.within

/-- `diagnose_latest` diagnoses the evidence at the end. -/
theorem diagnoseLatest_type :
    (diagnoseLatest (boot.ended config).database config).incident.map Incident.incidentType =
      (boot.complete config).type config := by
  have sessions := boot.ended_sessions config
  simp only [diagnoseLatest, reboot.latestSession_later sessions, runDiagnosis_dry]
  rw [reboot.latestTransition_booted boot.first.now sessions]
  exact (boot.complete config).diagnose_type_eq config

/-- Every analysis was handed part of the evidence at the end. -/
theorem analyses_part {analysis : Handed} (member : analysis ∈ boot.analyses config)
    {category : Category} (present : Holds (analysis.events config) category) :
    Holds ((boot.complete config).events config) category := by
  have facts : analysis.transition.bootTime = reboot.bootTime ∧
      analysis.transition.previousBootTime = some reboot.prev.row.bootTime ∧
      analysis.Stored (boot.ended config).database := by
    rcases List.mem_cons.mp member with rfl | restarted
    · rw [boot.handed_first]
      exact ⟨rfl, rfl, handed_stored config db boot.first boot.steps⟩
    · obtain ⟨transition, stored⟩ := restartAnalyses_part reboot config
        (boot.started_sessions config) boot.within analysis restarted
      rw [transition]
      exact ⟨rfl, rfl, stored⟩
  obtain ⟨bootTime, previous, stored⟩ := facts
  obtain ⟨event, inWindow, isCategory⟩ := present
  refine ⟨event, ?_, isCategory⟩
  simp only [Handed.events, transitionEvents, transitionStart, bootTime, previous,
    Database.mem_eventsBetween] at inWindow ⊢
  obtain ⟨row, between⟩ := inWindow
  obtain ⟨entry, kept, rfl⟩ := List.mem_map.mp row
  exact ⟨List.mem_map_of_mem (stored entry kept), between⟩

theorem decisive_spec {analysis : Handed} (found : boot.decisive config = some analysis) :
    analysis ∈ boot.analyses config ∧ analysis.Decides config := by
  unfold decisive at found
  have decides := List.find?_some found
  exact ⟨List.mem_of_find?_eq_some found, of_decide_eq_true decides⟩

/-- The types stored in the boot. -/
theorem storedTypes_ended :
    storedTypes (boot.ended config).database = storedTypes db ++
      ((boot.decisive config).bind (Handed.type config)).toList.map some := by
  have all : ∀ step ∈ SessionStep.restart boot.first :: boot.steps,
      step.WithinBoot reboot.bootTime := by
    intro step member
    rcases List.mem_cons.mp member with rfl | later
    · exact boot.boots
    · exact boot.within step later
  -- the start is a restart of a service that has done nothing yet
  have stored := storedTypes_run config ⟨⟨db, 0⟩, 0⟩ all
  have first : (restartAnalyses config ⟨⟨db, 0⟩, 0⟩ (.restart boot.first :: boot.steps)).find?
      (fun analysis => analysis.Decides config) = boot.decisive config := rfl
  rw [first] at stored
  refine stored.trans (congrArg _ ?_)
  cases found : boot.decisive config with
  | none => rfl
  | some analysis =>
    have decides := (boot.decisive_spec config found).2
    have typed := (analysis.type_isSome_iff config).mpr decides.1
    obtain ⟨type, isType⟩ := Option.isSome_iff_exists.mp typed
    simp [isType]

/-- **The boot is settled exactly when the decisive analysis saw what
decides.** -/
theorem settled_iff : boot.Settled config ↔ boot.Foreseen config := by
  rw [Settled, boot.storedTypes_ended, boot.diagnoseLatest_type, List.append_cancel_left_eq]
  have injective : ∀ first second : Option IncidentType,
      first.toList.map some = second.toList.map some ↔ first = second := by
    intro first second
    cases first <;> cases second <;> simp
  rw [injective]
  cases found : boot.decisive config with
  | none =>
    have silent : boot.Foreseen config ↔ ¬ (boot.complete config).Warranted config := by
      constructor
      · exact fun foreseen => foreseen.undecided found
      · exact fun quiet => ⟨by simp [found], fun _ => quiet⟩
    rw [silent, ← Handed.type_isSome_iff, Option.not_isSome_iff_eq_none, Option.bind_none, eq_comm]
  | some analysis =>
    obtain ⟨member, decides⟩ := boot.decisive_spec config found
    have spoken : boot.Foreseen config ↔ analysis.Anticipates config (boot.complete config) := by
      constructor
      · exact fun foreseen => foreseen.decided analysis found
      · exact fun anticipates => ⟨by simpa [found] using anticipates, by simp [found]⟩
    rw [spoken]
    exact Handed.type_eq_iff decides.1 fun _ => boot.analyses_part config member

/-- Runs that end with the same evidence agree on its type. -/
theorem SameEvidence.type_eq {other : BootRun reboot} (same : boot.SameEvidence config other) :
    (boot.complete config).type config = (other.complete config).type config := by
  have categories : ∀ category, Holds ((boot.complete config).events config) category ↔
      Holds ((other.complete config).events config) category := by
    intro category
    simp only [Holds, same.events]
  have shorts : (boot.complete config).short config = (other.complete config).short config := by
    have activity := same.activity
    unfold Handed.short
    simp only [complete, Reboot.transition_bootTime, activity]
  simp only [Handed.type, verdictType, categories, shorts]
  rfl

end BootRun

/-- **The stored outcome of a boot is the one that `diagnose_latest` gives on
the complete evidence exactly when the first analysis that stored an incident
saw what decides, or none did and the evidence warrants none. Between runs with
the same complete evidence it then differs exactly when one of them is not such
a run.** -/
theorem complete_evidence_stored_iff {db : Database} (reboot : Reboot db)
    (boot : BootRun reboot) (config : Config) :
    (boot.Settled config ↔ boot.Foreseen config) ∧
      ∀ other : BootRun reboot, boot.SameEvidence config other → boot.Foreseen config →
        (storedTypes (boot.ended config).database = storedTypes (other.ended config).database ↔
          other.Foreseen config) := by
  refine ⟨boot.settled_iff config, fun other same foreseen => ?_⟩
  have settled := (boot.settled_iff config).mpr foreseen
  rw [← other.settled_iff, BootRun.Settled, other.diagnoseLatest_type, ← same.type_eq,
    ← boot.diagnoseLatest_type, ← settled, eq_comm]

/-- BugCheck 1001, logged a minute after the boot. -/
def lateBugcheck : LogRecord where
  timeGenerated := 2060
  recordNumber := some 7
  sourceName := some "BugCheck"
  eventId := some 1001

/-- A start at 2000 that reads nothing new, and low-frequency cycles at 2070
that read the given records. -/
def bootAt2000 (events : List Event) (read : List LogRecord) :
    BootRun (oneSession.reboot events 2000 (by decide +kernel)) where
  first := ⟨2000, some 2000, some []⟩
  steps := read.map fun record =>
    .collectLow { log := some [.batch [record]], retentionClock := 2070 } 2070
  boots := rfl
  within := by simp [SessionStep.WithinBoot]

/-- Kernel-Power 41 that is stored before the start is what the incident is
stored for, whether an unrelated record is read later or not. -/
theorem complete_evidence_stored_early :
    let boot := bootAt2000 [kernelPower41 2000] []
    let other := bootAt2000 [kernelPower41 2000] [{ timeGenerated := 9000 }]
    boot.Settled {} ∧
      storedTypes (boot.ended {}).database = storedTypes (other.ended {}).database := by
  intro boot other
  have foreseen : boot.Foreseen {} := by decide +kernel
  have same : boot.SameEvidence {} other := by
    refine ⟨fun event => ?_, by decide +kernel⟩
    have events : (boot.complete {}).events {} = (other.complete {}).events {} := by
      decide +kernel
    rw [events]
  have stored := complete_evidence_stored_iff _ boot {}
  exact ⟨stored.1.mpr foreseen, (stored.2 other same foreseen).mpr (by decide +kernel)⟩

/-- A BugCheck that is logged a minute after the boot comes too late for the
stored incident, which stays a hang while `diagnose_latest` reports a BSOD. -/
theorem late_bugcheck_not_stored :
    let boot := bootAt2000 [kernelPower41 2000] [lateBugcheck]
    storedTypes (oneSession [kernelPower41 2000]) = [] ∧
      storedTypes (boot.ended {}).database = [some .hardHang] ∧
      (diagnoseLatest (boot.ended {}).database {}).incident.map Incident.incidentType =
        some .bsod ∧
      ¬ boot.Settled {} := by
  refine ⟨by decide +kernel, by decide +kernel, by decide +kernel, ?_⟩
  unfold BootRun.Settled
  decide +kernel

end Agent

end PcDiagnosticAgent
