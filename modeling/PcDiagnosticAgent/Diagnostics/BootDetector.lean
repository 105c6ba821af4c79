import PcDiagnosticAgent.Diagnostics.EventAnalyzer
import PcDiagnosticAgent.Storage.Database

/-!
# Boot detection

`detect_boot` of `diagnostics/boot_detector.py`. A boot time within 60 s of the
latest session's is a service restart and reads the latest session row
(`resumeSession`). Any other boot time is a reboot: the latest session is
finalised from the events of the transition window (`finaliseSession`) and a
new session is created and linked to it (`openSession`).
-/

set_option autoImplicit false

namespace PcDiagnosticAgent

open AutoTables EventAnalyzer

/-- The part of a boot result that `run_diagnosis` reads. -/
structure Transition where
  bootTime : Epoch
  previousBootTime : Option Epoch
  previousSessionId : Option ℕ
  previousSessionClean : Option Bool
deriving DecidableEq, Repr

structure BootResult extends Transition where
  unexpectedShutdown : Bool
  kernelPowerDetected : Bool
  bugcheckDetected : Bool
  uptimeBeforeBoot : Option ℚ
  sessionId : ℕ
deriving DecidableEq, Repr

namespace BootDetector

/-- Truth of a nullable integer column. -/
def asBool (value : Option ℤ) : Bool := value.any (· ≠ 0)

/-- A truth value as it is stored. -/
def flag (value : Bool) : ℤ := if value then 1 else 0

/-- The boot time `detect_boot` works with: the argument, else what psutil
reads, else the current time. -/
def resolveBootTime (argument psutil : Option Epoch) (now : Epoch) : Epoch :=
  argument.getD (psutil.getD now)

/-- The same-boot branch: everything is read from the latest session's row. -/
def resumeSession (db : Database) (prev : Entry SessionRow) (bootTime : Epoch) : BootResult where
  bootTime := bootTime
  previousBootTime := prev.row.previousBootTime
  previousSessionId := (db.earlierSession prev.id).map Entry.id
  previousSessionClean := prev.row.previousSessionClean.map (· ≠ 0)
  unexpectedShutdown := asBool prev.row.unexpectedShutdown
  kernelPowerDetected := asBool prev.row.kernelPowerDetected
  bugcheckDetected := asBool prev.row.bugcheckDetected
  uptimeBeforeBoot := prev.row.uptimeBeforeBoot
  sessionId := prev.id

/-- The summary of the events of a transition, up to two minutes after the new
boot. -/
def transitionSummary (db : Database) (previousBootTime bootTime : Epoch) : Summary :=
  summarize (db.eventsBetween previousBootTime (bootTime + 120))

/-- `(not clean) and (kp41 or unexpected)`. -/
def unexpectedEnd (summary : Summary) : Bool :=
  !summary.cleanShutdown && (summary.kernelPowerDetected || summary.unexpectedShutdownEvent)

/-- The columns the previous session is finalised with. -/
def outcomeFields (summary : Summary) (uptime : ℚ) : SessionUpdate where
  previousSessionClean := some (flag summary.cleanShutdown)
  unexpectedShutdown := some (flag (unexpectedEnd summary))
  kernelPowerDetected := some (flag summary.kernelPowerDetected)
  bugcheckDetected := some (flag summary.bugcheckDetected)
  uptimeBeforeBoot := some uptime

/-- Store how the previous session ended. -/
def finaliseSession (db : Database) (prev : Entry SessionRow) (bootTime : Epoch) : Database :=
  db.updateSession prev.id (outcomeFields (transitionSummary db prev.row.bootTime bootTime)
    (bootTime - prev.row.bootTime))

/-- Create the session of a new boot and link it to the previous boot. -/
def openSession (db : Database) (bootTime now : Epoch) (previousBootTime : Option Epoch) :
    Database × ℕ :=
  let (db, sessionId) := db.createSession bootTime now
  match previousBootTime with
  | none => (db, sessionId)
  | some previousBootTime =>
    (db.updateSession sessionId { previousBootTime := some previousBootTime }, sessionId)

/-- What a reboot returns when the previous session was finalised. -/
def rebootResult (prev : Entry SessionRow) (summary : Summary) (bootTime : Epoch)
    (sessionId : ℕ) : BootResult where
  bootTime := bootTime
  previousBootTime := some prev.row.bootTime
  previousSessionId := some prev.id
  previousSessionClean := some summary.cleanShutdown
  unexpectedShutdown := unexpectedEnd summary
  kernelPowerDetected := summary.kernelPowerDetected
  bugcheckDetected := summary.bugcheckDetected
  uptimeBeforeBoot := some (bootTime - prev.row.bootTime)
  sessionId := sessionId

/-- What `detect_boot` returns when it has nothing to finalise. -/
def unknownResult (prev : Option (Entry SessionRow)) (bootTime : Epoch) (sessionId : ℕ) :
    BootResult where
  bootTime := bootTime
  previousBootTime := prev.map (·.row.bootTime)
  previousSessionId := prev.map (·.id)
  previousSessionClean := none
  unexpectedShutdown := false
  kernelPowerDetected := false
  bugcheckDetected := false
  uptimeBeforeBoot := none
  sessionId := sessionId

/-- A boot time that belongs to the boot of a stored session. -/
def SameBoot (prev : Entry SessionRow) (bootTime : Epoch) : Prop :=
  |prev.row.bootTime - bootTime| < 60

instance (prev : Entry SessionRow) (bootTime : Epoch) : Decidable (SameBoot prev bootTime) :=
  inferInstanceAs (Decidable (|prev.row.bootTime - bootTime| < 60))

def detectBoot (db : Database) (now bootTime : Epoch) : Database × BootResult :=
  match db.latestSession with
  | none =>
    let (db, sessionId) := openSession db bootTime now none
    (db, unknownResult none bootTime sessionId)
  | some prev =>
    if SameBoot prev bootTime then
      (db, resumeSession db prev bootTime)
    else if prev.row.bootTime = 0 then
      -- a zero boot time is falsy, so nothing is finalised
      let (db, sessionId) := openSession db bootTime now (some prev.row.bootTime)
      (db, unknownResult (some prev) bootTime sessionId)
    else
      let summary := transitionSummary db prev.row.bootTime bootTime
      let (db, sessionId) := openSession (finaliseSession db prev bootTime) bootTime now
        (some prev.row.bootTime)
      (db, rebootResult prev summary bootTime sessionId)

/-- Every branch returns the boot time it was given. -/
theorem detectBoot_bootTime (db : Database) (now bootTime : Epoch) :
    (detectBoot db now bootTime).2.bootTime = bootTime := by
  unfold detectBoot
  split
  · rfl
  · split
    · rfl
    · split <;> rfl

/-! ## Frames -/

@[simp] theorem openSession_events (db : Database) (bootTime now : Epoch)
    (previousBootTime : Option Epoch) :
    (openSession db bootTime now previousBootTime).1.events = db.events := by
  cases previousBootTime <;> rfl

@[simp] theorem openSession_metrics (db : Database) (bootTime now : Epoch)
    (previousBootTime : Option Epoch) :
    (openSession db bootTime now previousBootTime).1.metrics = db.metrics := by
  cases previousBootTime <;> rfl

@[simp] theorem openSession_heartbeat (db : Database) (bootTime now : Epoch)
    (previousBootTime : Option Epoch) :
    (openSession db bootTime now previousBootTime).1.heartbeat = db.heartbeat := by
  cases previousBootTime <;> rfl

@[simp] theorem openSession_incidents (db : Database) (bootTime now : Epoch)
    (previousBootTime : Option Epoch) :
    (openSession db bootTime now previousBootTime).1.incidents = db.incidents := by
  cases previousBootTime <;> rfl

/-- Boot detection writes the sessions only. -/
theorem detectBoot_unchanged {Seen : Type} (observe : Database → Seen)
    (opened : ∀ db bootTime now previous,
      observe (openSession db bootTime now previous).1 = observe db)
    (finalised : ∀ db prev bootTime, observe (finaliseSession db prev bootTime) = observe db)
    (db : Database) (now bootTime : Epoch) :
    observe (detectBoot db now bootTime).1 = observe db := by
  unfold detectBoot
  split
  · exact opened ..
  · split
    · rfl
    · split
      · exact opened ..
      · exact (opened ..).trans (finalised ..)

@[simp] theorem detectBoot_events (db : Database) (now bootTime : Epoch) :
    (detectBoot db now bootTime).1.events = db.events :=
  detectBoot_unchanged (·.events) openSession_events (fun _ _ _ => rfl) db now bootTime

@[simp] theorem detectBoot_metrics (db : Database) (now bootTime : Epoch) :
    (detectBoot db now bootTime).1.metrics = db.metrics :=
  detectBoot_unchanged (·.metrics) openSession_metrics (fun _ _ _ => rfl) db now bootTime

@[simp] theorem detectBoot_heartbeat (db : Database) (now bootTime : Epoch) :
    (detectBoot db now bootTime).1.heartbeat = db.heartbeat :=
  detectBoot_unchanged (·.heartbeat) openSession_heartbeat (fun _ _ _ => rfl) db now bootTime

@[simp] theorem detectBoot_incidents (db : Database) (now bootTime : Epoch) :
    (detectBoot db now bootTime).1.incidents = db.incidents :=
  detectBoot_unchanged (·.incidents) openSession_incidents (fun _ _ _ => rfl) db now bootTime

/-! ## The first start -/

/-- Without a session the first one is created and nothing is known about an
earlier one. -/
theorem detectBoot_first {db : Database} (first : db.latestSession = none)
    (now bootTime : Epoch) :
    detectBoot db now bootTime =
      ((db.createSession bootTime now).1,
        unknownResult none bootTime (db.sessions.seq + 1)) := by
  simp only [detectBoot, first]
  rfl

/-! ## The opened session -/

theorem openSession_latest (db : Database) (bootTime now : Epoch)
    (previousBootTime : Option Epoch) :
    (openSession db bootTime now previousBootTime).1.latestSession =
      some ⟨db.sessions.seq + 1, { bootTime, previousBootTime, createdAt := now }⟩ := by
  cases previousBootTime with
  | none => exact AutoTable.latest_insert _ _
  | some previous => exact AutoTable.latest_update_self _ (AutoTable.latest_insert _ _)

/-- The opened session is one more row, under the next id. -/
theorem openSession_entries (db : Database) (bootTime now : Epoch)
    (previousBootTime : Option Epoch) :
    (openSession db bootTime now previousBootTime).1.sessions.entries =
      db.sessions.entries ++
        [⟨db.sessions.seq + 1, { bootTime, previousBootTime, createdAt := now }⟩] := by
  cases previousBootTime with
  | none => rfl
  | some previous => exact AutoTable.insert_update_entries ..

theorem openSession_seq (db : Database) (bootTime now : Epoch)
    (previousBootTime : Option Epoch) :
    (openSession db bootTime now previousBootTime).1.sessions.seq = db.sessions.seq + 1 := by
  cases previousBootTime <;> rfl

/-- A boot time that is not the latest session's opens a session without an
outcome. -/
theorem detectBoot_opened {db : Database} {bootTime : Epoch}
    (fresh : ∀ prev, db.latestSession = some prev → ¬ SameBoot prev bootTime) (now : Epoch) :
    ∃ previousBootTime, (detectBoot db now bootTime).1.latestSession =
      some ⟨db.sessions.seq + 1, { bootTime, previousBootTime, createdAt := now }⟩ := by
  unfold detectBoot
  split
  · exact ⟨none, openSession_latest db bootTime now none⟩
  · rename_i prev latest
    rw [if_neg (fresh prev latest)]
    split
    · exact ⟨some prev.row.bootTime, openSession_latest db bootTime now _⟩
    · exact ⟨some prev.row.bootTime, openSession_latest (finaliseSession db prev bootTime) ..⟩

/-! ## A service restart -/

theorem detectBoot_sameBoot {db : Database} {prev : Entry SessionRow} {bootTime : Epoch}
    (latest : db.latestSession = some prev) (same : SameBoot prev bootTime) (now : Epoch) :
    detectBoot db now bootTime = (db, resumeSession db prev bootTime) := by
  simp only [detectBoot, latest, if_pos same]

/-! ## A reboot -/

/-- A reboot: the latest session, with a boot time that is not zero, and a
boot time at least a minute away from it. -/
structure Reboot (db : Database) where
  prev : Entry SessionRow
  bootTime : Epoch
  latest : db.latestSession = some prev
  nonzero : prev.row.bootTime ≠ 0
  apart : 60 ≤ |prev.row.bootTime - bootTime|

namespace Reboot

variable {db : Database} (reboot : Reboot db)

/-- The events that describe the transition. -/
def window : List EventRow :=
  db.eventsBetween reboot.prev.row.bootTime (reboot.bootTime + 120)

/-- The summary both readers of the window work with. -/
def summary : Summary := summarize reboot.window

/-- The previous session's row once it is finalised. -/
def finalisedRow : SessionRow :=
  (outcomeFields reboot.summary (reboot.bootTime - reboot.prev.row.bootTime)).apply
    reboot.prev.row

/-- The row of the session the reboot opens. -/
def openedRow (now : Epoch) : SessionRow where
  bootTime := reboot.bootTime
  previousBootTime := some reboot.prev.row.bootTime
  createdAt := now

theorem detectBoot_eq (now : Epoch) :
    detectBoot db now reboot.bootTime =
      ((openSession (finaliseSession db reboot.prev reboot.bootTime) reboot.bootTime now
          (some reboot.prev.row.bootTime)).1,
        rebootResult reboot.prev reboot.summary reboot.bootTime (db.sessions.seq + 1)) := by
  have other : ¬ SameBoot reboot.prev reboot.bootTime := not_lt.mpr reboot.apart
  simp only [detectBoot, reboot.latest, if_neg other, if_neg reboot.nonzero]
  rfl

/-- What a reboot returns. -/
theorem detectBoot_result (now : Epoch) :
    (detectBoot db now reboot.bootTime).2 =
      rebootResult reboot.prev reboot.summary reboot.bootTime (db.sessions.seq + 1) := by
  rw [reboot.detectBoot_eq]

/-- The sessions after a reboot: the previous row finalised, a new row linked
to it. -/
theorem detectBoot_sessions (now : Epoch) :
    (detectBoot db now reboot.bootTime).1.sessions =
      ((db.sessions.update reboot.prev.id (outcomeFields reboot.summary
          (reboot.bootTime - reboot.prev.row.bootTime)).apply).insert
            { bootTime := reboot.bootTime, createdAt := now }).update (db.sessions.seq + 1)
        ({ previousBootTime := some reboot.prev.row.bootTime } : SessionUpdate).apply := by
  rw [reboot.detectBoot_eq]
  rfl

/-- After a reboot the newest session is the opened one. -/
theorem latestSession_after (now : Epoch) :
    (detectBoot db now reboot.bootTime).1.latestSession =
      some ⟨db.sessions.seq + 1, reboot.openedRow now⟩ := by
  rw [Database.latestSession, reboot.detectBoot_sessions]
  exact AutoTable.latest_update_self _ (AutoTable.latest_insert _ _)

/-- The session before the opened one is the finalised previous session. -/
theorem earlierSession_after (now : Epoch) :
    (detectBoot db now reboot.bootTime).1.earlierSession (db.sessions.seq + 1) =
      some ⟨reboot.prev.id, reboot.finalisedRow⟩ := by
  rw [Database.earlierSession, reboot.detectBoot_sessions,
    AutoTable.before_update_of_le _ (le_refl _)]
  exact (AutoTable.before_insert _ _).trans (AutoTable.latest_update_self _ reboot.latest)

/-- **The stored outcome of the previous session.** -/
theorem getSession_after (now : Epoch) :
    (detectBoot db now reboot.bootTime).1.getSession reboot.prev.id =
      some reboot.finalisedRow := by
  have old : reboot.prev ∈ db.sessions.entries := AutoTable.latest_mem reboot.latest
  let finalised : Entry SessionRow := ⟨reboot.prev.id, reboot.finalisedRow⟩
  have kept : finalised.id ≠ db.sessions.seq + 1 :=
    (Nat.lt_succ_of_le (db.sessions.assigned reboot.prev old).2).ne
  rw [Database.getSession, reboot.detectBoot_sessions]
  refine AutoTable.find?_of_mem (AutoTable.mem_update_of_ne _ ?_ kept)
  exact List.mem_append_left _ (AutoTable.mem_update_self _ old)

end Reboot

/-! ## One session -/

/-- A database with one session, booted at 1000, and the given events. -/
def oneSession (events : List Event) : Database :=
  (Database.empty.createSession 1000 1000).1.insertEvents events 1

/-- A reboot of that session. -/
def oneSession.reboot (events : List Event) (bootTime : Epoch)
    (apart : 60 ≤ |1000 - bootTime|) : Reboot (oneSession events) where
  prev := ⟨1, { bootTime := 1000, createdAt := 1000 }⟩
  bootTime := bootTime
  latest := rfl
  nonzero := by decide +kernel
  apart := apart

end BootDetector

end PcDiagnosticAgent
