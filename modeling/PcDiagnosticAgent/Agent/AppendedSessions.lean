import PcDiagnosticAgent.Agent.AfterReboot
import PcDiagnosticAgent.Diagnostics.InterruptedBoot

/-!
# Sessions are only appended

A session keeps its id, its boot time and its link to the previous boot for good
(`sessionKey`); a boot detection, also one that dies between two of its commits,
adds at most one session after all others (`commits_opened`). So the session
before a stored one never changes (`Grows.session`), and what a process was told
about its boot stays true while sessions are added (`Known.extend`).
-/

set_option autoImplicit false

namespace PcDiagnosticAgent

open AutoTables BootDetector

/-! ## Sessions that are only appended -/

/-- What is never rewritten of a session. -/
structure SessionKey where
  id : ℕ
  bootTime : Epoch
  previousBootTime : Option Epoch
deriving DecidableEq, Repr

def sessionKey (session : Entry SessionRow) : SessionKey :=
  ⟨session.id, session.row.bootTime, session.row.previousBootTime⟩

namespace Database

def sessionKeys (db : Database) : List SessionKey := db.sessions.entries.map sessionKey

end Database

/-- The last key below an id. -/
def keyBefore (keys : List SessionKey) (id : ℕ) : Option SessionKey :=
  (keys.filter fun key => key.id < id).getLast?

theorem keyBefore_append {keys more : List SessionKey} {id : ℕ}
    (above : ∀ key ∈ more, id ≤ key.id) : keyBefore (keys ++ more) id = keyBefore keys id := by
  have none : more.filter (fun key => decide (key.id < id)) = [] := by
    refine List.filter_eq_nil_iff.mpr fun key member => ?_
    simpa using above key member
  rw [keyBefore, keyBefore, List.filter_append, none, List.append_nil]

theorem earlierSession_key (db : Database) (id : ℕ) :
    (db.earlierSession id).map sessionKey = keyBefore db.sessionKeys id := by
  rw [keyBefore, Database.sessionKeys, List.filter_map, List.getLast?_map]
  rfl

theorem mem_sessionKeys {db : Database} {session : Entry SessionRow}
    (member : session ∈ db.sessions.entries) : sessionKey session ∈ db.sessionKeys :=
  List.mem_map_of_mem member

/-- Sessions and events are only appended. -/
structure Grows (db later : Database) : Prop where
  sessions : db.sessionKeys <+: later.sessionKeys
  events : ∀ entry ∈ db.events.entries, entry ∈ later.events.entries

namespace Grows

variable {db later : Database} (grows : Grows db later)

include grows

/-- The session before a stored one stays the one before it. -/
theorem keyBefore {key : SessionKey} (member : key ∈ db.sessionKeys) :
    keyBefore later.sessionKeys key.id = PcDiagnosticAgent.keyBefore db.sessionKeys key.id := by
  obtain ⟨more, appended⟩ := grows.sessions
  have ascending : later.sessionKeys.Pairwise fun first second => first.id < second.id :=
    List.pairwise_map.mpr later.sessions.ascending
  rw [← appended, List.pairwise_append] at ascending
  rw [← appended]
  exact keyBefore_append fun other added => (ascending.2.2 key member other added).le

theorem session {session : Entry SessionRow} (member : session ∈ db.sessions.entries) :
    ∃ same ∈ later.sessions.entries, sessionKey same = sessionKey session ∧
      (later.earlierSession session.id).map sessionKey =
        (db.earlierSession session.id).map sessionKey := by
  have key := mem_sessionKeys member
  obtain ⟨same, stored, equal⟩ := List.mem_map.mp (grows.sessions.subset key)
  refine ⟨same, stored, equal, ?_⟩
  rw [earlierSession_key, earlierSession_key]
  exact grows.keyBefore key

end Grows

/-! ## Boot detection -/

/-- A boot detection, or a part of it, adds at most one session, linked to the
latest one or to none. -/
structure Opened (db : Database) (bootTime : Epoch) (later : Database) : Prop where
  rest : later = { db with sessions := later.sessions }
  sessions : later.sessionKeys = db.sessionKeys ∨
    ∃ link, later.sessionKeys = db.sessionKeys ++ [⟨db.sessions.seq + 1, bootTime, link⟩] ∧
      ∀ time ∈ link, ∃ latest, db.latestSession = some latest ∧ latest.row.bootTime = time

namespace Opened

variable {db later : Database} {bootTime : Epoch}

theorem refl (db : Database) (bootTime : Epoch) : Opened db bootTime db := ⟨rfl, .inl rfl⟩

theorem appends (opened : Opened db bootTime later) : Grows db later := by
  constructor
  · rcases opened.sessions with same | ⟨link, added, -⟩
    · exact same.symm ▸ List.prefix_rfl
    · rw [added]
      exact List.prefix_append ..
  · intro entry member
    rw [opened.rest]
    exact member

end Opened

/-- An outcome is not part of the key. -/
theorem sessionKeys_finaliseSession (db : Database) (prev : Entry SessionRow) (bootTime : Epoch) :
    (finaliseSession db prev bootTime).sessionKeys = db.sessionKeys := by
  simp only [Database.sessionKeys, finaliseSession, Database.updateSession,
    AutoTable.update_entries, List.map_map]
  refine List.map_congr_left fun session _ => ?_
  simp only [Function.comp]
  split <;> rfl

theorem sessionKeys_createSession (db : Database) (bootTime now : Epoch) :
    (db.createSession bootTime now).1.sessionKeys =
      db.sessionKeys ++ [⟨db.sessions.seq + 1, bootTime, none⟩] := by
  simp [Database.sessionKeys, Database.createSession, sessionKey]

theorem sessionKeys_linkSession (db : Database) (bootTime now previous : Epoch) :
    ((db.createSession bootTime now).1.updateSession (db.sessions.seq + 1)
        { previousBootTime := some previous }).sessionKeys =
      db.sessionKeys ++ [⟨db.sessions.seq + 1, bootTime, some previous⟩] := by
  have entries := AutoTable.insert_update_entries db.sessions { bootTime, createdAt := now }
    ({ previousBootTime := some previous } : SessionUpdate).apply
  simp only [Database.sessionKeys, Database.createSession, Database.updateSession, entries,
    List.map_append]
  rfl

/-- **Every commit of a boot detection adds at most one session.** -/
theorem commits_opened (db : Database) (now bootTime : Epoch) :
    ∀ commit ∈ commits db now bootTime, Opened db bootTime commit.2 := by
  have created : ∀ settled : Database, settled.sessionKeys = db.sessionKeys →
      settled = { db with sessions := settled.sessions } →
      settled.sessions.seq = db.sessions.seq →
      Opened db bootTime (settled.createSession bootTime now).1 := by
    intro settled keys rest seq
    refine ⟨?_, .inr ⟨none, ?_, by simp⟩⟩
    · rw [rest]
      rfl
    · rw [sessionKeys_createSession, keys, seq]
  have linked : ∀ (settled : Database) (prev : Entry SessionRow),
      settled.sessionKeys = db.sessionKeys → settled = { db with sessions := settled.sessions } →
      settled.sessions.seq = db.sessions.seq → db.latestSession = some prev →
      Opened db bootTime ((settled.createSession bootTime now).1.updateSession
        (settled.sessions.seq + 1) { previousBootTime := some prev.row.bootTime }) := by
    intro settled prev keys rest seq latest
    refine ⟨?_, .inr ⟨some prev.row.bootTime, ?_, ?_⟩⟩
    · rw [rest]
      rfl
    · rw [sessionKeys_linkSession, keys, seq]
    · intro time named
      exact ⟨prev, latest, Option.some.inj named⟩
  intro commit member
  unfold commits at member
  split at member
  · rw [List.mem_singleton.mp member]
    exact created db rfl rfl rfl
  · rename_i prev latest
    split at member
    · cases member
    · split at member
      · simp only [List.mem_cons, List.not_mem_nil, or_false] at member
        rcases member with rfl | rfl
        · exact created db rfl rfl rfl
        · exact linked db prev rfl rfl rfl latest
      · have keys := sessionKeys_finaliseSession db prev bootTime
        simp only [List.mem_cons, List.not_mem_nil, or_false] at member
        rcases member with rfl | rfl | rfl
        · exact ⟨rfl, .inl keys⟩
        · exact created _ keys rfl rfl
        · exact linked _ prev keys rfl rfl latest

/-- The database of a boot detection that dies after some of its commits. -/
def interruptedBoot (db : Database) (now bootTime : Epoch) (done : ℕ) : Database :=
  ((((commits db now bootTime).take done).map Prod.snd).getLast?).getD db

theorem interruptedBoot_opened (db : Database) (now bootTime : Epoch) (done : ℕ) :
    Opened db bootTime (interruptedBoot db now bootTime done) := by
  rw [interruptedBoot]
  cases last : (((commits db now bootTime).take done).map Prod.snd).getLast? with
  | none => exact .refl db bootTime
  | some database =>
    obtain ⟨commit, taken, rfl⟩ := List.mem_map.mp (List.mem_of_getLast? last)
    exact commits_opened db now bootTime commit (List.mem_of_mem_take taken)

theorem detectBoot_isOpened (db : Database) (now bootTime : Epoch) :
    Opened db bootTime (detectBoot db now bootTime).1 := by
  rw [← commits_getLast? db now bootTime]
  have whole := interruptedBoot_opened db now bootTime (commits db now bootTime).length
  rwa [interruptedBoot, List.take_length] at whole

/-! ## What a process knows of its boot -/

/-- The boot a process was told about is that of a stored session, with the link
of that session and the session before it. -/
structure Known (db : Database) (boot : BootResult) : Prop where
  session : ∃ session ∈ db.sessions.entries, session.id = boot.sessionId ∧
    SameBoot session boot.bootTime ∧ session.row.previousBootTime = boot.previousBootTime
  previous : (db.earlierSession boot.sessionId).map Entry.id = boot.previousSessionId

theorem id_of_key_eq {first second : Option (Entry SessionRow)}
    (same : first.map sessionKey = second.map sessionKey) :
    first.map Entry.id = second.map Entry.id := by
  have ids := congrArg (Option.map SessionKey.id) same
  rw [Option.map_map, Option.map_map] at ids
  exact ids

theorem Known.extend {db later : Database} {boot : BootResult} (known : Known db boot)
    (grows : Grows db later) : Known later boot := by
  obtain ⟨⟨session, member, id, booted, link⟩, previous⟩ := known
  obtain ⟨same, stored, key, before⟩ := grows.session member
  obtain ⟨sameId, sameBoot, sameLink⟩ := SessionKey.mk.inj key
  refine ⟨⟨same, stored, sameId.trans id, ?_, sameLink.trans link⟩, ?_⟩
  · rw [SameBoot, sameBoot]
    exact booted
  · rw [← id]
    rw [← id] at previous
    exact (id_of_key_eq before).trans previous

/-- An opened session follows the one that was the latest. -/
theorem known_openSession {db : Database} {bootTime now : Epoch} {link : Option Epoch}
    {boot : BootResult} (id : boot.sessionId = db.sessions.seq + 1)
    (booted : boot.bootTime = bootTime) (linked : boot.previousBootTime = link)
    (previous : db.latestSession.map Entry.id = boot.previousSessionId) :
    Known (openSession db bootTime now link).1 boot := by
  constructor
  · refine ⟨_, AutoTable.latest_mem (openSession_latest db bootTime now link), id.symm, ?_,
      linked.symm⟩
    rw [booted]
    exact sameBoot_self _ _
  · rw [id, openSession_earlier]
    exact previous

/-- **What boot detection returns is stored.** -/
theorem known_detectBoot (db : Database) (now bootTime : Epoch) :
    Known (detectBoot db now bootTime).1 (detectBoot db now bootTime).2 := by
  unfold detectBoot
  cases latest : db.latestSession with
  | none => exact known_openSession rfl rfl rfl (by rw [latest]; rfl)
  | some prev =>
    simp only
    split
    · rename_i same
      exact ⟨⟨prev, AutoTable.latest_mem latest, rfl, same, rfl⟩, rfl⟩
    · split
      · exact known_openSession rfl rfl rfl (by rw [latest]; rfl)
      · have settled : (finaliseSession db prev bootTime).latestSession = some ⟨prev.id, _⟩ :=
          AutoTable.latest_update_self _ latest
        exact known_openSession rfl rfl rfl (by rw [settled]; rfl)

end PcDiagnosticAgent
