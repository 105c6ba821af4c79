import PcDiagnosticAgent.Diagnostics.EventAnalyzer
import PcDiagnosticAgent.Reports.ReportGenerator

/-!
# The timeline of a report

The timeline shows the first 300 entries of its window in the order of time,
events before samples. The limit on the query for events cuts behind those
(`timelineLines_eq`). So an event is shown when fewer than 300 entries come before it
(`appears_iff`), provided that nothing raises (`timelineLines_succeeds_iff`).

The events that tell of a crash are logged after the reboot, behind everything
that the window collected before it (`shows_crashes_iff`).
-/

set_option autoImplicit false

namespace PcDiagnosticAgent

open AutoTables StableSort

namespace ReportGenerator

/-! ## What the timeline promises -/

/-- A Kernel-Power 41 or BugCheck event. -/
def Crash (event : EventRow) : Prop :=
  EventAnalyzer.classifyEvent event = .kernelPower ∨
    EventAnalyzer.classifyEvent event = .bugcheck

instance (event : EventRow) : Decidable (Crash event) := inferInstanceAs (Decidable (_ ∨ _))

/-- One of the lines that are shown was made from the event with this id. -/
def Appears (env : Environment) (config : Config) (store : ReportStore)
    (incident : StoredIncident) (id : ℕ) : Prop :=
  ∃ lines, timelineLines env config store incident = .ok lines ∧
    ∃ line ∈ lines, line.entry.event = some id

/-- The crash events that are stored and lie in the window. -/
def CrashIn (store : ReportStore) (window : Epoch × Epoch) (entry : Entry EventRow) : Prop :=
  entry ∈ store.events.entries ∧ within window entry.row.timestamp = true ∧ Crash entry.row

instance (store : ReportStore) (window : Epoch × Epoch) (entry : Entry EventRow) :
    Decidable (CrashIn store window entry) := inferInstanceAs (Decidable (_ ∧ _ ∧ _))

/-- Every crash event of the window appears in the timeline. -/
def ShowsCrashes (env : Environment) (config : Config) (store : ReportStore)
    (incident : StoredIncident) : Prop :=
  ∀ window, timelineWindow env config incident = .ok window →
    ∀ entry, CrashIn store window entry → Appears env config store incident entry.id

/-! ## When it keeps the promise -/

/-- The timestamps of the entries of the window. -/
def windowTimes (store : ReportStore) (window : Epoch × Epoch) : List Epoch :=
  ((store.events.entries.filter fun entry => within window entry.row.timestamp).map
      fun entry => entry.row.timestamp) ++
    ((store.metrics .cpu).filter fun row => within window row.timestamp).map MetricRow.timestamp

/-- Every sample of the window has numbers to show, and the moments that are
shown have a local time. -/
structure Readable (env : Environment) (store : ReportStore) (window : Epoch × Epoch) : Prop where
  cpu : ∀ row ∈ store.metrics .cpu, within window row.timestamp = true →
    ∃ value, row.column "cpu_percent" = .number value
  memory : ∀ row ∈ store.metrics .cpu, within window row.timestamp = true →
    ∀ text, memoryAt (windowRows store .memory window) row.timestamp ≠ .text text
  clock : ∀ time ∈ windowTimes store window,
    (windowTimes store window).countP (· < time) < 300 → Succeeds (env.localTime time)

/-- How many entries of the window come before the event. -/
def entriesBefore (store : ReportStore) (window : Epoch × Epoch) (event : Entry EventRow) : ℕ :=
  store.events.entries.countP (fun other => within window other.row.timestamp &&
      (other.row.timestamp < event.row.timestamp ||
        other.row.timestamp = event.row.timestamp && other.id < event.id)) +
    (store.metrics .cpu).countP fun row =>
      within window row.timestamp && row.timestamp < event.row.timestamp

/-! ## Samples -/

theorem formatPercent_succeeds_iff {value : SqlValue} :
    Succeeds (formatPercent value) ↔ ∃ number, value = .number number := by
  cases value with
  | number value => exact iff_of_true ⟨_, rfl⟩ ⟨value, rfl⟩
  | null =>
    refine iff_of_false ?_ ?_
    · rintro ⟨text, raised⟩
      cases raised
    · rintro ⟨number, other⟩
      cases other
  | text value =>
    refine iff_of_false ?_ ?_
    · rintro ⟨text, raised⟩
      cases raised
    · rintro ⟨number, other⟩
      cases other

theorem sampleDetail_succeeds_iff {cpu memory : SqlValue} :
    Succeeds (sampleDetail cpu memory) ↔
      (∃ number, cpu = .number number) ∧ ∀ text, memory ≠ .text text := by
  rw [← formatPercent_succeeds_iff]
  cases memory with
  | null =>
    refine ⟨fun succeeds => ⟨succeeds.first, fun text other => ?_⟩, fun formatted => ?_⟩
    · cases other
    · exact formatted.1.bind fun text _ => ⟨_, rfl⟩
  | number value =>
    refine ⟨fun succeeds => ⟨succeeds.first, fun text other => ?_⟩, fun formatted => ?_⟩
    · cases other
    · exact formatted.1.bind fun text _ => ⟨_, rfl⟩
  | text value =>
    refine iff_of_false ?_ fun formatted => formatted.2 value rfl
    intro succeeds
    obtain ⟨text, reached⟩ := succeeds.first
    obtain ⟨page, raised⟩ := succeeds.next reached
    cases raised

/-- What an entry made from a sample carries. -/
theorem sampleEntry_spec {memory : List MetricRow} {row : MetricRow} {entry : TimelineEntry}
    (made : sampleEntry memory row = .ok entry) :
    entry.timestamp = row.timestamp ∧ entry.event = none := by
  obtain ⟨detail, -, result⟩ := bind_ok_iff.mp made
  cases result
  exact ⟨rfl, rfl⟩

theorem sampleEntry_succeeds_iff {memory : List MetricRow} {row : MetricRow} :
    Succeeds (sampleEntry memory row) ↔
      (∃ number, row.column "cpu_percent" = .number number) ∧
        ∀ text, memoryAt memory row.timestamp ≠ .text text := by
  rw [← sampleDetail_succeeds_iff]
  exact ⟨Succeeds.first, fun formatted => formatted.bind fun detail _ => ⟨_, rfl⟩⟩

/-- The entries made from samples keep their timestamps and name no event. -/
theorem samples_spec {memory rows : List MetricRow} {samples : List TimelineEntry}
    (made : rows.mapM (sampleEntry memory) = .ok samples) :
    samples.map TimelineEntry.timestamp = rows.map MetricRow.timestamp ∧
      ∀ entry ∈ samples, entry.event = none := by
  have steps := mapM_ok_iff.mp made
  clear made
  induction steps with
  | nil => simp
  | cons first _ ih =>
    obtain ⟨timestamp, event⟩ := sampleEntry_spec first
    rw [List.map_cons, List.map_cons, timestamp, ih.1, List.forall_mem_cons]
    exact ⟨rfl, event, ih.2⟩

/-! ## The entries that are shown -/

section Window

variable {env : Environment} {config : Config} {store : ReportStore} {incident : StoredIncident}
  {window : Epoch × Epoch}

/-- The limit on the query leaves the first 300 entries as they are. -/
theorem timelineLines_eq {samples : List TimelineEntry}
    (opened : timelineWindow env config incident = .ok window)
    (made : (windowRows store .cpu window).mapM
      (sampleEntry (windowRows store .memory window)) = .ok samples) :
    timelineLines env config store incident =
      ((sortBy TimelineEntry.timestamp
        ((windowEvents store window).map eventEntry ++ samples)).take 300).mapM
          (timelineLine env) := by
  have entries : timelineEntries env config store incident =
      .ok (sortBy TimelineEntry.timestamp
        (((windowEvents store window).take 400).map eventEntry ++ samples)) := by
    simp only [timelineEntries, opened, made, ok_bind]
    rfl
  have sorted : ((windowEvents store window).map eventEntry).Pairwise
      (InOrder TimelineEntry.timestamp) := by
    rw [List.pairwise_map]
    exact sortBy_sorted (fun entry : Entry EventRow => entry.row.timestamp) _
  rw [timelineLines, entries, ok_bind, List.map_take,
    take_sortBy_take_append TimelineEntry.timestamp sorted samples (by decide)]

/-- A timeline that raises nothing has made its samples. -/
theorem samples_of_timelineLines (opened : timelineWindow env config incident = .ok window)
    (succeeds : Succeeds (timelineLines env config store incident)) :
    Succeeds ((windowRows store .cpu window).mapM
      (sampleEntry (windowRows store .memory window))) := by
  have entries := succeeds.first
  rw [timelineEntries, opened, ok_bind] at entries
  exact entries.first

theorem timelineLine_succeeds_iff {entry : TimelineEntry} :
    Succeeds (timelineLine env entry) ↔ Succeeds (env.localTime entry.timestamp) := by
  refine ⟨fun succeeds => succeeds.first.first, fun known => ?_⟩
  exact (known.bind fun time _ => ⟨time.clock, rfl⟩).bind fun clock _ => ⟨_, rfl⟩

/-- The timeline raises nothing when its samples and its moments can be shown. -/
theorem timelineLines_succeeds_iff (opened : timelineWindow env config incident = .ok window) :
    Succeeds (timelineLines env config store incident) ↔ Readable env store window := by
  have rows : ∀ row, row ∈ windowRows store .cpu window ↔
      row ∈ store.metrics .cpu ∧ within window row.timestamp = true := by
    intro row
    rw [windowRows, mem_sortBy, List.mem_filter]
  have formatted : Succeeds ((windowRows store .cpu window).mapM
      (sampleEntry (windowRows store .memory window))) ↔
      ∀ row ∈ store.metrics .cpu, within window row.timestamp = true →
        (∃ value, row.column "cpu_percent" = .number value) ∧
          ∀ text, memoryAt (windowRows store .memory window) row.timestamp ≠ .text text := by
    simp only [Succeeds.mapM_iff, sampleEntry_succeeds_iff, rows, and_imp]
  -- once the samples are made, only the moments that are shown matter
  have shown : ∀ samples, (windowRows store .cpu window).mapM
      (sampleEntry (windowRows store .memory window)) = .ok samples →
      (Succeeds (timelineLines env config store incident) ↔
        ∀ time ∈ windowTimes store window,
          (windowTimes store window).countP (· < time) < 300 → Succeeds (env.localTime time)) := by
    intro samples made
    have times : (((windowEvents store window).map eventEntry ++ samples).map
        TimelineEntry.timestamp).Perm (windowTimes store window) := by
      rw [List.map_append, List.map_map, (samples_spec made).1]
      exact ((sortBy_perm _ _).map _).append ((sortBy_perm _ _).map _)
    rw [timelineLines_eq opened made, Succeeds.mapM_iff]
    simp only [timelineLine_succeeds_iff]
    rw [forall_take_sortBy_iff TimelineEntry.timestamp _ 300
      fun time => Succeeds (env.localTime time)]
    simp only [← times.mem_iff, ← times.countP_eq, List.forall_mem_map, List.countP_map]
    rfl
  constructor
  · intro succeeds
    obtain ⟨made, done⟩ := samples_of_timelineLines opened succeeds
    have each := formatted.mp ⟨made, done⟩
    exact ⟨fun row member inside => (each row member inside).1,
      fun row member inside => (each row member inside).2, (shown made done).mp succeeds⟩
  · intro readable
    obtain ⟨made, done⟩ := formatted.mpr fun row member inside =>
      ⟨readable.cpu row member inside, readable.memory row member inside⟩
    exact (shown made done).mpr readable.clock

/-- The entries before an event, counted without sorting. -/
theorem rank_eq_entriesBefore {event : Entry EventRow} {earlier later : List (Entry EventRow)}
    (stored : store.events.entries = earlier ++ event :: later) :
    rank (fun entry : Entry EventRow => entry.row.timestamp)
        (earlier.filter fun entry => within window entry.row.timestamp) event
        (later.filter fun entry => within window entry.row.timestamp) +
      ((store.metrics .cpu).filter fun row => within window row.timestamp).countP
        (fun row => row.timestamp < event.row.timestamp) = entriesBefore store window event := by
  have order := store.events.ascending
  rw [stored, List.pairwise_append, List.pairwise_cons] at order
  obtain ⟨-, ⟨above, -⟩, below⟩ := order
  have first : earlier.countP (fun other => within window other.row.timestamp &&
      (other.row.timestamp < event.row.timestamp ||
        other.row.timestamp = event.row.timestamp && other.id < event.id)) =
      (earlier.filter fun entry => within window entry.row.timestamp).countP
        fun other => other.row.timestamp ≤ event.row.timestamp := by
    rw [List.countP_filter]
    refine List.countP_congr fun other member => ?_
    have smaller : other.id < event.id := below other member event List.mem_cons_self
    simp [smaller, le_iff_lt_or_eq, and_comm]
  have second : later.countP (fun other => within window other.row.timestamp &&
      (other.row.timestamp < event.row.timestamp ||
        other.row.timestamp = event.row.timestamp && other.id < event.id)) =
      (later.filter fun entry => within window entry.row.timestamp).countP
        fun other => other.row.timestamp < event.row.timestamp := by
    rw [List.countP_filter]
    refine List.countP_congr fun other member => ?_
    have larger : ¬ other.id < event.id := (above other member).le.not_gt
    simp [larger, and_comm]
  rw [rank, entriesBefore, stored, List.countP_append, first,
    List.countP_cons_of_neg (by simp), second]
  congr 1
  rw [List.countP_filter]
  refine List.countP_congr fun row _ => ?_
  rw [Bool.and_comm]

/-- Only the entry that was made from an event names it. -/
theorem event_eq_some_iff {samples : List TimelineEntry}
    (unnamed : ∀ entry ∈ samples, entry.event = none) {event : Entry EventRow}
    (stored : event ∈ store.events.entries) {entry : TimelineEntry}
    (member : entry ∈ (windowEvents store window).map eventEntry ++ samples) :
    entry.event = some event.id ↔ entry = eventEntry event := by
  constructor
  · intro named
    rcases List.mem_append.mp member with made | sampled
    · obtain ⟨other, inside, rfl⟩ := List.mem_map.mp made
      have otherStored : other ∈ store.events.entries :=
        (List.mem_filter.mp ((mem_sortBy _).mp inside)).1
      rw [store.events.eq_of_id_eq otherStored stored (Option.some.inj named)]
    · rw [unnamed entry sampled] at named
      cases named
  · rintro rfl
    rfl

/-- Among sorted events, what stands before one of them are the earlier events
and the samples with a smaller time. -/
theorem rank_eventEntry {before after : List (Entry EventRow)} {event : Entry EventRow}
    {samples : List TimelineEntry}
    (below : ∀ entry ∈ before, entry.row.timestamp ≤ event.row.timestamp)
    (above : ∀ entry ∈ after, event.row.timestamp ≤ entry.row.timestamp) :
    rank TimelineEntry.timestamp (before.map eventEntry) (eventEntry event)
        (after.map eventEntry ++ samples) =
      before.length + samples.countP fun entry => entry.timestamp < event.row.timestamp := by
  have first : (before.map eventEntry).countP
      (fun entry => entry.timestamp ≤ (eventEntry event).timestamp) = before.length := by
    rw [List.countP_map, List.countP_eq_length]
    intro entry member
    exact decide_eq_true (below entry member)
  have second : (after.map eventEntry).countP
      (fun entry => entry.timestamp < (eventEntry event).timestamp) = 0 := by
    rw [List.countP_map, List.countP_eq_zero]
    intro entry member
    simpa [eventEntry] using above entry member
  rw [rank, first, List.countP_append, second, Nat.zero_add]
  rfl

/-- The samples with a smaller time are the rows of the window with one. -/
theorem countP_samples {samples : List TimelineEntry}
    (times : samples.map TimelineEntry.timestamp =
      (windowRows store .cpu window).map MetricRow.timestamp) (moment : Epoch) :
    (samples.countP fun entry => entry.timestamp < moment) =
      ((store.metrics .cpu).filter fun row => within window row.timestamp).countP
        fun row => row.timestamp < moment := by
  have counted := congrArg (List.countP fun time => decide (time < moment)) times
  rw [List.countP_map, List.countP_map] at counted
  exact counted.trans ((sortBy_perm _ _).countP_eq _)

/-- The place of an event among the entries of its window. -/
theorem mem_shown_iff {samples : List TimelineEntry} {event : Entry EventRow}
    (unnamed : ∀ entry ∈ samples, entry.event = none)
    (times : samples.map TimelineEntry.timestamp =
      (windowRows store .cpu window).map MetricRow.timestamp)
    (stored : event ∈ store.events.entries)
    (inside : within window event.row.timestamp = true) :
    eventEntry event ∈ (sortBy TimelineEntry.timestamp
        ((windowEvents store window).map eventEntry ++ samples)).take 300 ↔
      entriesBefore store window event < 300 := by
  obtain ⟨earlier, later, split⟩ := List.append_of_mem stored
  have selected : store.events.entries.filter (fun entry => within window entry.row.timestamp) =
      (earlier.filter fun entry => within window entry.row.timestamp) ++
        event :: later.filter fun entry => within window entry.row.timestamp := by
    rw [split, List.filter_append, List.filter_cons]
    exact congrArg _ (if_pos inside)
  obtain ⟨before, after, whole, without, length⟩ :=
    sortBy_split (fun entry : Entry EventRow => entry.row.timestamp)
      (earlier.filter fun entry => within window entry.row.timestamp) event
      (later.filter fun entry => within window entry.row.timestamp)
  rw [← selected] at whole
  have sorted := sortBy_sorted (fun entry : Entry EventRow => entry.row.timestamp)
    (store.events.entries.filter fun entry => within window entry.row.timestamp)
  rw [whole, List.pairwise_append, List.pairwise_cons] at sorted
  obtain ⟨-, ⟨above, -⟩, below⟩ := sorted
  -- no other stored event has this id
  have other : ∀ entry ∈ before ++ after, entry.id ≠ event.id := by
    intro entry member
    rw [← without, mem_sortBy, List.mem_append, List.mem_filter, List.mem_filter] at member
    have order := store.events.ascending
    rw [split, List.pairwise_append, List.pairwise_cons] at order
    rcases member with ⟨first, -⟩ | ⟨second, -⟩
    · exact (order.2.2 entry first event List.mem_cons_self).ne
    · exact (order.2.1.1 entry second).ne'
  have once : eventEntry event ∉ before.map eventEntry ++ (after.map eventEntry ++ samples) := by
    rw [← List.append_assoc, ← List.map_append, List.mem_append, not_or]
    constructor
    · intro member
      obtain ⟨entry, standing, same⟩ := List.mem_map.mp member
      exact other entry standing (Option.some.inj (congrArg TimelineEntry.event same))
    · intro sampled
      cases unnamed _ sampled
  have place : rank TimelineEntry.timestamp (before.map eventEntry) (eventEntry event)
      (after.map eventEntry ++ samples) = entriesBefore store window event := by
    have earlierEvents : ∀ entry ∈ before, entry.row.timestamp ≤ event.row.timestamp :=
      fun entry member => below entry member event List.mem_cons_self
    rw [rank_eventEntry earlierEvents above, countP_samples times, length,
      rank_eq_entriesBefore split]
  rw [windowEvents, whole, List.map_append, List.map_cons, List.append_assoc, List.cons_append,
    mem_take_sortBy_iff TimelineEntry.timestamp once, place]

/-- The lines are made from the entries one by one. -/
theorem lines_spec {entries : List TimelineEntry} {lines : List TimelineLine}
    (made : entries.mapM (timelineLine env) = .ok lines) :
    lines.map TimelineLine.entry = entries := by
  have steps := mapM_ok_iff.mp made
  clear made
  induction steps with
  | nil => rfl
  | cons first _ ih =>
    obtain ⟨clock, -, result⟩ := bind_ok_iff.mp first
    cases result
    rw [List.map_cons, ih]

/-- **An event of the window appears when the timeline is made and fewer than
300 entries come before the event.** -/
theorem appears_iff (opened : timelineWindow env config incident = .ok window)
    {event : Entry EventRow} (stored : event ∈ store.events.entries)
    (inside : within window event.row.timestamp = true) :
    Appears env config store incident event.id ↔
      Readable env store window ∧ entriesBefore store window event < 300 := by
  rw [← timelineLines_succeeds_iff opened]
  by_cases succeeds : Succeeds (timelineLines env config store incident)
  · obtain ⟨samples, made⟩ := samples_of_timelineLines opened succeeds
    obtain ⟨times, unnamed⟩ := samples_spec made
    rw [and_iff_right succeeds, ← mem_shown_iff unnamed times stored inside]
    obtain ⟨lines, done⟩ := succeeds
    have entries := lines_spec ((timelineLines_eq opened made).symm.trans done)
    rw [← entries]
    constructor
    · rintro ⟨again, result, line, member, named⟩
      cases done.symm.trans result
      have shown : line.entry ∈ lines.map TimelineLine.entry := List.mem_map_of_mem member
      rw [entries] at shown
      have known := (mem_sortBy _).mp (List.mem_of_mem_take shown)
      rw [(event_eq_some_iff unnamed stored known).mp named] at shown
      rwa [entries]
    · intro shown
      obtain ⟨line, member, same⟩ := List.mem_map.mp shown
      exact ⟨lines, done, line, member, by rw [same]; rfl⟩
  · refine iff_of_false ?_ fun both => succeeds both.1
    rintro ⟨lines, done, -⟩
    exact succeeds ⟨lines, done⟩

end Window

/-- **Every crash event of the window appears in the timeline exactly when the
timeline can be made and fewer than 300 entries come before each of them.** -/
theorem shows_crashes_iff (env : Environment) (config : Config) (store : ReportStore)
    (incident : StoredIncident) :
    ShowsCrashes env config store incident ↔
      ∀ window, timelineWindow env config incident = .ok window →
        ∀ entry, CrashIn store window entry →
          Readable env store window ∧ entriesBefore store window entry < 300 := by
  refine forall_congr' fun window => forall_congr' fun opened => forall_congr' fun entry => ?_
  refine forall_congr' fun crash => ?_
  exact appears_iff opened crash.1 crash.2.1

/-- Three hundred services report a change before the machine freezes. The event
of the restart is the entry after them and does not appear. -/
theorem busy_window_hides_crash :
    let env : Environment :=
      { localTime := utcTime, now := 2000, generatedAt := 2000, systemInfo := []
        templateReadable := true, prepend := none }
    let service : EventRow :=
      { timestamp := 1000, provider := some "Service Control Manager", eventId := some 7036
        sessionId := 1 }
    let restart : EventRow :=
      { timestamp := 1300, provider := some "Microsoft-Windows-Kernel-Power", eventId := some 41
        sessionId := 2 }
    let incident : StoredIncident :=
      { detectedAt := 1250, incidentType := some "HARD_HANG", confidence := some "HIGH"
        previousSessionId := some 1, lastMetricTimestamp := some 1030
        rebootTimestamp := some 1250, durationEstimate := some 220 }
    let store : ReportStore :=
      { sessions := .empty
        events := AutoTable.empty.insertAll (List.replicate 300 service ++ [restart])
        incidents := AutoTable.empty.insert incident, findings := .empty, metrics := fun _ => [] }
    ¬ ShowsCrashes env {} store incident := by
  intro env service restart incident store shows
  have opened : timelineWindow env {} incident = .ok (-770, 1550) := by decide +kernel
  have crash : CrashIn store (-770, 1550) ⟨301, restart⟩ := by decide +kernel
  obtain ⟨-, few⟩ := (appears_iff opened crash.1 crash.2.1).mp (shows _ opened _ crash)
  have many : entriesBefore store (-770, 1550) ⟨301, restart⟩ = 300 := by decide +kernel
  omega

end ReportGenerator

end PcDiagnosticAgent
