import PcDiagnosticAgent.Library.Dict
import PcDiagnosticAgent.Library.OptionalMax
import PcDiagnosticAgent.Storage.Connection
import Mathlib.Order.WithBot

/-!
# Temperatures

`collectors/temperature.py` from the text that `nvidia-smi` prints to the rows
that `insert_snapshot` stores. A line counts when it has two fields and the
second one is a number for `float`, which is a parameter. The readings go into a
dictionary under the name of the card, so of several cards with one name the
last one stays.

The stored maximum is the greatest finite reading exactly when a greatest
reading is the last one of its name and nothing infinite takes its place
(`keeps_maximum_iff`).
-/

set_option autoImplicit false

namespace PcDiagnosticAgent

open AutoTables Connection Dicts OptionalMax Transactions

namespace TemperatureCollector

/-! ## The output of nvidia-smi -/

abbrev Name := List Char

/-- The characters that end a line for `str.splitlines`. -/
def isLineBreak (c : Char) : Bool :=
  let code := c.toNat
  (10 ≤ code && code ≤ 13) || (28 ≤ code && code ≤ 30) || code == 0x85 || code == 0x2028 ||
    code == 0x2029

/-- `str.splitlines`, behind the part of a line that was read. A line feed after
a carriage return ends the same line. -/
def splitLines (line : List Char) (afterReturn : Bool) : List Char → List (List Char)
  | [] => if line.isEmpty then [] else [line]
  | c :: rest =>
    if afterReturn && c == '\n' then splitLines line false rest
    else if isLineBreak c then line :: splitLines [] (c == '\r') rest
    else splitLines (line ++ [c]) false rest

/-- The name and the number of a line, when it has them. -/
def reading (float : List Char → Option PyFloat) (line : List Char) : Option (Name × PyFloat) :=
  match (line.splitOn ',').map Text.strip with
  | name :: value :: _ => (float value).map fun temperature => (name, temperature)
  | _ => none

/-- The readings of the lines in their order. -/
def readings (float : List Char → Option PyFloat) (text : List Char) : List (Name × PyFloat) :=
  (splitLines [] false text).filterMap (reading float)

def nvidiaTemperatures (float : List Char → Option PyFloat) (text : List Char) :
    Dict Name PyFloat :=
  (splitLines [] false text).foldl (fun temps line =>
    match reading float line with
    | some (name, temperature) => temps.set name temperature
    | none => temps) .empty

def sensor (name : Name) : PyStr := PyStr.ofString (String.ofList ("gpu:".toList ++ name))

def row (card : Name × PyFloat) : PyValue :=
  .ofItems [("sensor", .str (sensor card.1)), ("temperature_c", .float card.2)]

def collect (float : List Char → Option PyFloat) (text : List Char) :
    List (String × List PyValue) :=
  [("metrics_temperature", (nvidiaTemperatures float text).entries.map row)]

/-! ## What a cycle stores -/

/-- The ids that SQLite assigns. -/
abbrev RowId := { id : ℤ // -2 ^ 63 ≤ id ∧ id < 2 ^ 63 }

/-- One cycle of the collector. -/
def cycle (connection : Connection Store) (float : List Char → Option PyFloat)
    (text : List Char) (now : ℚ) (session : RowId) : Connection Store × Except PyError ℕ :=
  insertSnapshot connection (collect float text) (.float (.finite now)) (.int session)

/-- Numbers with the infinities, in the order of SQLite. -/
abbrev Extended := WithBot (WithTop ℚ)

/-- The number in a cell; `MAX` ignores `NULL`. -/
def number? : Cell → Option Extended
  | .integer value => some ((value : ℚ) : WithTop ℚ)
  | .real (.finite value) => some (value : WithTop ℚ)
  | .real (.infinite true) => some ⊥
  | .real (.infinite false) => some (⊤ : WithTop ℚ)
  | _ => none

/-- `MAX(temperature_c)`. -/
def maxTemperature (rows : List Row) : Option Extended :=
  (rows.filterMap fun row => number? ((row.lookup "temperature_c").getD .null)).max?

/-- The rows of `metrics_temperature` that were added. -/
def added (before after : Store) : List Row :=
  (after.rows (.metric .temperature)).rows.drop (before.rows (.metric .temperature)).rows.length

/-! ## The dictionary -/

theorem lookup_nvidiaTemperatures (float : List Char → Option PyFloat) (text : List Char)
    (name : Name) :
    (nvidiaTemperatures float text).lookup name = Dict.lastOf (readings float text) name := by
  have loop : ∀ (lines : List (List Char)) (temps : Dict Name PyFloat),
      lines.foldl (fun temps line =>
        match reading float line with
        | some (name, temperature) => temps.set name temperature
        | none => temps) temps =
      (lines.filterMap (reading float)).foldl (fun temps card => temps.set card.1 card.2)
        temps := by
    intro lines
    induction lines with
    | nil => exact fun _ => rfl
    | cons line lines ih =>
      intro temps
      rw [List.foldl_cons, ih, List.filterMap_cons]
      cases reading float line <;> rfl
  rw [nvidiaTemperatures, loop, Dict.lookup_foldl_set, Dict.lookup_empty, Option.or_none]
  rfl

/-! ## Storing the rows -/

/-- How a temperature is stored; no number is stored as `NULL`. -/
def cell (temperature : PyFloat) : Cell :=
  if temperature = .nan then .null else .real temperature

/-- The stored row of a card. -/
def storedRow (now : ℚ) (session : RowId) (card : Name × PyFloat) : Row :=
  [("timestamp", .real (.finite now)), ("session_id", .integer session),
    ("sensor", .text (sensor card.1)), ("temperature_c", cell card.2)]

theorem snapshotValues_row (timestamp session : PyValue) (card : Name × PyFloat) :
    snapshotValues .temperature timestamp session (row card) =
      .ok [timestamp, session, .str (sensor card.1), .float card.2] := by
  have other : PyStr.ofString "sensor" ≠ PyStr.ofString "temperature_c" := by decide +kernel
  simp [snapshotValues, MetricTable.columns, row, PyValue.ofItems, PyValue.get, PyValue.item?,
    PyValue.text, other]
  rfl

theorem insert_row (connection : Connection Store) (now : ℚ) (session : RowId)
    (card : Name × PyFloat) :
    Connection.insert connection (.metric .temperature) (snapshotColumns .temperature)
        [.float (.finite now), .int session, .str (sensor card.1), .float card.2] =
      .ok { connection with
        working := addRow connection.working (.metric .temperature)
          (storedRow now session card) } := by
  have bound : Connection.bind (.float card.2) = .ok (cell card.2) := by
    cases card.2 <;> rfl
  have name : Connection.bind (.str (sensor card.1)) = .ok (.text (sensor card.1)) :=
    if_pos (PyStr.encodable_ofString _)
  have id : Connection.bind (.int session) = .ok (.integer session) := if_pos session.2
  have time : Connection.bind (.float (.finite now)) = .ok (.real (.finite now)) := rfl
  have cells : bindRow (snapshotColumns .temperature) ["timestamp"]
      [.float (.finite now), .int session, .str (sensor card.1), .float card.2] =
      .ok (storedRow now session card) := by
    simp only [bindRow, List.mapM_cons, List.mapM_nil, time, id, name, bound, ok_bind]
    rfl
  rw [Connection.insert, TableName.notNull, cells]
  rfl

/-- **A cycle stores a row for every card of the dictionary.** -/
theorem added_cycle (connection : Connection Store) (float : List Char → Option PyFloat)
    (text : List Char) (now : ℚ) (session : RowId) :
    added connection.working (cycle connection float text now session).1.working =
      (nvidiaTemperatures float text).entries.map (storedRow now session) := by
  have loop : ∀ (cards : List (Name × PyFloat)) (connection : Connection Store),
      ∃ next, insertRows (.metric .temperature) (snapshotColumns .temperature)
          (snapshotValues .temperature (.float (.finite now)) (.int session)) connection
          (cards.map row) = (next, .ok cards.length) ∧
        (next.working.rows (.metric .temperature)).rows =
          (connection.working.rows (.metric .temperature)).rows ++
            cards.map (storedRow now session) := by
    intro cards
    induction cards with
    | nil => exact fun connection => ⟨connection, rfl, (List.append_nil _).symm⟩
    | cons card cards ih =>
      intro connection
      obtain ⟨next, rest, rows⟩ := ih { connection with
        working := addRow connection.working (.metric .temperature) (storedRow now session card) }
      refine ⟨next, ?_, ?_⟩
      · simp only [List.map_cons, insertRows, snapshotValues_row, insert_row, rest]
        rfl
      · rw [rows]
        simp [addRow]
  obtain ⟨next, inserted, rows⟩ := loop (nvidiaTemperatures float text).entries connection
  have done : (cycle connection float text now session).1.working = next.working := by
    have named : MetricTable.ofName? "metrics_temperature" = some .temperature :=
      MetricTable.ofName?_name .temperature
    simp only [cycle, insertSnapshot, collect, insertTables, named, inserted]
    rfl
  rw [added, done, rows, List.drop_left]

/-! ## The stored maximum -/

/-- A temperature as `MAX` sees it once it is stored. -/
def extended (temperature : PyFloat) : Option Extended := number? (cell temperature)

theorem maxTemperature_stored (now : ℚ) (session : RowId) (cards : List (Name × PyFloat)) :
    maxTemperature (cards.map (storedRow now session)) =
      (cards.filterMap fun card => extended card.2).max? := by
  rw [maxTemperature, List.filterMap_map]
  rfl

/-- What the last readings of the names store. -/
def lastValues (readings : List (Name × PyFloat)) : Set Extended :=
  {value | ∃ name last, Dict.lastOf readings name = some last ∧ extended last = some value}

/-- The stored temperatures are the last ones of the names. -/
theorem maxTemperature_greatest (connection : Connection Store)
    (float : List Char → Option PyFloat) (text : List Char) (now : ℚ) (session : RowId) :
    Greatest (lastValues (readings float text))
      (maxTemperature (added connection.working
        (cycle connection float text now session).1.working)) := by
  rw [added_cycle, maxTemperature_stored]
  have members : lastValues (readings float text) = {value | value ∈
      (nvidiaTemperatures float text).entries.filterMap fun card => extended card.2} := by
    ext value
    simp only [lastValues, Set.mem_ofPred_eq, List.mem_filterMap, Prod.exists, Dict.mem_entries_iff,
      lookup_nvidiaTemperatures]
  rw [members]
  exact Greatest.max? _

/-- The readings that are finite numbers. -/
def finiteReadings (readings : List (Name × PyFloat)) : List ℚ :=
  readings.filterMap fun card =>
    match card.2 with
    | .finite value => some value
    | _ => none

theorem mem_finiteReadings {readings : List (Name × PyFloat)} {value : ℚ} :
    value ∈ finiteReadings readings ↔ ∃ name, (name, .finite value) ∈ readings := by
  rw [finiteReadings, List.mem_filterMap]
  constructor
  · rintro ⟨⟨name, temperature⟩, member, same⟩
    cases temperature with
    | finite other =>
      cases same
      exact ⟨name, member⟩
    | infinite negative => cases same
    | nan => cases same
  · rintro ⟨name, member⟩
    exact ⟨_, member, rfl⟩

/-- The order of the finite numbers among the extended ones. -/
def embed (value : ℚ) : Extended := (value : WithTop ℚ)

theorem embed_le_iff {first second : ℚ} : embed first ≤ embed second ↔ first ≤ second := by
  rw [embed, embed, WithBot.coe_le_coe, WithTop.coe_le_coe]

/-- Only a finite temperature is stored as this number. -/
theorem finite_of_extended {temperature : PyFloat} {value : ℚ}
    (seen : extended temperature = some (embed value)) : temperature = .finite value := by
  cases temperature with
  | finite number =>
    have same := Option.some.inj seen
    rw [le_antisymm (embed_le_iff.mp same.le) (embed_le_iff.mp same.ge)]
  | infinite negative =>
    cases negative with
    | true => exact absurd (Option.some.inj seen).symm WithBot.coe_ne_bot
    | false => exact absurd (WithBot.coe_injective (Option.some.inj seen)).symm WithTop.coe_ne_top
  | nan => cases seen

/-- A greatest reading is the last one of its name, and no infinite number takes
its place. -/
structure HottestKept (readings : List (Name × PyFloat)) : Prop where
  kept : ∀ name value, (name, PyFloat.finite value) ∈ readings →
    ∃ other last, Dict.lastOf readings other = some (.finite last) ∧ value ≤ last
  below : ∀ name, Dict.lastOf readings name ≠ some (.infinite false)
  none : (∀ name value, (name, PyFloat.finite value) ∉ readings) →
    ∀ name, Dict.lastOf readings name ≠ some (.infinite true)

/-- Without a finite reading nothing is stored exactly when no last reading is
infinite. -/
theorem lastValues_empty_iff {readings : List (Name × PyFloat)}
    (absent : ∀ name value, (name, PyFloat.finite value) ∉ readings) :
    lastValues readings = ∅ ↔ HottestKept readings := by
  constructor
  · intro nothing
    have free : ∀ name last, Dict.lastOf readings name = some last → extended last = none := by
      intro name last known
      refine Option.eq_none_iff_forall_ne_some.mpr fun value seen => ?_
      have inside : value ∈ (∅ : Set Extended) := nothing ▸ ⟨name, last, known, seen⟩
      exact inside
    refine ⟨fun name value member => absurd member (absent name value), fun name last => ?_,
      fun _ name last => ?_⟩
    · cases free name _ last
    · cases free name _ last
  · intro kept
    refine Set.eq_empty_iff_forall_notMem.mpr ?_
    rintro value ⟨name, last, known, seen⟩
    cases last with
    | finite number => exact absent name number (Dict.lastOf_mem known)
    | infinite negative =>
      cases negative with
      | true => exact kept.none absent name known
      | false => exact kept.below name known
    | nan => cases seen

/-- The greatest finite reading is the greatest that is stored exactly when it
is the last one of some name and nothing infinite is above it. -/
theorem lastValues_greatest_iff {readings : List (Name × PyFloat)} {best : ℚ}
    (greatest : IsGreatest {value | value ∈ finiteReadings readings} best) :
    IsGreatest (lastValues readings) (embed best) ↔ HottestKept readings := by
  obtain ⟨bestName, bestRead⟩ := mem_finiteReadings.mp greatest.1
  constructor
  · rintro ⟨⟨name, last, known, seen⟩, bound⟩
    refine ⟨fun other value member => ?_, fun other infinite => ?_, fun nothing => ?_⟩
    · rw [finite_of_extended seen] at known
      exact ⟨name, best, known, greatest.2 (mem_finiteReadings.mpr ⟨other, member⟩)⟩
    · have above : ((⊤ : WithTop ℚ) : Extended) ≤ embed best := bound ⟨other, _, infinite, rfl⟩
      have top : (⊤ : WithTop ℚ) ≤ (best : WithTop ℚ) := WithBot.coe_le_coe.mp above
      exact absurd (top_le_iff.mp top) WithTop.coe_ne_top
    · exact absurd bestRead (nothing bestName best)
  · intro kept
    obtain ⟨other, last, known, above⟩ := kept.kept bestName best bestRead
    have same : last = best :=
      le_antisymm (greatest.2 (mem_finiteReadings.mpr ⟨other, Dict.lastOf_mem known⟩)) above
    subst same
    refine ⟨⟨other, _, known, rfl⟩, ?_⟩
    rintro value ⟨name, temperature, stored, seen⟩
    cases temperature with
    | finite number =>
      cases seen
      exact embed_le_iff.mpr (greatest.2 (mem_finiteReadings.mpr ⟨name, Dict.lastOf_mem stored⟩))
    | infinite negative =>
      cases negative with
      | true =>
        cases seen
        exact bot_le
      | false => exact absurd stored (kept.below name)
    | nan => cases seen

/-- The greatest finite reading is the greatest of the last ones. -/
theorem greatest_last_iff (readings : List (Name × PyFloat)) :
    Greatest (lastValues readings) ((finiteReadings readings).max?.map embed) ↔
      HottestKept readings := by
  have greatest := Greatest.max? (finiteReadings readings)
  cases hottest : (finiteReadings readings).max? with
  | none =>
    refine lastValues_empty_iff fun name value member => ?_
    have found := mem_finiteReadings.mpr ⟨name, member⟩
    rw [List.max?_eq_none_iff.mp hottest] at found
    cases found
  | some best =>
    rw [hottest] at greatest
    exact lastValues_greatest_iff greatest

/-- **The maximum that a cycle stores is that of the finite readings exactly when
a greatest reading is the last one of its name and nothing infinite takes its
place.** -/
theorem keeps_maximum_iff (connection : Connection Store) (float : List Char → Option PyFloat)
    (text : List Char) (now : ℚ) (session : RowId) :
    maxTemperature (added connection.working
        (cycle connection float text now session).1.working) =
        (finiteReadings (readings float text)).max?.map embed ↔
      HottestKept (readings float text) := by
  have stored := maxTemperature_greatest connection float text now session
  rw [← greatest_last_iff]
  constructor
  · intro same
    rwa [same] at stored
  · intro greatest
    exact stored.unique greatest

/-- Two cards of one model, and the first one is too hot. What is stored is the
temperature of the second one. -/
theorem cool_twin_hides_hot_card :
    let float (text : List Char) : Option PyFloat :=
      if text ≠ [] ∧ text.all Char.isDigit then
        some (.finite (text.foldl (fun number digit => 10 * number + (digit.toNat - 48)) 0 : ℕ))
      else none
    let text := "NVIDIA RTX A4000, 97\nNVIDIA RTX A4000, 40\n".toList
    let store : Store :=
      { rows := fun _ => .empty, heartbeat := none, agentState := fun _ => none }
    let connection : Connection Store := ⟨store, store⟩
    let after := (cycle connection float text 1000 ⟨1, by decide⟩).1
    maxTemperature (added connection.working after.working) ≠
      (finiteReadings (readings float text)).max?.map embed := by
  intro float text store connection after same
  have read : readings float text = [("NVIDIA RTX A4000".toList, .finite 97),
      ("NVIDIA RTX A4000".toList, .finite 40)] := by decide +kernel
  have greatest := maxTemperature_greatest connection float text 1000 ⟨1, by decide⟩
  rw [same, greatest_last_iff, read] at greatest
  obtain ⟨other, last, known, above⟩ := greatest.kept _ 97 List.mem_cons_self
  have name : other = "NVIDIA RTX A4000".toList := by
    rcases List.mem_cons.mp (Dict.lastOf_mem known) with first | rest
    · exact congrArg Prod.fst first
    · exact congrArg Prod.fst (List.mem_singleton.mp rest)
  subst name
  have second : Dict.lastOf [("NVIDIA RTX A4000".toList, PyFloat.finite 97),
      ("NVIDIA RTX A4000".toList, .finite 40)] "NVIDIA RTX A4000".toList =
      some (.finite 40) := by decide +kernel
  cases second.symm.trans known
  exact absurd above (by decide +kernel)

end TemperatureCollector

end PcDiagnosticAgent
