import PcDiagnosticAgent.Collectors.Temperature
import PcDiagnosticAgent.PyFloat

/-!
# Graphics cards

`collectors/gpu.py` from what PowerShell and `nvidia-smi` print to the rows of a
snapshot. The cards are objects in JSON, whose values may be of any type; the live
figures come line by line under the name of a card. What JSON, `float` and `int`
make of a text are parameters.

A figure or a card that cannot be used fails the whole collector, so the cycle
then stores no card at all. What cannot be used is an infinite amount of memory,
an amount that is no number, and a name that has no hash; everything else ends up
as a row or as nothing (`gpus_collected`).
-/

set_option autoImplicit false

namespace PcDiagnosticAgent

open Dicts

namespace GpuCollector

open TemperatureCollector (splitLines)

/-- What the collector asks: the JSON value PowerShell printed, if there is one,
the text of `nvidia-smi`, if it is there and ran, and the readers of numbers. -/
structure Answers where
  controllers : Option PyValue
  nvidiaSmi : Option (List Char)
  float : List Char → Option PyFloat
  int : PyStr → Option ℤ

structure Card where
  name : PyValue
  driverVersion : PyValue
  adapterRam : Option ℤ

structure Stats where
  utilization : Option PyFloat := none
  memoryUsed : Option ℤ := none
  memoryTotal : Option ℤ := none
  temperatureC : Option PyFloat := none

/-! ## Numbers -/

/-- `int` of a float towards zero. -/
def truncate (value : ℚ) : ℤ := if value < 0 then -(-value).floor else value.floor

/-- `_to_int`. What is no number gives nothing; an infinity overflows. -/
def toInt (int : PyStr → Option ℤ) : PyValue → Except PyError (Option ℤ)
  | .bool value => .ok (some (if value then 1 else 0))
  | .int value => .ok (some value)
  | .float (.finite value) => .ok (some (truncate value))
  | .float (.infinite _) => .error .other
  | .str text => .ok (int text)
  | _ => .ok none

/-- `_mb_to_bytes` of a figure that `float` has read. -/
def mbToBytes : Option PyFloat → Except PyError (Option ℤ)
  | none => .ok none
  | some megabytes =>
    match (megabytes.mul (.finite 1024)).mul (.finite 1024) with
    | .finite bytes => .ok (some (truncate bytes))
    | _ => .error .other

/-! ## The readers -/

/-- The live figures of a line and the name they are under, if it has all fields. -/
def lineStats (answers : Answers) (line : List Char) : Except PyError (Option (PyStr × Stats)) :=
  match (line.splitOn ',').map Text.strip with
  | name :: utilization :: used :: total :: temperature :: _ => do
    let memoryUsed ← mbToBytes (answers.float used)
    let memoryTotal ← mbToBytes (answers.float total)
    return some (name.map Char.toNat,
      { utilization := answers.float utilization, memoryUsed, memoryTotal
        temperatureC := answers.float temperature })
  | _ => return none

/-- `_nvidia_smi_stats`; without `nvidia-smi` there are none. -/
def nvidiaSmiStats (answers : Answers) : Except PyError (Dict PyStr Stats) :=
  match answers.nvidiaSmi with
  | none => return .empty
  | some text => do
    let lines ← (splitLines [] false text).mapM (lineStats answers)
    return (lines.filterMap id).foldl (fun stats line => stats.set line.1 line.2) .empty

/-- The values a loop over the JSON value goes through; a text only has texts, and
other values have no loop. -/
def items : Option PyValue → Except PyError (List PyValue)
  | none => .ok []
  | some (.dict object) => .ok [.dict object]
  | some (.list items) => .ok items
  | some (.str _) => .ok []
  | some _ => .error .other

def object? : PyValue → Option (List (PyValue × PyValue))
  | .dict object => some object
  | _ => none

def cardOf (answers : Answers) (object : List (PyValue × PyValue)) : Except PyError Card := do
  let adapterRam ← toInt answers.int ((PyValue.item? object "AdapterRAM").getD .none)
  return { name := (PyValue.item? object "Name").getD .none
           driverVersion := (PyValue.item? object "DriverVersion").getD .none, adapterRam }

/-- `_video_controllers`. -/
def videoControllers (answers : Answers) : Except PyError (List Card) := do
  let data ← items answers.controllers
  (data.filterMap object?).mapM (cardOf answers)

/-! ## The collector -/

/-- `nvidia_stats.get(name, {})`; only texts are keys, and lists and dictionaries
have no hash. -/
def statsOf (stats : Dict PyStr Stats) : PyValue → Except PyError Stats
  | .str name => .ok ((stats.lookup name).getD {})
  | .list _ => .error .other
  | .dict _ => .error .other
  | _ => .ok {}

def floatOrNone (value : Option PyFloat) : PyValue := (value.map PyValue.float).getD .none

def intOrNone (value : Option ℤ) : PyValue := (value.map PyValue.int).getD .none

def row (card : Card) (stats : Stats) : PyValue :=
  .ofItems [("gpu_name", card.name), ("utilization", floatOrNone stats.utilization),
    ("memory_used", intOrNone stats.memoryUsed),
    ("memory_total", intOrNone ((card.adapterRam.filter (· ≠ 0)).or stats.memoryTotal)),
    ("temperature_c", floatOrNone stats.temperatureC), ("driver_version", card.driverVersion)]

/-- `GpuCollector.collect`. -/
def collect (answers : Answers) : Except PyError (List (String × List PyValue)) := do
  let cards ← videoControllers answers
  let stats ← nvidiaSmiStats answers
  let rows ← cards.mapM fun card => do return row card (← statsOf stats card.name)
  return [("metrics_gpu", rows)]

/-! ## What can be used -/

/-- An amount of memory is no figure at all, or one that stays finite in bytes. -/
def Measurable (megabytes : Option PyFloat) : Prop :=
  ∀ figure ∈ megabytes, ∃ bytes, (figure.mul (.finite 1024)).mul (.finite 1024) = .finite bytes

def Hashable : PyValue → Prop
  | .list _ | .dict _ => False
  | _ => True

def Loops : Option PyValue → Prop
  | none | some (.dict _) | some (.list _) | some (.str _) => True
  | _ => False

/-- The cards among the values. -/
def objects (controllers : Option PyValue) : List (List (PyValue × PyValue)) :=
  ((items controllers).toOption.getD []).filterMap object?

def nameOf (object : List (PyValue × PyValue)) : PyValue :=
  (PyValue.item? object "Name").getD .none

def ramOf (object : List (PyValue × PyValue)) : PyValue :=
  (PyValue.item? object "AdapterRAM").getD .none

def lines (answers : Answers) : List (List Char) :=
  (answers.nvidiaSmi.map (splitLines [] false)).getD []

/-- The memory of a line, if it has all fields: used and total. -/
def memoryOf (answers : Answers) (line : List Char) : Option (Option PyFloat × Option PyFloat) :=
  match (line.splitOn ',').map Text.strip with
  | _ :: _ :: used :: total :: _ :: _ => some (answers.float used, answers.float total)
  | _ => none

/-- Nothing of what was answered fails the collector. -/
structure Usable (answers : Answers) : Prop where
  loops : Loops answers.controllers
  ram : ∀ object ∈ objects answers.controllers, ∀ negative,
    ramOf object ≠ .float (.infinite negative)
  figures : ∀ line ∈ lines answers, ∀ memory ∈ memoryOf answers line,
    Measurable memory.1 ∧ Measurable memory.2
  names : ∀ object ∈ objects answers.controllers, Hashable (nameOf object)

theorem toInt_succeeds_iff {int : PyStr → Option ℤ} {value : PyValue} :
    Succeeds (toInt int value) ↔ ∀ negative, value ≠ .float (.infinite negative) := by
  fun_cases toInt int value with
  | case4 negative =>
    refine iff_of_false ?_ fun all => all negative rfl
    rintro ⟨number, made⟩
    cases made
  | case6 value _ _ _ notInfinite _ =>
    exact iff_of_true ⟨_, rfl⟩ fun negative same => notInfinite negative same
  | _ => exact iff_of_true ⟨_, rfl⟩ (by simp)

theorem mbToBytes_succeeds_iff {megabytes : Option PyFloat} :
    Succeeds (mbToBytes megabytes) ↔ Measurable megabytes := by
  cases megabytes with
  | none => exact iff_of_true ⟨_, rfl⟩ (by simp [Measurable])
  | some figure =>
    cases bytes : (figure.mul (.finite 1024)).mul (.finite 1024) with
    | finite value => simp [mbToBytes, Measurable, Succeeds, bytes]
    | infinite negative => simp [mbToBytes, Measurable, Succeeds, bytes]
    | nan => simp [mbToBytes, Measurable, Succeeds, bytes]

theorem statsOf_succeeds_iff {stats : Dict PyStr Stats} {name : PyValue} :
    Succeeds (statsOf stats name) ↔ Hashable name := by
  cases name <;> simp [statsOf, Hashable, Succeeds]

theorem items_succeeds_iff {controllers : Option PyValue} :
    Succeeds (items controllers) ↔ Loops controllers := by
  cases controllers with
  | none => simp [items, Loops, Succeeds]
  | some value => cases value <;> simp [items, Loops, Succeeds]

theorem lineStats_succeeds_iff {answers : Answers} {line : List Char} :
    Succeeds (lineStats answers line) ↔
      ∀ memory ∈ memoryOf answers line, Measurable memory.1 ∧ Measurable memory.2 := by
  rw [lineStats, memoryOf]
  generalize (line.splitOn ',').map Text.strip = fields
  rcases fields with _ | ⟨name, _ | ⟨utilization, _ | ⟨used, _ | ⟨total, _ | ⟨temperature, _⟩⟩⟩⟩⟩
  case cons.cons.cons.cons.cons =>
    simp only [Option.mem_def, Option.some.injEq, forall_eq', ← mbToBytes_succeeds_iff]
    constructor
    · intro succeeds
      obtain ⟨bytes, made⟩ := succeeds.first
      exact ⟨⟨bytes, made⟩, (succeeds.next made).first⟩
    · rintro ⟨first, second⟩
      exact first.bind fun _ _ => second.bind fun _ _ => ⟨_, rfl⟩
  all_goals exact iff_of_true ⟨_, rfl⟩ (by simp)

/-! ## The stored rows -/

/-- The live figures, line by line under the names of the cards. -/
def readings (answers : Answers) : List (PyStr × Stats) :=
  (lines answers).filterMap fun line => (lineStats answers line).toOption.join

/-- The figures under the name of a card; of several lines with one name the last
one counts. -/
def figuresOf (answers : Answers) : PyValue → Stats
  | .str name => (Dict.lastOf (readings answers) name).getD {}
  | _ => {}

def rowOf (answers : Answers) (object : List (PyValue × PyValue)) : PyValue :=
  row { name := nameOf object
        driverVersion := (PyValue.item? object "DriverVersion").getD .none
        adapterRam := (toInt answers.int (ramOf object)).toOption.join }
    (figuresOf answers (nameOf object))

/-- A loop that raises nothing has the results that the steps have. -/
theorem eq_map_of_mapM {First Second : Type} {step : First → Except PyError Second}
    {items : List First} {results : List Second} (made : items.mapM step = .ok results)
    {result : First → Second}
    (each : ∀ item value, step item = .ok value → value = result item) :
    results = items.map result := by
  have steps := mapM_ok_iff.mp made
  clear made
  induction steps with
  | nil => rfl
  | cons first _ ih => rw [List.map_cons, ← ih, each _ _ first]

theorem nvidiaSmiStats_lookup {answers : Answers} {stats : Dict PyStr Stats}
    (made : nvidiaSmiStats answers = .ok stats) (name : PyStr) :
    stats.lookup name = Dict.lastOf (readings answers) name := by
  unfold nvidiaSmiStats at made
  unfold readings lines
  cases printed : answers.nvidiaSmi with
  | none =>
    rw [printed] at made
    cases made
    rfl
  | some text =>
    rw [printed] at made
    obtain ⟨found, each, result⟩ := bind_ok_iff.mp made
    cases result
    have found : found = (splitLines [] false text).map
        fun line => (lineStats answers line).toOption.join :=
      eq_map_of_mapM each fun line value read => by rw [read]; rfl
    rw [Dict.lookup_foldl_set, Dict.lookup_empty, Option.or_none, found, List.filterMap_map]
    rfl

theorem nvidiaSmiStats_succeeds_iff {answers : Answers} :
    Succeeds (nvidiaSmiStats answers) ↔ ∀ line ∈ lines answers,
      ∀ memory ∈ memoryOf answers line, Measurable memory.1 ∧ Measurable memory.2 := by
  simp only [← lineStats_succeeds_iff]
  unfold nvidiaSmiStats lines
  cases answers.nvidiaSmi with
  | none => exact iff_of_true ⟨_, rfl⟩ fun _ member => absurd member List.not_mem_nil
  | some text =>
    refine Iff.trans ?_ Succeeds.mapM_iff
    exact ⟨Succeeds.first, fun succeeds => succeeds.bind fun _ _ => ⟨_, rfl⟩⟩

theorem cardOf_succeeds_iff {answers : Answers} {object : List (PyValue × PyValue)} :
    Succeeds (cardOf answers object) ↔ ∀ negative, ramOf object ≠ .float (.infinite negative) := by
  rw [← toInt_succeeds_iff]
  exact ⟨Succeeds.first, fun succeeds => succeeds.bind fun _ _ => ⟨_, rfl⟩⟩

theorem videoControllers_succeeds_iff {answers : Answers} :
    Succeeds (videoControllers answers) ↔ Loops answers.controllers ∧
      ∀ object ∈ objects answers.controllers, ∀ negative,
        ramOf object ≠ .float (.infinite negative) := by
  simp only [videoControllers, Succeeds.bind_iff, Succeeds.mapM_iff, cardOf_succeeds_iff,
    ← items_succeeds_iff, objects]
  constructor
  · rintro ⟨data, found, all⟩
    rw [found]
    exact ⟨⟨data, rfl⟩, all⟩
  · rintro ⟨⟨data, found⟩, all⟩
    rw [found] at all
    exact ⟨data, found, all⟩

/-- The cards as their objects say. -/
theorem videoControllers_eq {answers : Answers} {cards : List Card}
    (made : videoControllers answers = .ok cards) :
    cards = (objects answers.controllers).map fun object =>
      { name := nameOf object
        driverVersion := (PyValue.item? object "DriverVersion").getD .none
        adapterRam := (toInt answers.int (ramOf object)).toOption.join } := by
  obtain ⟨data, found, each⟩ := bind_ok_iff.mp made
  rw [objects, found]
  refine eq_map_of_mapM each fun object card read => ?_
  obtain ⟨ram, number, result⟩ := bind_ok_iff.mp read
  cases result
  rw [ramOf, number]
  rfl

theorem statsOf_eq {answers : Answers} {stats : Dict PyStr Stats}
    (made : nvidiaSmiStats answers = .ok stats) {name : PyValue} {found : Stats}
    (answered : statsOf stats name = .ok found) : found = figuresOf answers name := by
  cases name with
  | str name =>
    rw [statsOf, nvidiaSmiStats_lookup made] at answered
    exact (Except.ok.inj answered).symm
  | list => cases answered
  | dict => cases answered
  | _ => exact (Except.ok.inj answered).symm

theorem collect_ok_iff {answers : Answers} {snapshot : List (String × List PyValue)} :
    collect answers = .ok snapshot ↔ ∃ cards stats rows, videoControllers answers = .ok cards ∧
      nvidiaSmiStats answers = .ok stats ∧
      cards.mapM (fun card => do return row card (← statsOf stats card.name)) = .ok rows ∧
      snapshot = [("metrics_gpu", rows)] := by
  constructor
  · intro made
    obtain ⟨cards, listed, made⟩ := bind_ok_iff.mp made
    obtain ⟨stats, read, made⟩ := bind_ok_iff.mp made
    obtain ⟨rows, each, made⟩ := bind_ok_iff.mp made
    exact ⟨cards, stats, rows, listed, read, each, (Except.ok.inj made).symm⟩
  · rintro ⟨cards, stats, rows, listed, read, each, rfl⟩
    rw [collect, listed, ok_bind, read, ok_bind, each]
    rfl

theorem collect_succeeds_iff {answers : Answers} : Succeeds (collect answers) ↔ Usable answers := by
  have named : ∀ (cards : List Card) (stats : Dict PyStr Stats),
      Succeeds (cards.mapM fun card => do return row card (← statsOf stats card.name)) ↔
        ∀ card ∈ cards, Hashable card.name := by
    intro cards stats
    rw [Succeeds.mapM_iff]
    refine forall₂_congr fun card _ => ?_
    have hashed : Succeeds (statsOf stats card.name) ↔ Hashable card.name := statsOf_succeeds_iff
    rw [← hashed]
    exact ⟨Succeeds.first, fun succeeds => succeeds.bind fun _ _ => ⟨_, rfl⟩⟩
  constructor
  · rintro ⟨snapshot, made⟩
    obtain ⟨cards, stats, rows, listed, read, each, -⟩ := collect_ok_iff.mp made
    obtain ⟨loops, ram⟩ := videoControllers_succeeds_iff.mp ⟨cards, listed⟩
    refine ⟨loops, ram, nvidiaSmiStats_succeeds_iff.mp ⟨stats, read⟩, fun object member => ?_⟩
    have all := (named cards stats).mp ⟨rows, each⟩
    rw [videoControllers_eq listed, List.forall_mem_map] at all
    exact all object member
  · intro usable
    obtain ⟨cards, listed⟩ := videoControllers_succeeds_iff.mpr ⟨usable.loops, usable.ram⟩
    obtain ⟨stats, read⟩ := nvidiaSmiStats_succeeds_iff.mpr usable.figures
    obtain ⟨rows, each⟩ := (named cards stats).mpr fun card member => by
      rw [videoControllers_eq listed] at member
      obtain ⟨object, among, rfl⟩ := List.mem_map.mp member
      exact usable.names object among
    exact ⟨_, collect_ok_iff.mpr ⟨cards, stats, rows, listed, read, each, rfl⟩⟩

/-- **The collector fails exactly on what it cannot use, and then stores no card;
otherwise it stores one row for each card, with the live figures of the last line
under its name.** -/
theorem gpus_collected (answers : Answers) :
    match collect answers with
    | .ok snapshot => Usable answers ∧
        snapshot = [("metrics_gpu", (objects answers.controllers).map (rowOf answers))]
    | .error _ => ¬ Usable answers := by
  cases made : collect answers with
  | ok snapshot =>
    obtain ⟨cards, stats, rows, listed, read, each, rfl⟩ := collect_ok_iff.mp made
    refine ⟨collect_succeeds_iff.mp ⟨_, made⟩, ?_⟩
    have stored : rows = cards.map fun card => row card (figuresOf answers card.name) := by
      refine eq_map_of_mapM each fun card value formed => ?_
      obtain ⟨found, answered, result⟩ := bind_ok_iff.mp formed
      cases result
      rw [statsOf_eq read answered]
    rw [stored, videoControllers_eq listed, List.map_map]
    rfl
  | error error =>
    intro usable
    obtain ⟨snapshot, succeeded⟩ := collect_succeeds_iff.mpr usable
    rw [made] at succeeded
    cases succeeded

end GpuCollector

end PcDiagnosticAgent
