import PcDiagnosticAgent.Storage.Schema
import Mathlib.Data.List.Basic

/-!
# Event classification

`diagnostics/event_analyzer.py`: every event falls into one category by a
chain of tests on its provider, its normalised id and its message, and a list
of events is folded into counts and lists by category.

The fold is summed up by two lemmas: the list of a category is the events of
that category in their order (`byCategory_tally`), and its count is the length
of that list (`counts_tally`). A flag of the summary is then the presence of
an event of its category (`summarize_flags`), whatever the other events and
their order.
-/

set_option autoImplicit false

namespace PcDiagnosticAgent

namespace EventAnalyzer

/-- The categories `classify_event` returns. -/
inductive Category where
  | kernelPower
  | bugcheck
  | whea
  | disk
  | display
  | shutdownClean
  | shutdownUnexpected
  | serviceControl
  | other
deriving DecidableEq, Repr

def kernelPowerProviders : List String := ["Microsoft-Windows-Kernel-Power", "Kernel-Power"]

def bugcheckProviders : List String :=
  ["Microsoft-Windows-WER-SystemErrorReporting", "BugCheck",
    "Microsoft-Windows-WER-SystemErrorReporting "]

def wheaProviders : List String := ["Microsoft-Windows-WHEA-Logger", "WHEA-Logger"]

def diskProviders : List String := ["disk", "ntfs", "storahci", "stornvme", "iaStor", "msahci"]

def displayProviders : List String :=
  ["display", "dxgkrnl", "nvlddmkm", "amdkmdag", "igfx", "igdkmd64", "igfxCUIService",
    "aticfx64"]

def eventlogProvider : String := "EventLog"

def diskErrorEventIds : List ℤ := [7, 9, 11, 15, 51, 52, 55, 98, 129, 140, 153, 157]

def shutdownCleanIds : List ℤ := [6006, 1074]

def shutdownUnexpectedIds : List ℤ := [6008]

/-- The stripped provider of an event; an absent one is empty. -/
def provider (event : EventRow) : List Char := Text.strip (event.provider.getD "").toList

def containsAny (text : List Char) (needles : List String) : Bool :=
  needles.any fun needle => Text.contains (Text.lower needle.toList) (Text.lower text)

/-- The low 16 bits of the stored id, which hold the true id also when the
high bits are set. -/
def eventId (event : EventRow) : Option ℤ := event.eventId.map (· % 65536)

def classifyEvent (event : EventRow) : Category :=
  let provider := provider event
  let id := eventId event
  let message := Text.lower (event.message.getD "").toList
  if id = some 41 ∧
      (containsAny provider kernelPowerProviders ∨ provider = eventlogProvider.toList) then
    .kernelPower
  else if containsAny provider bugcheckProviders ∨
      (id = some 1001 ∧ Text.contains "bugcheck".toList message) then
    .bugcheck
  else if containsAny provider wheaProviders ∨
      Text.contains "whea".toList (Text.lower provider) then
    .whea
  else if containsAny provider diskProviders ∧ id.any (· ∈ diskErrorEventIds) then
    .disk
  else if containsAny provider displayProviders then
    .display
  else if id.any (· ∈ shutdownCleanIds) then
    .shutdownClean
  else if id.any (· ∈ shutdownUnexpectedIds) then
    .shutdownUnexpected
  else if provider = "Service Control Manager".toList then
    .serviceControl
  else
    .other

/-! ## Summaries -/

/-- The two dictionaries `summarize` fills. A missing key counts zero and
lists nothing. -/
structure Tally where
  counts : Category → ℕ
  byCategory : Category → List EventRow

def Tally.add (tally : Tally) (event : EventRow) : Tally :=
  let category := classifyEvent event
  { counts := Function.update tally.counts category (tally.counts category + 1)
    byCategory :=
      Function.update tally.byCategory category (tally.byCategory category ++ [event]) }

def tally (events : List EventRow) : Tally :=
  events.foldl Tally.add { counts := fun _ => 0, byCategory := fun _ => [] }

structure Summary where
  counts : Category → ℕ
  kernelPowerCount : ℕ
  bugcheckCount : ℕ
  wheaCount : ℕ
  diskErrorCount : ℕ
  displayErrorCount : ℕ
  cleanShutdown : Bool
  unexpectedShutdownEvent : Bool
  kernelPowerDetected : Bool
  bugcheckDetected : Bool
  wheaEvents : List EventRow
  diskEvents : List EventRow
  displayEvents : List EventRow
  kernelPowerEvents : List EventRow
  bugcheckEvents : List EventRow

def summarize (events : List EventRow) : Summary :=
  let tally := tally events
  { counts := tally.counts
    kernelPowerCount := tally.counts .kernelPower
    bugcheckCount := tally.counts .bugcheck
    wheaCount := tally.counts .whea
    diskErrorCount := tally.counts .disk
    displayErrorCount := tally.counts .display
    cleanShutdown := 0 < tally.counts .shutdownClean
    unexpectedShutdownEvent := 0 < tally.counts .shutdownUnexpected
    kernelPowerDetected := 0 < tally.counts .kernelPower
    bugcheckDetected := 0 < tally.counts .bugcheck
    wheaEvents := tally.byCategory .whea
    diskEvents := tally.byCategory .disk
    displayEvents := tally.byCategory .display
    kernelPowerEvents := tally.byCategory .kernelPower
    bugcheckEvents := tally.byCategory .bugcheck }

/-- The events hold one of the category. -/
def Holds (events : List EventRow) (category : Category) : Prop :=
  ∃ event ∈ events, classifyEvent event = category

instance (events : List EventRow) (category : Category) : Decidable (Holds events category) :=
  inferInstanceAs (Decidable (∃ event ∈ events, classifyEvent event = category))

theorem holds_iff_mem_map {events : List EventRow} {category : Category} :
    Holds events category ↔ category ∈ events.map classifyEvent := List.mem_map.symm

theorem foldl_add_byCategory (events : List EventRow) (start : Tally) (category : Category) :
    (events.foldl Tally.add start).byCategory category =
      start.byCategory category ++ events.filter (classifyEvent · = category) := by
  induction events generalizing start with
  | nil => simp
  | cons event events ih =>
    rw [List.foldl_cons, ih, List.filter_cons]
    by_cases same : classifyEvent event = category
    · subst same
      simp [Tally.add]
    · simp [Tally.add, same, Function.update_of_ne (Ne.symm same)]

theorem foldl_add_counts (events : List EventRow) (start : Tally) (category : Category) :
    (events.foldl Tally.add start).counts category =
      start.counts category + (events.filter (classifyEvent · = category)).length := by
  induction events generalizing start with
  | nil => simp
  | cons event events ih =>
    rw [List.foldl_cons, ih, List.filter_cons]
    by_cases same : classifyEvent event = category
    · subst same
      simp only [Tally.add, Function.update_self, decide_true, if_true, List.length_cons]
      omega
    · simp [Tally.add, same, Function.update_of_ne (Ne.symm same)]

/-- The list of a category is the events of that category, in their order. -/
theorem byCategory_tally (events : List EventRow) (category : Category) :
    (tally events).byCategory category = events.filter (classifyEvent · = category) :=
  (foldl_add_byCategory events _ category).trans (List.nil_append _)

/-- The count of a category is the number of its events. -/
theorem counts_tally (events : List EventRow) (category : Category) :
    (tally events).counts category =
      (events.filter (classifyEvent · = category)).length :=
  (foldl_add_counts events _ category).trans (Nat.zero_add _)

theorem counts_pos_iff (events : List EventRow) (category : Category) :
    0 < (tally events).counts category ↔ Holds events category := by
  rw [counts_tally, List.length_pos_iff_exists_mem]
  simp [Holds]

/-- **The flags of a summary say which categories occur.** -/
theorem summarize_flags (events : List EventRow) :
    (summarize events).cleanShutdown = decide (Holds events .shutdownClean) ∧
      (summarize events).unexpectedShutdownEvent = decide (Holds events .shutdownUnexpected) ∧
      (summarize events).kernelPowerDetected = decide (Holds events .kernelPower) ∧
      (summarize events).bugcheckDetected = decide (Holds events .bugcheck) := by
  simp only [summarize, counts_pos_iff, and_self]

/-! ## The events of the documentation -/

/-- An event as far as the classifier reads it, without a message. -/
def logged (provider : String) (id : ℤ) (timestamp : Epoch) : Event where
  timestamp := timestamp
  provider := some provider
  eventId := some id

def kernelPower41 : Epoch → Event := logged "Microsoft-Windows-Kernel-Power" 41

def bugcheck1001 : Epoch → Event := logged "Microsoft-Windows-WER-SystemErrorReporting" 1001

def eventLog6008 : Epoch → Event := logged "EventLog" 6008

def eventLog6006 : Epoch → Event := logged "EventLog" 6006

def user32Restart1074 : Epoch → Event := logged "User32" 1074

end EventAnalyzer

end PcDiagnosticAgent
