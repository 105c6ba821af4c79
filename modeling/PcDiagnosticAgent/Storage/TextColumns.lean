import PcDiagnosticAgent.Library.JsonTexts
import PcDiagnosticAgent.PyValue
import PcDiagnosticAgent.Storage.Schema

/-!
# Text columns

The texts under which grades and types are stored, and the JSON document of a
list of texts in the columns `findings` and `evidence`.
-/

set_option autoImplicit false

namespace PcDiagnosticAgent

/-- The texts of the grades. -/
def levelText : Level → String
  | .low => "LOW"
  | .medium => "MEDIUM"
  | .high => "HIGH"

/-- The texts of the incident types. -/
def incidentTypeText : IncidentType → String
  | .hardHang => "HARD_HANG"
  | .bsod => "BSOD"
  | .unexpectedReboot => "UNEXPECTED_REBOOT"
  | .powerLoss => "POWER_LOSS"
  | .unknown => "UNKNOWN"

/-- The texts of the finding types. -/
def findingTypeText : FindingType → String
  | .hardHang => "POSSIBLE_HARD_HANG"
  | .powerLoss => "POSSIBLE_POWER_LOSS"
  | .crash => "POSSIBLE_CRASH"
  | .hardware => "POSSIBLE_HARDWARE_ERROR"
  | .thermal => "POSSIBLE_THERMAL_PROBLEM"
  | .memory => "POSSIBLE_MEMORY_PRESSURE"
  | .cpu => "POSSIBLE_CPU_PRESSURE"
  | .disk => "POSSIBLE_DISK_PROBLEM"
  | .gpu => "POSSIBLE_GPU_PROBLEM"
  | .insufficient => "INSUFFICIENT_EVIDENCE"

/-- The JSON document of texts. -/
def jsonColumn (texts : List String) : PyStr := JsonTexts.write (texts.map PyStr.ofString)

/-- What a reader finds in the column. -/
def readJsonColumn (column : PyStr) : List PyStr := (JsonTexts.read column).getD []

theorem PyStr.ofString_injective : Function.Injective PyStr.ofString := by
  intro first second same
  have codes : Function.Injective Char.toNat := fun _ _ => Char.toNat_inj.mp
  exact String.toList_inj.mp (List.map_injective_iff.mpr codes same)

/-- The document can be stored. -/
theorem encodable_jsonColumn (texts : List String) : (jsonColumn texts).encodable = true := by
  refine PyStr.encodable_iff.mpr fun code inside => .inl ?_
  exact Nat.lt_trans (JsonTexts.write_ascii _ code inside) (by decide)

/-- A text has no surrogates. -/
theorem PyStr.code_ofString {text : String} {code : ℕ} (inside : code ∈ PyStr.ofString text) :
    code < 0x110000 ∧ (code < 0xd800 ∨ 0xdfff < code) := by
  refine ⟨?_, PyStr.encodable_iff.mp (PyStr.encodable_ofString text) code inside⟩
  obtain ⟨char, -, rfl⟩ := List.mem_map.mp inside
  rcases char.valid with below | ⟨-, above⟩
  · exact Nat.lt_trans below (by decide)
  · exact above

/-- **Every list of texts is read back as it was written.** -/
theorem readJsonColumn_jsonColumn (texts : List String) :
    readJsonColumn (jsonColumn texts) = texts.map PyStr.ofString := by
  have codes : ∀ text ∈ texts.map PyStr.ofString, ∀ code ∈ text,
      code < 0x110000 ∧ (code < 0xd800 ∨ 0xdfff < code) := by
    intro text member code inside
    obtain ⟨given, -, rfl⟩ := List.mem_map.mp member
    exact PyStr.code_ofString inside
  have separate : ∀ text ∈ texts.map PyStr.ofString, JsonTexts.Separate text := by
    refine fun text member => JsonTexts.separate_of_forall fun code inside high => ?_
    rcases (codes text member code inside).2 with below | above
    · exact absurd high.1 (not_le.mpr below)
    · exact absurd (lt_of_lt_of_le above high.2) (by decide)
  have back := (JsonTexts.read_write_iff fun text member code inside =>
    (codes text member code inside).1).mpr separate
  rw [readJsonColumn, jsonColumn, back, Option.getD_some]

end PcDiagnosticAgent
