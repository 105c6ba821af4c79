import PcDiagnosticAgent.Diagnostics.EventAnalyzer
import Mathlib.Tactic.Linarith

/-!
# Crash signals and termination inference

`diagnostics/crash_detector.py` and `diagnostics/hang_detector.py`: the
summary of a window becomes five signals, and the signals with the last
activity before the reboot become an inferred termination.

The two lemmas about `inferTermination` cover every case in which an incident
can follow without a BugCheck: with Kernel-Power 41 the gap decides
(`inferTermination_kernelPower`), without it the answer is a hang of low
confidence (`inferTermination_unexpectedOnly`).
-/

set_option autoImplicit false

namespace PcDiagnosticAgent

open EventAnalyzer

structure CrashSignals where
  bugcheckDetected : Bool
  kernelPowerDetected : Bool
  unexpectedShutdownEvent : Bool
  cleanShutdown : Bool
  unexpectedShutdown : Bool
deriving DecidableEq, Repr

/-- An unknown previous outcome counts as not clean. -/
def detectCrash (summary : Summary) (previousSessionClean : Option Bool) : CrashSignals :=
  let bugcheck := summary.bugcheckDetected
  let kernelPower := summary.kernelPowerDetected
  let unexpected := summary.unexpectedShutdownEvent
  let clean := previousSessionClean.getD false
  { bugcheckDetected := bugcheck
    kernelPowerDetected := kernelPower
    unexpectedShutdownEvent := unexpected
    cleanShutdown := clean
    unexpectedShutdown := !clean && (kernelPower || unexpected) }

structure TerminationInference where
  probableNormalShutdown : Bool := false
  probableCrash : Bool := false
  probableHardHang : Bool := false
  probablePowerLoss : Bool := false
  confidence : Level := .low
  hangGapSeconds : Option ℚ := none
deriving DecidableEq, Repr

/-- The time between the last activity and the reboot. -/
def activityGap (lastActivityTimestamp : Option Epoch) (rebootTimestamp : Epoch) : Option ℚ :=
  lastActivityTimestamp.map fun last => max 0 (rebootTimestamp - last)

def inferTermination (crash : CrashSignals) (lastActivityTimestamp : Option Epoch)
    (rebootTimestamp : Epoch) (collectionInterval : ℕ) : TerminationInference :=
  if crash.cleanShutdown then
    { probableNormalShutdown := true, confidence := .high }
  else if crash.bugcheckDetected then
    { probableCrash := true, confidence := .high }
  else if !crash.unexpectedShutdown then
    {}
  else
    let gap := activityGap lastActivityTimestamp rebootTimestamp
    if crash.kernelPowerDetected then
      match gap with
      | none => { probableHardHang := true, confidence := .low, hangGapSeconds := gap }
      | some seconds =>
        if (collectionInterval : ℚ) * 5 ≤ seconds then
          { probableHardHang := true, confidence := .high, hangGapSeconds := gap }
        else if (collectionInterval : ℚ) * 2 ≤ seconds then
          { probableHardHang := true, confidence := .medium, hangGapSeconds := gap }
        else
          { probablePowerLoss := true, confidence := .low, hangGapSeconds := gap }
    else
      { probableHardHang := true, confidence := .low, hangGapSeconds := gap }

/-- Activity before the reboot leaves a positive gap. -/
theorem activityGap_of_lt {last reboot : Epoch} (earlier : last < reboot) :
    activityGap (some last) reboot = some (reboot - last) := by
  simp only [activityGap, Option.map_some, max_eq_right (sub_nonneg.mpr earlier.le)]

section Cases

variable {crash : CrashSignals} (last : Option Epoch) (reboot : Epoch) (interval : ℕ)

/-- With Kernel-Power 41 and neither a clean shutdown nor a BugCheck, the gap
decides. -/
theorem inferTermination_kernelPower (unclean : crash.cleanShutdown = false)
    (noBugcheck : crash.bugcheckDetected = false)
    (unexpected : crash.unexpectedShutdown = true)
    (kernelPower : crash.kernelPowerDetected = true) :
    inferTermination crash last reboot interval =
      match activityGap last reboot with
      | none => { probableHardHang := true, confidence := .low }
      | some gap =>
        if (interval : ℚ) * 5 ≤ gap then
          { probableHardHang := true, confidence := .high, hangGapSeconds := some gap }
        else if (interval : ℚ) * 2 ≤ gap then
          { probableHardHang := true, confidence := .medium, hangGapSeconds := some gap }
        else { probablePowerLoss := true, confidence := .low, hangGapSeconds := some gap } := by
  simp only [inferTermination, unclean, noBugcheck, unexpected, kernelPower,
    Bool.false_eq_true, if_false, if_true, Bool.not_true]
  cases last with
  | none => rfl
  | some last => rfl

/-- With 6008 alone the answer is a hang, however short the gap. -/
theorem inferTermination_unexpectedOnly (unclean : crash.cleanShutdown = false)
    (noBugcheck : crash.bugcheckDetected = false)
    (unexpected : crash.unexpectedShutdown = true)
    (noKernelPower : crash.kernelPowerDetected = false) :
    inferTermination crash last reboot interval =
      { probableHardHang := true, confidence := .low,
        hangGapSeconds := activityGap last reboot } := by
  simp only [inferTermination, unclean, noBugcheck, unexpected, noKernelPower,
    Bool.false_eq_true, if_false, Bool.not_true]

/-- An unclean end without a BugCheck is a hang or a power loss. -/
theorem inferTermination_decides (unclean : crash.cleanShutdown = false)
    (noBugcheck : crash.bugcheckDetected = false)
    (unexpected : crash.unexpectedShutdown = true) :
    ((inferTermination crash last reboot interval).probableHardHang ||
      (inferTermination crash last reboot interval).probablePowerLoss) = true := by
  cases kernelPower : crash.kernelPowerDetected with
  | false =>
    rw [inferTermination_unexpectedOnly last reboot interval unclean noBugcheck unexpected
      kernelPower]
    rfl
  | true =>
    rw [inferTermination_kernelPower last reboot interval unclean noBugcheck unexpected
      kernelPower]
    cases activityGap last reboot with
    | none => rfl
    | some gap =>
      simp only
      split
      · rfl
      · split <;> rfl

end Cases

end PcDiagnosticAgent
