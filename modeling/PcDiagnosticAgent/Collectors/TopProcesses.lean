import PcDiagnosticAgent.Collectors.Metrics
import PcDiagnosticAgent.Library.StableSort

/-!
# The listed processes

Of all running processes a cycle stores the first ten by CPU share and the first
ten by memory, each once. So a process is listed exactly when fewer than ten
others come before it in one of the two orders (`processes_listed`); in both,
processes with equal values keep the order in which they were found.
-/

set_option autoImplicit false

namespace PcDiagnosticAgent

open StableSort

namespace Collectors

/-! ## Merging -/

/-- One step of the merge. -/
def mergeStep (merged : List ProcessReading) (process : ProcessReading) : List ProcessReading :=
  if merged.any (·.pid = process.pid) then
    merged.map fun other => if other.pid = process.pid then process else other
  else merged ++ [process]

theorem mergeByPid_concat (processes : List ProcessReading) (process : ProcessReading) :
    mergeByPid (processes ++ [process]) = mergeStep (mergeByPid processes) process := by
  rw [mergeByPid, List.foldl_append]
  rfl

variable {running selected : List ProcessReading}

/-- A process that is there is replaced by itself. -/
theorem mergeStep_of_mem {merged : List ProcessReading} {process : ProcessReading}
    (same : ∀ other ∈ merged, other.pid = process.pid → other = process)
    (present : process ∈ merged) : mergeStep merged process = merged := by
  rw [mergeStep, if_pos (List.any_eq_true.mpr ⟨process, present, decide_eq_true rfl⟩)]
  refine (List.map_congr_left fun other member => ?_).trans (List.map_id merged)
  split
  · rename_i equal
    exact (same other member equal).symm
  · rfl

theorem mergeStep_of_notMem {merged : List ProcessReading} {process : ProcessReading}
    (same : ∀ other ∈ merged, other.pid = process.pid → other = process)
    (absent : process ∉ merged) : mergeStep merged process = merged ++ [process] := by
  refine if_neg fun found => absent ?_
  obtain ⟨other, member, equal⟩ := List.any_eq_true.mp found
  exact same other member (of_decide_eq_true equal) ▸ member

/-- Merging processes with distinct ids lists each of them once. -/
theorem mergeByPid_mem (distinct : (running.map (·.pid)).Nodup) (within : selected ⊆ running) :
    (∀ process, process ∈ mergeByPid selected ↔ process ∈ selected) ∧
      ((mergeByPid selected).map (·.pid)).Nodup := by
  induction selected using List.reverseRecOn with
  | nil => exact ⟨fun _ => Iff.rfl, .nil⟩
  | append_singleton selected last ih =>
    obtain ⟨before, isLast⟩ := List.append_subset.mp within
    obtain ⟨members, nodup⟩ := ih before
    have runs : last ∈ running := isLast (List.mem_singleton_self last)
    have same : ∀ other ∈ mergeByPid selected, other.pid = last.pid → other = last :=
      fun other member =>
        List.inj_on_of_nodup_map distinct (before ((members other).mp member)) runs
    rw [mergeByPid_concat]
    by_cases present : last ∈ mergeByPid selected
    · rw [mergeStep_of_mem same present]
      refine ⟨fun process => (members process).trans ?_, nodup⟩
      have known := (members last).mp present
      simp only [List.mem_append, List.mem_singleton]
      exact ⟨.inl, fun either => either.elim id fun isLast => isLast ▸ known⟩
    · rw [mergeStep_of_notMem same present]
      refine ⟨fun process => ?_, ?_⟩
      · rw [List.mem_append, List.mem_append, members]
      · rw [List.map_append]
        refine List.nodup_append.mpr ⟨nodup, List.nodup_singleton _, ?_⟩
        rintro pid member other isLast rfl
        obtain ⟨process, among, equal⟩ := List.mem_map.mp member
        have lastPid : pid = last.pid := List.mem_singleton.mp isLast
        exact present (same process among (equal.trans lastPid) ▸ among)

/-! ## The first ten -/

/-- How many processes come before one that was found between these. -/
def busier (key : ProcessReading → ℚ) (earlier : List ProcessReading) (process : ProcessReading)
    (later : List ProcessReading) : ℕ :=
  earlier.countP (fun other => key process ≤ key other) +
    later.countP fun other => key process < key other

theorem mem_topBy {key : ProcessReading → ℚ} {process : ProcessReading}
    (member : process ∈ topBy key running) : process ∈ running :=
  (List.mem_insertionSort _).mp (List.mem_of_mem_take member)

theorem mem_topBy_iff (key : ProcessReading → ℚ) {earlier later : List ProcessReading}
    {process : ProcessReading} (once : process ∉ earlier ++ later) :
    process ∈ topBy key (earlier ++ process :: later) ↔ busier key earlier process later < topN :=
  mem_take_sortBy_iff (fun process => OrderDual.toDual (key process)) once topN

/-- Which of the running processes are listed. -/
structure Listed (running listed : List ProcessReading) : Prop where
  once : (listed.map (·.pid)).Nodup
  atMost : listed.length ≤ 2 * topN
  found : listed ⊆ running
  chosen : ∀ earlier process later, running = earlier ++ process :: later →
    (process ∈ listed ↔ busier (·.cpuPercent) earlier process later < topN ∨
      busier (fun process => process.memoryBytes) earlier process later < topN)

/-- **Of the running processes those are stored, each once, that fewer than ten
others outdo in CPU share or in memory.** -/
theorem processes_listed (running : List ProcessReading)
    (distinct : (running.map (·.pid)).Nodup) :
    ∃ listed, processes (some running) = [("metrics_process", listed.map processRow)] ∧
      Listed running listed := by
  have within : topBy (·.cpuPercent) running ++
      topBy (fun process => process.memoryBytes) running ⊆ running :=
    List.append_subset.mpr ⟨fun _ => mem_topBy, fun _ => mem_topBy⟩
  obtain ⟨members, nodup⟩ := mergeByPid_mem distinct within
  refine ⟨_, rfl, nodup, ?_, fun process member => within ((members process).mp member), ?_⟩
  · have fewer := List.subperm_of_subset (List.Nodup.of_map _ nodup)
      fun process => (members process).mp
    refine fewer.length_le.trans ?_
    rw [List.length_append, Nat.two_mul]
    exact Nat.add_le_add (List.length_take_le ..) (List.length_take_le ..)
  · rintro earlier process later rfl
    have once : process ∉ earlier ++ later :=
      (List.nodup_middle.mp (List.Nodup.of_map _ distinct)).notMem
    rw [members, List.mem_append, mem_topBy_iff _ once, mem_topBy_iff _ once]

/-- Twelve idle processes with less and less memory. -/
theorem processes_listed_idle :
    let running := (List.range 12).map fun pid =>
      ({ pid := pid, name := none, cpuPercent := 0, memoryBytes := 100 - pid, exePath := none } :
        ProcessReading)
    ∃ listed, processes (some running) = [("metrics_process", listed.map processRow)] ∧
      Listed running listed :=
  processes_listed _ (by decide)

end Collectors

end PcDiagnosticAgent
