import Mathlib.Data.List.Nodup
import Mathlib.Data.List.Perm.Basic
import AgentManifest.Batch.Schedule

/-! Where the tasks of a run are. Whatever events a run goes through, each task is pending, in
flight or ended, and in one of these places only; never more tasks are in flight than allowed; and a
run in which nothing is in flight and nothing can be launched has ended all of them. -/

namespace AgentManifest

variable {files : List String} {task : BatchTask}

namespace Batch

theorem mem_tasks_iff : task ∈ tasks files ↔ files[task.index]? = some task.path := by
  simp only [tasks, List.mem_map, Prod.exists, List.mem_zipIdx_iff_getElem?]
  constructor
  · rintro ⟨path, index, given, rfl⟩
    exact given
  · exact fun given => ⟨task.path, task.index, given, rfl⟩

theorem map_index_tasks (files : List String) :
    (tasks files).map (·.index) = List.range files.length := by
  rw [tasks, List.map_map]
  exact (List.zipIdx_map_snd 0 files).trans List.range_eq_range'.symm

theorem getElem?_tasks (index : Nat) :
    (tasks files)[index]? = files[index]?.map (⟨index, ·⟩) := by
  simp [tasks, Function.comp_def]

variable {b b' : Batch} {index : Nat} {how : TaskEnd}

theorem step_launch_eq_some : b.step .launch = some b' ↔ ∃ task rest,
    b.pending = task :: rest ∧ b.inFlight.length < b.limit ∧
      b' = { b with pending := rest, inFlight := b.inFlight ++ [task] } := by
  rw [step]
  cases b.pending with
  | nil => simp
  | cons task rest =>
      by_cases room : b.inFlight.length < b.limit
      · simp [room, eq_comm]
      · simp [room]

theorem step_launch_eq_none :
    b.step .launch = none ↔ b.pending = [] ∨ b.limit ≤ b.inFlight.length := by
  rw [step]
  cases b.pending with
  | nil => simp
  | cons task rest => simp

theorem step_settle_eq_some : b.step (.settle index how) = some b' ↔ ∃ task,
    b.inFlight.find? (·.index = index) = some task ∧
      b' = { b with inFlight := b.inFlight.erase task, ended := b.ended ++ [(task, how)] } := by
  rw [step]
  cases b.inFlight.find? (·.index = index) <;> simp [eq_comm]

/-- The tasks of a run, wherever they are. -/
def everywhere (b : Batch) : List BatchTask := b.pending ++ b.inFlight ++ b.ended.map (·.1)

/-- What holds of a run on its way, whatever has happened to it. -/
structure Sound (limit : Nat) (files : List String) (b : Batch) : Prop where
  limit_eq : b.limit = max limit 1
  room : b.inFlight.length ≤ b.limit
  /-- No task is lost, and none is in two places. -/
  placed : b.everywhere.Perm (tasks files)

variable {limit : Nat}

theorem sound_ofFiles (limit : Nat) (files : List String) : Sound limit files (ofFiles limit files) :=
  ⟨rfl, Nat.zero_le _, by simp [everywhere, ofFiles]⟩

theorem Sound.step (sound : Sound limit files b) {event : Event}
    (happened : b.step event = some b') : Sound limit files b' := by
  obtain ⟨limit_eq, room, placed⟩ := sound
  cases event with
  | launch =>
      obtain ⟨task, rest, pending, free, rfl⟩ := step_launch_eq_some.mp happened
      refine ⟨limit_eq, by simpa using Nat.succ_le_of_lt free, ?_⟩
      have moved : (rest ++ (b.inFlight ++ [task])).Perm (task :: rest ++ b.inFlight) := by
        rw [← List.append_assoc]
        exact List.perm_append_comm
      refine List.Perm.trans ?_ placed
      simp only [everywhere, pending]
      exact moved.append_right _
  | settle index how =>
      obtain ⟨task, found, rfl⟩ := step_settle_eq_some.mp happened
      have inFlight : task ∈ b.inFlight := List.mem_of_find?_eq_some found
      have fewer : (b.inFlight.erase task).length ≤ b.inFlight.length := List.length_erase_le
      refine ⟨limit_eq, Nat.le_trans fewer room, ?_⟩
      have moved : (b.inFlight.erase task ++ (b.ended.map (·.1) ++ [task])).Perm
          (b.inFlight ++ b.ended.map (·.1)) := by
        rw [← List.append_assoc]
        refine List.perm_append_comm.trans ?_
        exact (List.perm_cons_erase inFlight).symm.append_right _
      refine List.Perm.trans ?_ placed
      simp only [everywhere, List.append_assoc, List.map_append, List.map_cons, List.map_nil]
      exact moved.append_left _

namespace Sound

theorem indices (sound : Sound limit files b) :
    (b.everywhere.map (·.index)).Perm (List.range files.length) := by
  rw [← map_index_tasks]
  exact sound.placed.map _

theorem nodup (sound : Sound limit files b) : b.everywhere.Nodup :=
  List.Nodup.of_map (·.index) (sound.indices.nodup_iff.mpr List.nodup_range)

/-- What has not ended is none of what has. -/
theorem apart {other : BatchTask} (sound : Sound limit files b)
    (unended : task ∈ b.pending ++ b.inFlight) (ended : (other, how) ∈ b.ended) : task ≠ other :=
  (List.nodup_append.mp sound.nodup).2.2 task unended other (List.mem_map.mpr ⟨_, ended, rfl⟩)

/-- A task is known by its index. -/
theorem eq_of_index {other : BatchTask} (sound : Sound limit files b) (there : task ∈ b.everywhere)
    (there' : other ∈ b.everywhere) (same : task.index = other.index) : task = other := by
  have distinct : (b.everywhere.map (·.index)).Nodup :=
    sound.indices.nodup_iff.mpr List.nodup_range
  exact List.inj_on_of_nodup_map distinct there there' same

theorem find?_inFlight (sound : Sound limit files b) (inFlight : task ∈ b.inFlight) :
    b.inFlight.find? (·.index = task.index) = some task := by
  cases found : b.inFlight.find? (·.index = task.index) with
  | none =>
      have different := List.find?_eq_none.mp found task inFlight
      simp at different
  | some other =>
      have same : other.index = task.index := by simpa using List.find?_some found
      have inFlight' := List.mem_of_find?_eq_some found
      rw [sound.eq_of_index (by simp [everywhere, inFlight']) (by simp [everywhere, inFlight]) same]

/-- When nothing is in flight and nothing can be launched, everything has ended. -/
theorem ended_of_still (sound : Sound limit files b) (landed : b.inFlight = [])
    (still : b.step .launch = none) : (b.ended.map (·.1)).Perm (tasks files) := by
  have none_pending : b.pending = [] := by
    refine (step_launch_eq_none.mp still).resolve_right fun full => ?_
    have := sound.limit_eq
    simp only [landed, List.length_nil] at full
    omega
  have placed := sound.placed
  simpa [everywhere, none_pending, landed] using placed

/-- The end of a task is the one that was noted for it. -/
theorem endOf?_eq (sound : Sound limit files b) (ended : (task, how) ∈ b.ended) :
    b.endOf? task.index = some how := by
  have distinct : (b.ended.map (·.1.index)).Nodup := by
    have all := sound.indices.nodup_iff.mpr List.nodup_range
    simp only [everywhere, List.map_append, List.map_map] at all
    exact all.of_append_right
  obtain ⟨before, behind, split⟩ := List.append_of_mem ended
  have fresh : ∀ entry ∈ before, entry.1.index ≠ task.index := by
    intro entry inside same
    rw [split, List.map_append, List.nodup_append] at distinct
    exact distinct.2.2 entry.1.index (List.mem_map.mpr ⟨entry, inside, rfl⟩)
      task.index (by simp) same
  have passed : before.find? (·.1.index = task.index) = none :=
    List.find?_eq_none.mpr fun entry inside => by simpa using fresh entry inside
  rw [endOf?, split, List.find?_append, passed]
  simp

end Sound

/-- The documents of a report are those of the files, each with the outcome of its own task. -/
theorem getElem?_report {label : Nat → String} {document : DocumentReport}
    (given : (b.report label files).documents[index]? = some document) :
    (⟨index, document.path⟩ : BatchTask) ∈ tasks files ∧
      document.outcome = b.outcomeOf label index := by
  rw [report, List.getElem?_map, getElem?_tasks, Option.map_map, Option.map_eq_some_iff] at given
  obtain ⟨path, listed, rfl⟩ := given
  exact ⟨mem_tasks_iff.mpr listed, rfl⟩

theorem outcomeOf_completed {label : Nat → String} {outcome : DocumentOutcome}
    (ended : b.endOf? index = some (.completed outcome)) : b.outcomeOf label index = outcome := by
  simp [outcomeOf, ended, TaskEnd.outcome?]

theorem outcomeOf_gaveUp {label : Nat → String} {message : String}
    (ended : b.endOf? index = some (.gaveUp message)) :
    b.outcomeOf label index = .error (.aborted ("; ".intercalate (b.complaints label))) := by
  simp [outcomeOf, ended, TaskEnd.outcome?]

end Batch
end AgentManifest
