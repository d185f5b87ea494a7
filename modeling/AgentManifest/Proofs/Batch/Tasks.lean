import Mathlib.Data.List.Induction
import AgentManifest.Batch.Run
import AgentManifest.Proofs.Batch.Schedule

/-! Tasks that work side by side. A task waits for its file and then for the sink, and goes on with
whatever it is answered; it can give up at any time. `Moves` lets the tasks of a run be answered in
any order, by any files and any sink, between the launches and the ends that `Batch.step` allows. In
every run the sink is asked at most once for a file, with the agent that was built from it, and a
task ends as its own answers have it. -/

namespace AgentManifest

/-- Where a launched task stands. -/
inductive TaskStage where
  | reading
  /-- The agent is with the sink. -/
  | emitting (a : Agent)
  | finished (how : TaskEnd)

/-- The agents that a task has with the sink. -/
def TaskStage.agents : TaskStage → List Agent
  | .emitting a => [a]
  | .reading | .finished _ => []

/-- What a task is told. -/
inductive TaskAnswer where
  | file (result : Except FileFault (List UInt8))
  | sink (emission : Emission)
  /-- The task gives up waiting. -/
  | gaveUp (message : String)

/-- How a task ends when the sink has answered. -/
def TaskEnd.ofEmission (sink : String) (a : Agent) : Emission → TaskEnd
  | .delivered receipt => .completed (.ok ⟨a.qualifiedName, some receipt⟩)
  | .failed chain => .completed (.error (.sink sink chain))
  | .gaveUp message => .gaveUp message

/-- What a task has done outside of itself. -/
inductive TaskCall where
  | read (path : String) (result : Except FileFault (List UInt8))
  /-- The sink has been asked to take the agent, whatever it answers. -/
  | emit (a : Agent)

def TaskCall.agent? : TaskCall → Option Agent
  | .emit a => some a
  | .read .. => none

/-- What a task has done that is told something and stands somewhere from then on. -/
def TaskAnswer.calls (path : String) (answer : TaskAnswer) (stage : TaskStage) : List TaskCall :=
  match answer with
  | .file result => .read path result :: stage.agents.map .emit
  | .sink _ | .gaveUp _ => stage.agents.map .emit

/-- A run, with what its tasks have been told and what they have done. -/
structure BatchRun where
  batch : Batch
  answers : List (BatchTask × TaskAnswer)
  calls : List (BatchTask × TaskCall)

namespace BatchRun

/-- The agents that the sink has been asked to take. -/
def emitted (r : BatchRun) : List (BatchTask × Agent) :=
  r.calls.filterMap fun made => made.2.agent?.map (made.1, ·)

/-- What a task has been told, in the order in which it was. -/
def answersTo (r : BatchRun) (task : BatchTask) : List TaskAnswer :=
  r.answers.filterMap fun told => if told.1 = task then some told.2 else none

/-- Nothing is in flight, and nothing can be launched. -/
def Stopped (r : BatchRun) : Prop := r.batch.inFlight = [] ∧ r.batch.step .launch = none

/-- The run after a task has been told something, and stands elsewhere. -/
def told (r : BatchRun) (task : BatchTask) (answer : TaskAnswer) (stage : TaskStage) : BatchRun where
  batch := r.batch
  answers := r.answers ++ [(task, answer)]
  calls := r.calls ++ (answer.calls task.path stage).map (task, ·)

variable {r : BatchRun} {task other : BatchTask} {answer : TaskAnswer} {stage : TaskStage}

@[simp] theorem batch_told : (r.told task answer stage).batch = r.batch := rfl

@[simp] theorem emitted_told :
    (r.told task answer stage).emitted = r.emitted ++ stage.agents.map (task, ·) := by
  rw [emitted, told, List.filterMap_append, emitted]
  cases answer <;> simp [TaskAnswer.calls, TaskCall.agent?]

@[simp] theorem answersTo_told : (r.told task answer stage).answersTo other =
    if task = other then r.answersTo other ++ [answer] else r.answersTo other := by
  by_cases same : task = other <;> simp [answersTo, told, same]

end BatchRun

namespace BatchContext

variable {m : Type → Type} {c : BatchContext m}

/-- Where a task stands once its file has been read, or could not be. -/
def afterReading (c : BatchContext m) (path : String) :
    Except FileFault (List UInt8) → TaskStage
  | .error e => .finished (.completed (.error (.read path e.text)))
  | .ok bytes =>
    match (c.builder.build c.overrides path bytes).result with
    | .error e => .finished (.completed (.error (.build e)))
    | .ok a =>
      match c.sink with
      | none => .finished (.completed (.ok ⟨a.qualifiedName, none⟩))
      | some _ => .emitting a

/-- Where a task goes from a stage when it is told something; nowhere if it does not wait for it. -/
def after? (c : BatchContext m) (path : String) : TaskStage → TaskAnswer → Option TaskStage
  | .reading, .file result => some (c.afterReading path result)
  | .emitting a, .sink emission =>
    c.sink.map fun sink => .finished (.ofEmission sink.name a emission)
  | .reading, .gaveUp message | .emitting _, .gaveUp message =>
    some (.finished (.gaveUp message))
  | _, _ => none

/-- Where a task stands that has been told all this since it was launched. -/
def stage? (c : BatchContext m) (path : String) (answers : List TaskAnswer) : Option TaskStage :=
  answers.foldlM (c.after? path) .reading

/-- What can happen to a run. -/
inductive Moves (c : BatchContext m) : BatchRun → BatchRun → Prop where
  | launch {r : BatchRun} {batch : Batch} (launched : r.batch.step .launch = some batch) :
      Moves c r { r with batch }
  | tell {r : BatchRun} {task : BatchTask} {answer : TaskAnswer} {stage : TaskStage}
      (inFlight : task ∈ r.batch.inFlight)
      (taken : c.stage? task.path (r.answersTo task ++ [answer]) = some stage) :
      Moves c r (r.told task answer stage)
  | settle {r : BatchRun} {task : BatchTask} {how : TaskEnd} {batch : Batch}
      (inFlight : task ∈ r.batch.inFlight)
      (finished : c.stage? task.path (r.answersTo task) = some (.finished how))
      (settled : r.batch.step (.settle task.index how) = some batch) :
      Moves c r { r with batch }

/-- What a run over files can come to, in any order of its events. -/
inductive Reachable (c : BatchContext m) (files : List String) : BatchRun → Prop where
  | start : Reachable c files ⟨.ofFiles c.limit files, [], []⟩
  | move {r r' : BatchRun} (reached : Reachable c files r) (moved : Moves c r r') :
      Reachable c files r'

variable {path : String} {answers : List TaskAnswer} {answer : TaskAnswer}
variable {stage : TaskStage} {a : Agent} {how : TaskEnd}

theorem after?_eq_some {stage' : TaskStage} (next : c.after? path stage answer = some stage') :
    (∃ result, stage = .reading ∧ answer = .file result ∧ stage' = c.afterReading path result) ∨
      (∃ a emission sink, stage = .emitting a ∧ answer = .sink emission ∧ c.sink = some sink ∧
        stage' = .finished (.ofEmission sink.name a emission)) ∨
      ∃ message, answer = .gaveUp message ∧ stage' = .finished (.gaveUp message) := by
  cases stage with
  | reading =>
      cases answer with
      | file result => exact .inl ⟨result, rfl, rfl, (Option.some.inj next).symm⟩
      | sink emission => cases next
      | gaveUp message => exact .inr (.inr ⟨message, rfl, (Option.some.inj next).symm⟩)
  | emitting a =>
      cases answer with
      | file result => cases next
      | sink emission =>
          obtain ⟨sink, given, rfl⟩ := Option.map_eq_some_iff.mp next
          exact .inr (.inl ⟨a, emission, sink, rfl, rfl, given, rfl⟩)
      | gaveUp message => exact .inr (.inr ⟨message, rfl, (Option.some.inj next).symm⟩)
  | finished how => cases answer <;> cases next

theorem stage?_append_singleton : c.stage? path (answers ++ [answer]) =
    (c.stage? path answers).bind (c.after? path · answer) := by
  simp [stage?, List.foldlM_append]

/-- A task that is over takes no answer. -/
theorem stage?_of_finished (finished : c.stage? path answers = some (.finished how)) :
    c.stage? path (answers ++ [answer]) = none := by
  rw [stage?_append_singleton, finished]
  cases answer <;> rfl

/-- Reading a file ends a task or yields the agent that was built from what was read. -/
theorem afterReading_cases (result : Except FileFault (List UInt8)) :
    (∃ bytes a, result = .ok bytes ∧ (c.builder.build c.overrides path bytes).result = .ok a ∧
        c.afterReading path result = .emitting a) ∨
      ∃ outcome, c.afterReading path result = .finished (.completed outcome) ∧
        ∀ reason, outcome ≠ .error (.aborted reason) := by
  unfold afterReading
  split
  next e => exact .inr ⟨_, rfl, by simp⟩
  next bytes =>
    split
    next e => exact .inr ⟨_, rfl, by simp⟩
    next a built =>
      split
      · exact .inr ⟨_, rfl, by simp⟩
      · exact .inl ⟨bytes, a, rfl, built, rfl⟩

/-- What is known of a task that has been told so much, by the stage at which it stands. -/
def Known (c : BatchContext m) (path : String) (answers : List TaskAnswer) : TaskStage → Prop
  | .reading => answers = []
  | .emitting a => ∃ bytes, answers = [.file (.ok bytes)] ∧
      (c.builder.build c.overrides path bytes).result = .ok a
  | .finished how => ∀ reason, how ≠ .completed (.error (.aborted reason))

theorem known_of_stage? (stands : c.stage? path answers = some stage) :
    c.Known path answers stage := by
  induction answers using List.reverseRecOn generalizing stage with
  | nil =>
      cases stands
      rfl
  | append_singleton before last ih =>
      rw [stage?_append_singleton, Option.bind_eq_some_iff] at stands
      obtain ⟨earlier, here, next⟩ := stands
      obtain ⟨result, rfl, rfl, rfl⟩ | ⟨a, emission, sink, -, -, -, rfl⟩ | ⟨message, -, rfl⟩ :=
        after?_eq_some next
      · have first : before = [] := ih here
        obtain ⟨bytes, a, rfl, built, goes⟩ | ⟨outcome, goes, clean⟩ := c.afterReading_cases result
        · rw [goes]
          exact ⟨bytes, by rw [first, List.nil_append], built⟩
        · rw [goes]
          rintro reason ⟨⟩
          exact clean reason rfl
      · cases emission <;> simp [Known, TaskEnd.ofEmission]
      · simp [Known]

/-- What holds of a run on its way: its batch is sound, those of its tasks that have ended are over,
and no task has given more than one agent to the sink. -/
structure Sound (c : BatchContext m) (files : List String) (r : BatchRun) : Prop where
  batch : r.batch.Sound c.limit files
  finished : ∀ task how, (task, how) ∈ r.batch.ended →
    c.stage? task.path (r.answersTo task) = some (.finished how)
  emitted : ∀ task a, (task, a) ∈ r.emitted → task ∈ r.batch.everywhere ∧
    ∃ bytes rest, r.answersTo task = .file (.ok bytes) :: rest ∧
      (c.builder.build c.overrides task.path bytes).result = .ok a
  once : (r.emitted.map (·.1)).Nodup
  /-- A task is told of its file what it has read. -/
  reads : ∀ task result, .file result ∈ r.answersTo task → (task, .read task.path result) ∈ r.calls

variable {files : List String} {r r' : BatchRun}

theorem sound_start (c : BatchContext m) (files : List String) :
    c.Sound files ⟨.ofFiles c.limit files, [], []⟩ where
  batch := Batch.sound_ofFiles c.limit files
  finished := by simp [Batch.ofFiles]
  emitted := by simp [BatchRun.emitted]
  once := List.nodup_nil
  reads := by simp [BatchRun.answersTo]

theorem Sound.tell {task : BatchTask} (sound : c.Sound files r) (inFlight : task ∈ r.batch.inFlight)
    (taken : c.stage? task.path (r.answersTo task ++ [answer]) = some stage) :
    c.Sound files (r.told task answer stage) := by
  obtain ⟨batch, finished, emitted, once, reads⟩ := sound
  have known := known_of_stage? taken
  refine ⟨batch, fun other how ended => ?_, fun other b given => ?_, ?_,
    fun other result told => ?_⟩
  · have stands := finished other how ended
    rw [BatchRun.answersTo_told]
    split
    next same =>
      -- A task that is over would not have taken the answer.
      rw [same, stage?_of_finished stands] at taken
      cases taken
    next => exact stands
  · rw [BatchRun.emitted_told, List.mem_append] at given
    rw [BatchRun.answersTo_told]
    rcases given with given | given
    · obtain ⟨placed, bytes, rest, first, built⟩ := emitted other b given
      refine ⟨placed, bytes, if task = other then rest ++ [answer] else rest, ?_, built⟩
      split <;> simp [first]
    · cases stage with
      | reading => cases given
      | finished how => cases given
      | emitting a =>
          obtain ⟨rfl, rfl⟩ : other = task ∧ b = a := by simpa [TaskStage.agents] using given
          obtain ⟨bytes, only, built⟩ := known
          refine ⟨by simp [Batch.everywhere, inFlight], bytes, [], ?_, built⟩
          rw [if_pos rfl, only]
  · rw [BatchRun.emitted_told, List.map_append]
    cases stage with
    | reading => simpa [TaskStage.agents] using once
    | finished how => simpa [TaskStage.agents] using once
    | emitting a =>
        obtain ⟨bytes, only, built⟩ := known
        have untold : r.answersTo task = [] := by simpa using congrArg List.dropLast only
        have fresh : task ∉ r.emitted.map (·.1) := by
          intro earlier
          obtain ⟨⟨other, b⟩, given, rfl⟩ := List.mem_map.mp earlier
          obtain ⟨-, bytes, rest, first, -⟩ := emitted other b given
          rw [first] at untold
          cases untold
        have extended := once.concat fresh
        rwa [List.concat_eq_append] at extended
  · rw [BatchRun.answersTo_told] at told
    refine List.mem_append.mpr ?_
    split at told
    next same =>
      rcases List.mem_append.mp told with before | now
      · exact .inl (reads other result before)
      · obtain rfl := List.mem_singleton.mp now
        exact .inr (by simp [TaskAnswer.calls, same])
    next => exact .inl (reads other result told)

theorem Sound.move (sound : c.Sound files r) (moved : c.Moves r r') : c.Sound files r' := by
  cases moved with
  | launch launched =>
      have batch := sound.batch.step launched
      have same := sound.batch.placed.trans batch.placed.symm
      obtain ⟨task, rest, -, -, rfl⟩ := Batch.step_launch_eq_some.mp launched
      exact ⟨batch, sound.finished, fun task a given =>
        ⟨same.mem_iff.mp (sound.emitted task a given).1, (sound.emitted task a given).2⟩,
        sound.once, sound.reads⟩
  | tell inFlight taken => exact sound.tell inFlight taken
  | @settle task how b inFlight finished settled =>
      have batch := sound.batch.step settled
      have same := sound.batch.placed.trans batch.placed.symm
      obtain ⟨found, given, rfl⟩ := Batch.step_settle_eq_some.mp settled
      rw [sound.batch.find?_inFlight inFlight] at given
      cases given
      refine ⟨batch, fun other how' ended => ?_, fun other a given =>
        ⟨same.mem_iff.mp (sound.emitted other a given).1, (sound.emitted other a given).2⟩,
        sound.once, sound.reads⟩
      rcases List.mem_append.mp ended with ended | ended
      · exact sound.finished other how' ended
      · cases List.mem_singleton.mp ended
        exact finished

theorem Reachable.sound (reached : c.Reachable files r) : c.Sound files r := by
  induction reached with
  | start => exact sound_start c files
  | move reached moved ih => exact ih.move moved

end BatchContext
end AgentManifest
