import Mathlib.Tactic.Choose
import AgentManifest.Proofs.Batch.Tasks

/-! Runs of which a record is kept. The files and the sink of a context can be watched: each file
that is read is noted, with what was read, and each agent before the sink is asked to take it. This
changes nothing else, and what is noted of the work on a document is what a task does that is told
the same. -/

namespace AgentManifest

/-- Work of which a record is kept. -/
def Recorded (m : Type → Type) (α : Type) : Type := StateT (List TaskCall) m α

namespace Recorded

variable {m : Type → Type} [Monad m] {α β : Type}

instance : Monad (Recorded m) := inferInstanceAs (Monad (StateT (List TaskCall) m))

/-- Work that is done behind a record. -/
def run (recorded : Recorded m α) (calls : List TaskCall) : m (α × List TaskCall) :=
  StateT.run recorded calls

/-- Work of which nothing is noted. -/
def silently (work : m α) : Recorded m α := StateT.lift work

def note (call : TaskCall) : Recorded m Unit := StateT.modifyGet fun calls => ((), calls ++ [call])

instance [MonadWorkspace m] : MonadWorkspace (Recorded m) where
  readFile path := do
    let result ← silently (MonadWorkspace.readFile path)
    note (.read path result)
    return result
  isFile path := silently (MonadWorkspace.isFile path)
  listDirectory path := silently (MonadWorkspace.listDirectory path)
  createDirectories path := silently (MonadWorkspace.createDirectories path)
  writeFile path text := silently (MonadWorkspace.writeFile path text)
  print text := silently (MonadWorkspace.print text)
  log lines := silently (MonadWorkspace.log lines)

variable {calls : List TaskCall} {recorded : Recorded m α}

theorem run_pure (a : α) (calls : List TaskCall) :
    (pure a : Recorded m α).run calls = pure (a, calls) := rfl

theorem run_bind (recorded : Recorded m α) (next : α → Recorded m β) (calls : List TaskCall) :
    (recorded >>= next).run calls = recorded.run calls >>= fun made => (next made.1).run made.2 :=
  rfl

/-- The recorded work is the other work; what it adds to the record satisfies a condition together
with its result. -/
def Adds (recorded : Recorded m α) (work : m α) (p : α → List TaskCall → Prop) : Prop :=
  ∀ calls, ∃ checked : m {made : α × List TaskCall // p made.1 made.2},
    (fun made => made.val.1) <$> checked = work ∧
      (fun made => (made.val.1, calls ++ made.val.2)) <$> checked = recorded.run calls

variable [LawfulMonad m] {work : m α} {p : α → List TaskCall → Prop}

theorem Adds.mono {q : α → List TaskCall → Prop} (adds : Adds recorded work p)
    (weaker : ∀ a calls, p a calls → q a calls) : Adds recorded work q := by
  intro calls
  obtain ⟨checked, same, ran⟩ := adds calls
  refine ⟨(fun made => ⟨made.val, weaker _ _ made.property⟩) <$> checked, ?_, ?_⟩
  · simp [← same]
  · simp [← ran]

theorem Adds.bind {next : α → Recorded m β} {next' : α → m β} {q : β → List TaskCall → Prop}
    (first : Adds recorded work p)
    (rest : ∀ a calls, p a calls → Adds (next a) (next' a) fun b more => q b (calls ++ more)) :
    Adds (recorded >>= next) (work >>= next') q := by
  intro calls
  obtain ⟨checked, rfl, ran⟩ := first calls
  choose onward same ran' using fun made : {made : α × List TaskCall // p made.1 made.2} =>
    rest made.val.1 made.val.2 made.property (calls ++ made.val.2)
  refine ⟨checked >>= fun made =>
    (fun more => ⟨(more.val.1, made.val.2 ++ more.val.2), more.property⟩) <$> onward made, ?_, ?_⟩
  · simp [same]
  · rw [run_bind, ← ran]
    simp [← ran']

end Recorded

/-- The sink, watched. -/
def Sink.recorded {m : Type → Type} [Monad m] (sink : Sink m) : Sink (Recorded m) where
  name := sink.name
  emit a := do
    Recorded.note (.emit a)
    Recorded.silently (sink.emit a)

namespace BatchContext

/-- What a task does that is told all this after it has been launched, and where it stands. -/
inductive Works {m : Type → Type} (c : BatchContext m) (path : String) :
    List TaskAnswer → List TaskCall → TaskStage → Prop where
  | launched : Works c path [] [] .reading
  | told {answers : List TaskAnswer} {calls : List TaskCall} {stage stage' : TaskStage}
      {answer : TaskAnswer} (before : Works c path answers calls stage)
      (next : c.after? path stage answer = some stage') :
      Works c path (answers ++ [answer]) (calls ++ answer.calls path stage') stage'

variable {m : Type → Type} {c : BatchContext m} {path : String} {answers : List TaskAnswer}
  {calls : List TaskCall} {stage : TaskStage}

theorem Works.stage?_eq (works : c.Works path answers calls stage) :
    c.stage? path answers = some stage := by
  induction works with
  | launched => rfl
  | told before next ih => rw [stage?_append_singleton, ih, Option.bind_some, next]

variable [Monad m]

/-- The context with all that it works with watched. -/
def recorded (c : BatchContext m) : BatchContext (Recorded m) where
  builder := c.builder
  overrides := c.overrides
  sink := c.sink.map (·.recorded)
  limit := c.limit
  label := c.label

variable [MonadWorkspace m]

/-- What a task does in one turn: it asks for what it waits for, and goes on with the answer. -/
def goOn (c : BatchContext m) (path : String) : TaskStage → m TaskStage
  | .reading => do
    let result ← MonadWorkspace.readFile path
    if let .ok bytes := result then
      MonadWorkspace.log (c.builder.build c.overrides path bytes).log
    return c.afterReading path result
  | .emitting a =>
    match c.sink with
    | none => return .emitting a
    | some sink => return .finished (.ofEmission sink.name a (← sink.emit a))
  | .finished how => return .finished how

variable [LawfulMonad m]

end BatchContext
end AgentManifest
