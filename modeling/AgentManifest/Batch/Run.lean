import AgentManifest.Batch.Schedule
import AgentManifest.Build.Builder
import AgentManifest.Delivery.Sink

/-! Runs over many documents: each is read, built into an agent, and given to the sink if there is
one. Of the tasks in flight the oldest settles first. -/

namespace AgentManifest

structure BatchContext (m : Type → Type) where
  builder : Builder
  overrides : Overrides
  /-- Without a sink agents are only checked. -/
  sink : Option (Sink m)
  limit : Nat
  label : Nat → String := toString

namespace BatchContext

variable {m : Type → Type} [Monad m] [MonadWorkspace m]

def emit (c : BatchContext m) (a : Agent) : m TaskEnd :=
  match c.sink with
  | none => pure (.completed (.ok ⟨a.qualifiedName, none⟩))
  | some sink => do
    match ← sink.emit a with
    | .delivered receipt => return .completed (.ok ⟨a.qualifiedName, some receipt⟩)
    | .failed chain => return .completed (.error (.sink sink.name chain))
    | .gaveUp message => return .gaveUp message

def process (c : BatchContext m) (path : String) : m TaskEnd := do
  match ← MonadWorkspace.readFile path with
  | .error e => return .completed (.error (.read path e.text))
  | .ok bytes =>
    let built := c.builder.build c.overrides path bytes
    MonadWorkspace.log built.log
    match built.result with
    | .error e => return .completed (.error (.build e))
    | .ok a => c.emit a

def advance (c : BatchContext m) (b : Batch) : m Batch := do
  let b := b.fill
  match b.inFlight with
  | [] => return b
  | task :: rest =>
    let how ← c.process task.path
    MonadWorkspace.log ((how.complaint? (c.label task.index)).toList.map fun text =>
      .warning s!"document task join error: {text}")
    return { b with inFlight := rest, ended := b.ended ++ [(task, how)] }

def settle (c : BatchContext m) : Nat → Batch → m Batch
  | 0, b => pure b
  | n + 1, b => do settle c n (← c.advance b)

def run (c : BatchContext m) (files : List String) : m BatchReport := do
  let b ← c.settle files.length (.ofFiles c.limit files)
  return b.report c.label files

end BatchContext
end AgentManifest
