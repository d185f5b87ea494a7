import AgentManifest.Batch.Report
import AgentManifest.Text.Quoted

/-! How the documents of a run are worked on. Tasks are launched in the order of the documents,
never more at once than a limit allows, and settle in any order. A task that gives up has no
outcome; its document is reported as aborted, with the messages of all tasks that gave up. -/

namespace AgentManifest

structure BatchTask where
  index : Nat
  path : String
  deriving DecidableEq, Repr

inductive TaskEnd where
  | completed (outcome : DocumentOutcome)
  | gaveUp (message : String)

namespace TaskEnd

def outcome? : TaskEnd → Option DocumentOutcome
  | .completed outcome => some outcome
  | .gaveUp _ => none

def complaint? (label : String) : TaskEnd → Option String
  | .completed _ => none
  | .gaveUp message => some s!"task {label} panicked with message {quotedText message}"

end TaskEnd

structure Batch where
  limit : Nat
  pending : List BatchTask
  inFlight : List BatchTask
  ended : List (BatchTask × TaskEnd)

namespace Batch

def tasks (files : List String) : List BatchTask :=
  files.zipIdx.map fun (path, index) => ⟨index, path⟩

/-- A run that is about to begin. One task is always allowed. -/
def ofFiles (limit : Nat) (files : List String) : Batch := ⟨max limit 1, tasks files, [], []⟩

inductive Event where
  | launch
  | settle (index : Nat) (how : TaskEnd)

/-- What an event makes of a run; nothing if it cannot happen. -/
def step (b : Batch) : Event → Option Batch
  | .launch =>
    match b.pending with
    | [] => none
    | task :: rest =>
      if b.inFlight.length < b.limit then
        some { b with pending := rest, inFlight := b.inFlight ++ [task] }
      else none
  | .settle index how =>
    match b.inFlight.find? (·.index = index) with
    | none => none
    | some task =>
      some { b with inFlight := b.inFlight.erase task, ended := b.ended ++ [(task, how)] }

def fill (b : Batch) : Batch :=
  let room := b.limit - b.inFlight.length
  { b with pending := b.pending.drop room, inFlight := b.inFlight ++ b.pending.take room }

def endOf? (b : Batch) (index : Nat) : Option TaskEnd :=
  (b.ended.find? (·.1.index = index)).map (·.2)

def complaints (label : Nat → String) (b : Batch) : List String :=
  b.ended.filterMap fun (task, how) => how.complaint? (label task.index)

def outcomeOf (label : Nat → String) (b : Batch) (index : Nat) : DocumentOutcome :=
  ((b.endOf? index).bind TaskEnd.outcome?).getD
    (.error (.aborted ("; ".intercalate (b.complaints label))))

def report (label : Nat → String) (files : List String) (b : Batch) : BatchReport :=
  ⟨(tasks files).map fun task => ⟨task.path, b.outcomeOf label task.index⟩⟩

end Batch
end AgentManifest
