import AgentManifest.Delivery.Destination
import AgentManifest.Failure

/-! What became of the documents of a run, in the order in which they were given. -/

namespace AgentManifest

structure DocumentSuccess where
  agent : String
  receipt : Option Receipt
  deriving DecidableEq, Repr

abbrev DocumentOutcome := Except DocumentFailure DocumentSuccess

structure DocumentReport where
  path : String
  outcome : DocumentOutcome

namespace DocumentReport

def failure? (d : DocumentReport) : Option DocumentFailure :=
  match d.outcome with
  | .ok _ => none
  | .error failure => some failure

def succeeded (d : DocumentReport) : Bool := d.failure?.isNone

def line? (d : DocumentReport) : Option String :=
  d.failure?.map fun failure => s!"  - {d.path} ({failure.summary})\n"

end DocumentReport

structure BatchReport where
  documents : List DocumentReport

namespace BatchReport

def total (r : BatchReport) : Nat := r.documents.length

def succeeded (r : BatchReport) : Nat := r.documents.countP DocumentReport.succeeded

def failed (r : BatchReport) : List DocumentReport := r.documents.filter (!·.succeeded)

def allSucceeded (r : BatchReport) : Bool := r.documents.all DocumentReport.succeeded

def summary (runId : String) (r : BatchReport) : String :=
  let lines := r.documents.filterMap DocumentReport.line?
  s!"# Summary (run {runId})\nTotal documents: {r.total}\nSucceeded: {r.succeeded}\nFailed: {r.failed.length}\n"
    ++ if lines.isEmpty then "" else "\nFailed documents:\n" ++ String.join lines

def failures (r : BatchReport) : String :=
  String.join (r.documents.filterMap fun d => d.failure?.map fun failure =>
    failure.report d.path ++ "\n")

end BatchReport
end AgentManifest
