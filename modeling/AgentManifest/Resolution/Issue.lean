import AgentManifest.Agent.ToolType
import AgentManifest.Validation.Findings

/-! What can be wrong when tools are joined with tool resources. -/

namespace AgentManifest

inductive ResourceIssue where
  | unmatched (name : String)
  | missing (name : String) (toolType : ToolType)
  /-- Paths of the violations start at the root of the document. -/
  | invalidPayload (name : String) (toolType : ToolType) (violations : List Violation)
  | duplicateTool (name : String)
  | duplicateResource (name : String)
  deriving DecidableEq, Repr

namespace ResourceIssue

def name : ResourceIssue → String
  | .unmatched name | .missing name _ | .invalidPayload name _ _ | .duplicateTool name
  | .duplicateResource name => name

def violationsText : List Violation → String
  | [] => "no details"
  | [only] => only.text
  | first :: rest => s!"{first.text} (and {rest.length} more)"

def text : ResourceIssue → String
  | .unmatched name => s!"tool resource '{name}' does not match any declared tool"
  | .missing name toolType => s!"tool '{name}' ({toolType.name}) has no tool resource"
  | .invalidPayload name toolType violations =>
    s!"tool resource '{name}' is not a valid {toolType.name} resource: {violationsText violations}"
  | .duplicateTool name => s!"tool '{name}' is declared more than once"
  | .duplicateResource name => s!"tool resource '{name}' is given more than once"

/-- The lines on it: one for each violation, or one in all. -/
def lines (i : ResourceIssue) : List String :=
  match i with
  | .invalidPayload name _ (first :: rest) =>
    (first :: rest).map fun v => s!"{v.text} (tool resource '{name}')"
  | _ => [i.text]

def count : ResourceIssue → Nat
  | .invalidPayload _ _ violations => max violations.length 1
  | _ => 1

end ResourceIssue

structure ResolveError where
  issues : List ResourceIssue
  deriving DecidableEq, Repr

namespace ResolveError

def text (e : ResolveError) : String :=
  s!"{e.issues.length} tool resource issue(s)"
    ++ ValidationError.firstText (e.issues.map ResourceIssue.text)

def lines (e : ResolveError) : List String := e.issues.flatMap ResourceIssue.lines

def count (e : ResolveError) : Nat := e.issues.foldr (fun i n => i.count + n) 0

end ResolveError
end AgentManifest
