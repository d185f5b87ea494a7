import AgentManifest.Text.Blank

/-! What the service does when the agent to be created exists already. -/

namespace AgentManifest

inductive CreateMode where
  | errorIfExists
  | orReplace
  | ifNotExists
  deriving DecidableEq, Repr, Inhabited

namespace CreateMode

def name : CreateMode → String
  | .errorIfExists => "errorIfExists"
  | .orReplace => "orReplace"
  | .ifNotExists => "ifNotExists"

structure Unknown where
  text : String
  deriving DecidableEq, Repr

def Unknown.message (u : Unknown) : String :=
  s!"unknown create mode '{u.text}' (expected errorIfExists, orReplace or ifNotExists)"

/-- The mode of a name in any ASCII case, hyphens and underscores aside. -/
def ofText (text : String) : Except Unknown CreateMode :=
  match String.ofList (Text.foldCase (text.toList.filter fun c => c ≠ '-' && c ≠ '_')) with
  | "errorifexists" => .ok .errorIfExists
  | "orreplace" => .ok .orReplace
  | "ifnotexists" => .ok .ifNotExists
  | _ => .error ⟨text⟩

end CreateMode
end AgentManifest
