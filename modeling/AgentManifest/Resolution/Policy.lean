import AgentManifest.Text.Blank

/-! What becomes of a tool that needs a resource and has none. -/

namespace AgentManifest

inductive MissingResourcePolicy where
  /-- The document is refused. -/
  | strict
  /-- A warning is logged, and the tool stays without a resource. -/
  | lenient
  deriving DecidableEq, Repr, Inhabited

namespace MissingResourcePolicy

def name : MissingResourcePolicy → String
  | .strict => "strict"
  | .lenient => "lenient"

structure Unknown where
  name : String
  deriving DecidableEq, Repr

def Unknown.text (u : Unknown) : String :=
  s!"unknown missing-resource policy '{u.name}' (expected strict or lenient)"

/-- The policy of a name in any ASCII case, blanks around it aside. -/
def ofText (text : String) : Except Unknown MissingResourcePolicy :=
  match String.ofList (Text.foldCase (Text.trimBlanks text.toList)) with
  | "strict" => .ok .strict
  | "lenient" => .ok .lenient
  | other => .error ⟨other⟩

end MissingResourcePolicy
end AgentManifest
