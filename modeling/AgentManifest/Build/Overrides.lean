import AgentManifest.Json.Basic

/-! Values that replace what a document says of the place and name of its agent. -/

namespace AgentManifest

structure Overrides where
  database : Option String
  schema : Option String
  name : Option String
  deriving DecidableEq, Repr

namespace Overrides

def none : Overrides := ⟨.none, .none, .none⟩

def set (key : String) (value : Option String) (members : Members) : Members :=
  match value with
  | some text => Keyed.insert key (.string text) members
  | .none => members

def apply (o : Overrides) : Json → Json
  | .object members =>
    .object (set "name" o.name (set "schema_name" o.schema (set "database_name" o.database members)))
  | v => v

end Overrides
end AgentManifest
