import AgentManifest.Schema.Basic
import AgentManifest.Schema.Fault
import AgentManifest.Text.Split

/-! Choosing a part of a schema by its path, such as `#/$defs/Agent/properties/name`. A step into a
schema goes into the schema at the end of its references. -/

namespace AgentManifest

structure SubSchema where
  store : SchemaStore
  schema : Schema
  path : String

namespace SchemaStore

def descend? (store : SchemaStore) (s : Schema) : List String → Option Schema
  | [] => some s
  | "properties" :: name :: rest => do
    descend? store (← Keyed.get? name (store.resolved s).properties) rest
  | "items" :: rest => do descend? store (← (store.resolved s).items) rest
  | "additionalProperties" :: rest =>
    match (store.resolved s).additional with
    | .schema extra => descend? store extra rest
    | .allowed | .forbidden => none
  | _ :: _ => none

/-- The schema that path segments lead to from the root, where alone definitions can be chosen. -/
def select? (store : SchemaStore) : List String → Option Schema
  | "$defs" :: name :: rest => do store.descend? (← store.definition? name) rest
  | segments => store.descend? store.root segments

def withoutRootMark (path : String) : List Char :=
  match path.toList with
  | '#' :: rest => rest
  | text => text

/-- The segments of a path; empty ones do not count. -/
def segments (path : String) : List String :=
  ((Text.splitAt '/' (withoutRootMark path)).filter (· ≠ [])).map String.ofList

def lookup (store : SchemaStore) (path : String) : Except SchemaError SubSchema :=
  match store.select? (segments path) with
  | some schema => .ok ⟨store, schema, "#" ++ String.ofList (withoutRootMark path)⟩
  | none => .error (.notFound path)

end SchemaStore
end AgentManifest
