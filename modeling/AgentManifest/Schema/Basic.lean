import AgentManifest.Schema.JsonType

/-! Schemas of value trees. A schema holds rules for the value itself and schemas for what lies
inside it; all of them have to be met. A reference brings in the rules of a definition of the same
store. -/

namespace AgentManifest

inductive Additional (α : Type) where
  | allowed
  | forbidden
  | schema (s : α)
  deriving Repr

/-- The rules that look at a value itself and not into it. -/
structure Rules where
  reference : Option String := none
  types : Option (List JsonType) := none
  allowed : Option (List Json) := none
  minLength : Option Nat := none
  maxLength : Option Nat := none
  minimum : Option Binary64 := none
  maximum : Option Binary64 := none
  minItems : Option Nat := none
  maxItems : Option Nat := none
  required : List String := []
  deriving Repr, Inhabited

structure Schema where
  rules : Rules
  items : Option Schema
  properties : List (String × Schema)
  additional : Additional Schema
  deriving Repr

namespace Schema

def any : Schema := ⟨{}, none, [], .allowed⟩

instance : Inhabited Schema := ⟨any⟩

def memberRule (s : Schema) (key : String) : Additional Schema :=
  match Keyed.get? key s.properties with
  | some property => .schema property
  | none => s.additional

end Schema

structure SchemaStore where
  root : Schema
  definitions : Keyed Schema
  deriving Repr

namespace SchemaStore

def definition? (store : SchemaStore) (name : String) : Option Schema :=
  Keyed.get? name store.definitions

/-- Follows references from a schema, at most `hops` of them. The schemas met are listed from the
last to the first; a reference that is left when no more may be followed is named. -/
def followWithin (store : SchemaStore) : Nat → Schema → List Schema × Option String
  | hops, s =>
    match s.rules.reference with
    | none => ([s], none)
    | some target =>
      match hops, store.definition? target with
      | hops + 1, some next =>
        let (met, left) := followWithin store hops next
        (met ++ [s], left)
      | _, _ => ([s], some target)

/-- The number of references followed from one schema, which a chain without a cycle never needs. -/
def hopLimit (store : SchemaStore) : Nat := store.definitions.length + 1

/-- The schemas that a value has to meet along with a schema, the last referenced one first. -/
def follow (store : SchemaStore) (s : Schema) : List Schema × Option String :=
  followWithin store store.hopLimit s

def resolveWithin (store : SchemaStore) : Nat → Schema → Schema
  | 0, s => s
  | hops + 1, s =>
    match s.rules.reference.bind store.definition? with
    | some next => resolveWithin store hops next
    | none => s

/-- The schema at the end of the references of a schema; on a cycle, the one that is reached after
as many references as there are definitions. -/
def resolved (store : SchemaStore) (s : Schema) : Schema :=
  resolveWithin store store.definitions.length s

end SchemaStore
end AgentManifest
