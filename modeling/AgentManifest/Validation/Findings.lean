import AgentManifest.Schema.Lookup
import AgentManifest.Validation.Violation

/-! Checking a value tree against a schema. Everything found is listed in the order of the document:
what a value itself breaks before what lies inside it, missing members before the members there are.
A value of a wrong type is not looked into. -/

namespace AgentManifest

inductive Finding where
  | violation (v : Violation)
  /-- A chain of references that did not end, with the definition it broke off at. -/
  | endlessReference (target : String) (path : FieldPath)

namespace Finding

def violation? : Finding → Option Violation
  | .violation v => some v
  | .endlessReference .. => none

def notice? : Finding → Option String
  | .violation _ => none
  | .endlessReference target path => some s!"unresolvable reference '{target}' at {path.text}"

end Finding

namespace Rules

def admits (r : Rules) (v : Json) : Bool :=
  match r.types with
  | some types => types.any (·.admits (JsonType.ofValue v))
  | none => true

def lists (r : Rules) (v : Json) : Bool :=
  match r.allowed with
  | some allowed => allowed.any (·.same v)
  | none => true

def sizeBreaches (r : Rules) : Json → List Breach
  | .string s =>
    (r.minLength.filter (s.length < ·)).toList.map (.shorter · s.length)
      ++ (r.maxLength.filter (· < s.length)).toList.map (.longer · s.length)
  | .number n =>
    let x := n.toBinary64
    (r.minimum.filter (x.lt ·)).toList.map (.below · x)
      ++ (r.maximum.filter (·.lt x)).toList.map (.above · x)
  | .array elements =>
    (r.minItems.filter (elements.length < ·)).toList.map (.fewer · elements.length)
      ++ (r.maxItems.filter (· < elements.length)).toList.map (.more · elements.length)
  | .null | .bool _ | .object _ => []

/-- The rules that a value itself breaks. If it is of a wrong type, no other rule counts. -/
def breaches (r : Rules) (v : Json) : List Breach :=
  if r.admits v then
    (if r.lists v then [] else [.notListed (r.allowed.getD []) v]) ++ r.sizeBreaches v
  else [.wrongType (r.types.getD []) (JsonType.ofValue v)]

def missing (r : Rules) (members : Members) : List String :=
  r.required.filter fun name => !Keyed.contains name members

end Rules

namespace SchemaStore

def alongReferences (store : SchemaStore) (s : Schema) (path : FieldPath)
    (report : Schema → List Finding) : List Finding :=
  let (met, left) := store.follow s
  (match left with
    | some target => [.endlessReference target path]
    | none => []) ++ met.flatMap report

def ownFindings (r : Rules) (path : FieldPath) (v : Json) : List Finding :=
  (r.breaches v).map fun b => .violation (.ofBreach path b)

def missingFindings (r : Rules) (path : FieldPath) (members : Members) : List Finding :=
  (r.missing members).map fun name => .violation (.ofBreach (path.field name) .missing)

mutual

def findings (store : SchemaStore) (s : Schema) (path : FieldPath) : Json → List Finding
  | .array elements =>
    store.alongReferences s path fun met =>
      ownFindings met.rules path (.array elements) ++
        match met.rules.admits (.array elements), met.items with
        | true, some items => elementFindings store items path 0 elements
        | _, _ => []
  | .object members =>
    store.alongReferences s path fun met =>
      ownFindings met.rules path (.object members) ++
        if met.rules.admits (.object members) then
          missingFindings met.rules path members ++ memberFindings store met path members
        else []
  | v => store.alongReferences s path fun met => ownFindings met.rules path v

/-- What the elements have against a schema, the first of them at the given index. -/
def elementFindings (store : SchemaStore) (s : Schema) (path : FieldPath) (position : Nat) :
    List Json → List Finding
  | [] => []
  | v :: rest =>
    findings store s (path.index position) v
      ++ elementFindings store s path (position + 1) rest

def memberFindings (store : SchemaStore) (s : Schema) (path : FieldPath) :
    List (String × Json) → List Finding
  | [] => []
  | (key, v) :: rest =>
    (match s.memberRule key with
      | .allowed => []
      | .forbidden => [.violation (.ofBreach (path.field key) .unknown)]
      | .schema member => findings store member (path.field key) v)
      ++ memberFindings store s path rest

end

end SchemaStore

structure ValidationError where
  schema : String
  violations : List Violation
  deriving DecidableEq, Repr

namespace ValidationError

def firstText : List String → String
  | [] => ""
  | [only] => s!": {only}"
  | first :: rest => s!": {first} (and {rest.length} more)"

def text (e : ValidationError) : String :=
  s!"{e.violations.length} validation error(s) against {e.schema}"
    ++ firstText (e.violations.map Violation.text)

end ValidationError

namespace SubSchema

def findings (sub : SubSchema) (v : Json) : List Finding :=
  sub.store.findings sub.schema .root v

def violations (sub : SubSchema) (v : Json) : List Violation :=
  (sub.findings v).filterMap Finding.violation?

def notices (sub : SubSchema) (v : Json) : List String :=
  (sub.findings v).filterMap Finding.notice?

/-- The value itself, if it meets the schema. -/
def validate (sub : SubSchema) (v : Json) : Except ValidationError Json :=
  match sub.violations v with
  | [] => .ok v
  | found => .error ⟨sub.path, found⟩

end SubSchema
end AgentManifest
