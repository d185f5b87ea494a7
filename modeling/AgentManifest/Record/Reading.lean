import AgentManifest.Record.Shape

/-! Reading value trees as values of other types. A record is first held to its shape; then its
members are read one by one. -/

namespace AgentManifest

abbrev Reading (α : Type) := Json → Except Mismatch α

namespace Reading

def tree : Reading Json := .ok

def text : Reading String
  | .string s => .ok s
  | v => .error (.wrongSort v "a string")

/-- An integer from zero of at most so many bits. -/
def natural (bits : Nat) : Reading Nat
  | .number (.integer i) =>
    if 0 ≤ i ∧ i.toNat < Nat.pow 2 bits then .ok i.toNat
    else .error (.wrongValue (.number (.integer i)) (Shape.unsigned bits))
  | v => .error (.wrongSort v (Shape.unsigned bits))

def nullable {α : Type} (read : Reading α) : Reading (Option α)
  | .null => .ok none
  | v => (read v).map some

def all {α : Type} (read : Reading α) : List Json → Except Mismatch (List α)
  | [] => .ok []
  | v :: rest => do
    let first ← read v
    return first :: (← all read rest)

def list {α : Type} (read : Reading α) : Reading (List α)
  | .array elements => all read elements
  | v => .error (.wrongSort v "a sequence")

def variant {α : Type} (variants : List (String × α)) (name : String) : Except Mismatch α :=
  match variants.lookup name with
  | some a => .ok a
  | none => .error (.unknownVariant name (variants.map (·.1)))

def choice {α : Type} (variants : List (String × α)) : Reading α
  | .string name => variant variants name
  | .object [(name, content)] => do
    let a ← variant variants name
    match content with
    | .null => return a
    | v => throw (.wrongSort v "unit")
  | .object members => .error (.wrongValue (.object members) "map with a single key")
  | v => .error (.wrongSort v "string or map")

def record {α : Type} (shape : Shape) (ofMembers : List (String × Json) → Except Mismatch α) :
    Reading α := fun v => do
  shape.check v
  ofMembers (shape.members v)

end Reading

def neededMember {α : Type} (name : String) (read : Reading α) (given : List (String × Json)) :
    Except Mismatch α :=
  match given.lookup name with
  | some v => read v
  | none => .error (.missingField name)

/-- The value of a member, or what stands for it when it is left out. -/
def optionalMember {α : Type} (name : String) (read : Reading α) (absent : α)
    (given : List (String × Json)) : Except Mismatch α :=
  match given.lookup name with
  | some v => read v
  | none => .ok absent

/-- The value of a member that may be left out or null. -/
def optionMember {α : Type} (name : String) (read : Reading α) (given : List (String × Json)) :
    Except Mismatch (Option α) :=
  optionalMember name (Reading.nullable read) none given

def listMember {α : Type} (name : String) (read : Reading α) (given : List (String × Json)) :
    Except Mismatch (List α) :=
  optionalMember name (Reading.list read) [] given

end AgentManifest
