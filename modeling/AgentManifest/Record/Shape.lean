import AgentManifest.Record.Mismatch

/-! The shapes of records. A record is written as an object, or as the list of its fields in order.
`Shape.check` looks at members in the order they stand and then reports the first missing field. -/

namespace AgentManifest

structure Field (σ : Type) where
  name : String
  required : Bool
  shape : σ

inductive Shape where
  | tree
  | text
  | natural (bits : Nat)
  | nullable (inner : Shape)
  | list (item : Shape)
  /-- One of several names, alone or as an object with the name over null. -/
  | choice (names : List String)
  /-- A record with the given fields only. -/
  | record (name : String) (fields : List (Field Shape))
  /-- An object with a text under one name, and anything under others. -/
  | named (name key : String)

namespace Shape

def unsigned (bits : Nat) : String := s!"u{bits}"

def checkVariant (names : List String) (name : String) : Except Mismatch Unit :=
  if name ∈ names then .ok () else .error (.unknownVariant name names)

def missing (given : List String) (fields : List (Field Shape)) : List (Field Shape) :=
  fields.filter fun field => field.required && field.name ∉ given

def listText (name : String) (size : Nat) : String :=
  s!"struct {name} with {size} element" ++ if size = 1 then "" else "s"

def checkGiven (fields : List (Field Shape)) (given : List String) : Except Mismatch Unit :=
  match missing given fields with
  | [] => .ok ()
  | field :: _ => .error (.missingField field.name)

def checkLength (name : String) (fields : List (Field Shape)) (length : Nat) :
    Except Mismatch Unit :=
  match missing ((fields.map (·.name)).take length) fields with
  | field :: _ =>
    .error (.wrongLength ((fields.map (·.name)).idxOf field.name) (listText name fields.length))
  | [] =>
    if fields.length < length then .error (.wrongLength length "fewer elements in array")
    else .ok ()

mutual

def check : Shape → Json → Except Mismatch Unit
  | .tree, _ => .ok ()
  | .text, v => match v with
    | .string _ => .ok ()
    | v => .error (.wrongSort v "a string")
  | .natural bits, v => match v with
    | .number (.integer i) =>
      if 0 ≤ i ∧ i.toNat < Nat.pow 2 bits then .ok () else .error (.wrongValue v (unsigned bits))
    | v => .error (.wrongSort v (unsigned bits))
  | .nullable inner, v => match v with
    | .null => .ok ()
    | v => check inner v
  | .list item, v => match v with
    | .array elements => elements.forM fun v => check item v
    | v => .error (.wrongSort v "a sequence")
  | .choice names, v => match v with
    | .string name => checkVariant names name
    | .object [(name, content)] => do
      checkVariant names name
      match content with
      | .null => return
      | content => throw (.wrongSort content "unit")
    | .object members => .error (.wrongValue (.object members) "map with a single key")
    | v => .error (.wrongSort v "string or map")
  | .record name fields, v => match v with
    | .object members => do
      members.forM fun member => checkMember (fields.map (·.name)) fields member.1 member.2
      checkGiven fields (members.map (·.1))
    | .array elements => do
      checkElements fields elements
      checkLength name fields elements.length
    | v => .error (.wrongSort v s!"struct {name}")
  | .named name key, v => match v with
    | .object members => match members.lookup key with
      | some (.string _) => .ok ()
      | some v => .error (.wrongSort v "a string")
      | none => .error (.missingField key)
    | v => .error (.wrongSort v s!"struct {name}")

def checkMember (known : List String) :
    List (Field Shape) → String → Json → Except Mismatch Unit
  | [], key, _ => .error (.unknownField key known)
  | ⟨name, _, shape⟩ :: rest, key, v =>
    if name = key then check shape v else checkMember known rest key v

/-- Whether elements have the shapes of the fields in order, as far as there are both. -/
def checkElements : List (Field Shape) → List Json → Except Mismatch Unit
  | ⟨_, _, shape⟩ :: rest, v :: vs => do
    check shape v
    checkElements rest vs
  | _, _ => .ok ()

end

def members : Shape → Json → List (String × Json)
  | .record _ fields, .array elements => (fields.map (·.name)).zip elements
  | _, .object members => members
  | _, _ => []

end Shape

namespace Field

def needed (name : String) (shape : Shape) : Field Shape := ⟨name, true, shape⟩

def optional (name : String) (shape : Shape) : Field Shape := ⟨name, false, shape⟩

def option (name : String) (shape : Shape) : Field Shape := ⟨name, false, .nullable shape⟩

end Field
end AgentManifest
