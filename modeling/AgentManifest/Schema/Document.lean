import AgentManifest.Schema.Basic
import AgentManifest.Schema.Fault

/-! Schemas written as value trees. The keywords of a schema are read in the order of its members;
the definitions come before the root, and references are only looked up when everything has been
read. -/

namespace AgentManifest

namespace Schema

/-- The keywords that say nothing about values. -/
def annotations : List String :=
  ["$schema", "$id", "$comment", "title", "description", "examples", "default"]

def refuse {α : Type} (at_ : SchemaLocation) (fault : SchemaFault) : Except SchemaError α :=
  .error (.malformed at_ fault)

def referenceTarget? : Json → Option String
  | .string s =>
    match s.toList with
    | '#' :: '/' :: '$' :: 'd' :: 'e' :: 'f' :: 's' :: '/' :: name =>
      if name = [] || '/' ∈ name then none else some (String.ofList name)
    | _ => none
  | _ => none

def names? : List Json → Option (List String)
  | [] => some []
  | .string s :: rest => (names? rest).map (s :: ·)
  | _ :: _ => none

def typesNamed : List String → Except SchemaFault (List JsonType)
  | [] => .ok []
  | name :: rest =>
    match JsonType.ofName? name with
    | some t => do return t :: (← typesNamed rest)
    | none => .error (.unknownType name)

def types : Json → Except SchemaFault (List JsonType)
  | .string name => typesNamed [name]
  | .array (first :: rest) =>
    match names? (first :: rest) with
    | some names => typesNamed names
    | none => .error .typeNotString
  | _ => .error .notTypes

def count : Json → Except SchemaFault Nat
  | .number n => match n.toNat? with
    | some k => .ok k
    | none => .error .notCount
  | _ => .error .notCount

def bound : Json → Except SchemaFault Binary64
  | .number n => .ok n.toBinary64
  | _ => .error .notNumber

def requiredNames : Json → Except SchemaFault (List String)
  | .array values => match names? values with
    | some names => .ok names
    | none => .error .notNames
  | _ => .error .notNames

def enumerated : Json → Except SchemaFault (List Json)
  | .array (first :: rest) => .ok (first :: rest)
  | _ => .error .notNonEmptyArray

def ruleKeyword (key : String) (value : Json) (r : Rules) : Except SchemaFault Rules :=
  match key with
  | "$defs" => .error .nestedDefinitions
  | "$ref" => match referenceTarget? value with
    | some target => .ok { r with reference := some target }
    | none => .error .unsupportedReference
  | "type" => do return { r with types := some (← types value) }
  | "enum" =>
    if r.allowed.isSome then .error .enumWithConst
    else do return { r with allowed := some (← enumerated value) }
  | "const" =>
    if r.allowed.isSome then .error .enumWithConst
    else .ok { r with allowed := some [value] }
  | "minLength" => do return { r with minLength := some (← count value) }
  | "maxLength" => do return { r with maxLength := some (← count value) }
  | "minItems" => do return { r with minItems := some (← count value) }
  | "maxItems" => do return { r with maxItems := some (← count value) }
  | "minimum" => do return { r with minimum := some (← bound value) }
  | "maximum" => do return { r with maximum := some (← bound value) }
  | "required" => do return { r with required := ← requiredNames value }
  | _ => if key ∈ annotations then .ok r else .error (.unsupportedKeyword key)

mutual

def ofJson (at_ : SchemaLocation) : Json → Except SchemaError Schema
  | .bool true => .ok any
  | .object members => ofMembers at_ any members
  | _ => refuse at_ .notSchema

def ofMembers (at_ : SchemaLocation) (s : Schema) :
    List (String × Json) → Except SchemaError Schema
  | [] => .ok s
  | (key, value) :: rest => do
    let place := at_.member key
    let s ←
      if key = "items" then do
        pure { s with items := some (← ofJson place value) }
      else if key = "additionalProperties" then
        match value with
        | .bool true => pure { s with additional := .allowed }
        | .bool false => pure { s with additional := .forbidden }
        | other => do pure { s with additional := .schema (← ofJson place other) }
      else if key = "properties" then
        match value with
        | .object properties => do
          pure { s with properties := ← ofProperties place properties }
        | _ => refuse place .notObject
      else
        match ruleKeyword key value s.rules with
        | .ok rules => pure { s with rules }
        | .error fault => refuse place fault
    ofMembers at_ s rest

def ofProperties (at_ : SchemaLocation) : List (String × Json) → Except SchemaError (Keyed Schema)
  | [] => .ok []
  | (name, value) :: rest => do
    let s ← ofJson (at_.member name) value
    return Keyed.insert name s (← ofProperties at_ rest)

end

mutual

/-- Refuses the first reference to no definition: the one of the schema itself, then those of its
elements and members. -/
def checkReferences (definitions : Keyed Schema) (at_ : SchemaLocation) :
    Schema → Except SchemaError Unit
  | ⟨rules, items, properties, additional⟩ => do
    match rules.reference with
    | some target =>
      if Keyed.contains target definitions then pure ()
      else refuse (at_.member "$ref") (.unresolvedReference target)
    | none => pure ()
    match items with
    | some s => checkReferences definitions (at_.member "items") s
    | none => pure ()
    checkPropertyReferences definitions (at_.member "properties") properties
    match additional with
    | .schema s => checkReferences definitions (at_.member "additionalProperties") s
    | .allowed | .forbidden => pure ()

def checkPropertyReferences (definitions : Keyed Schema) (at_ : SchemaLocation) :
    List (String × Schema) → Except SchemaError Unit
  | [] => .ok ()
  | (name, s) :: rest => do
    checkReferences definitions (at_.member name) s
    checkPropertyReferences definitions at_ rest

end

end Schema

namespace SchemaStore

def ofJson : Json → Except SchemaError SchemaStore
  | .object members => do
    let definitions ← match Keyed.get? "$defs" members with
      | none => pure []
      | some (.object written) => Schema.ofProperties ["$defs"] written
      | some _ => Schema.refuse ["$defs"] .notObject
    let root ← Schema.ofMembers .root .any (Keyed.erase "$defs" members)
    Schema.checkReferences definitions .root root
    Schema.checkPropertyReferences definitions ["$defs"] definitions
    return ⟨root, definitions⟩
  | _ => Schema.refuse .root .rootNotObject

def ofText (text : String) : Except SchemaError SchemaStore :=
  match Json.parse text with
  | .ok tree => ofJson tree
  | .error e => .error (.unreadable e)

end SchemaStore
end AgentManifest
