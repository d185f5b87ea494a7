import AgentManifest.Json.Reader

/-! What can be wrong with a schema. A fault in the schema itself is placed by the member names that
lead to it from the root, written `#/a/b`. -/

namespace AgentManifest

/-- The member names that lead from the root of a schema to a place in it. -/
abbrev SchemaLocation := List String

namespace SchemaLocation

def root : SchemaLocation := []

def member (l : SchemaLocation) (name : String) : SchemaLocation := l ++ [name]

def text (l : SchemaLocation) : String := "#" ++ String.join (l.map ("/" ++ ·))

end SchemaLocation

inductive SchemaFault where
  | rootNotObject
  | notSchema
  | nestedDefinitions
  | unsupportedReference
  | enumWithConst
  | notNonEmptyArray
  | notCount
  | notNumber
  | notObject
  | notNames
  | notTypes
  | typeNotString
  | unknownType (name : String)
  | unsupportedKeyword (name : String)
  | unresolvedReference (target : String)
  deriving DecidableEq, Repr

def SchemaFault.text : SchemaFault → String
  | .rootNotObject => "root schema must be an object"
  | .notSchema => "schema must be an object or `true`"
  | .nestedDefinitions => "nested $defs are not supported"
  | .unsupportedReference => "only local `#/$defs/<name>` references are supported"
  | .enumWithConst => "`enum` and `const` are mutually exclusive"
  | .notNonEmptyArray => "must be a non-empty array"
  | .notCount => "must be a non-negative integer"
  | .notNumber => "must be a number"
  | .notObject => "must be an object"
  | .notNames => "must be an array of strings"
  | .notTypes => "must be a type name or non-empty array"
  | .typeNotString => "type names must be strings"
  | .unknownType name => s!"unknown type '{name}'"
  | .unsupportedKeyword name => s!"unsupported keyword '{name}'"
  | .unresolvedReference target => s!"unresolved reference '#/$defs/{target}'"

inductive SchemaError where
  | unreadable (e : Json.ReadError)
  | malformed (location : SchemaLocation) (fault : SchemaFault)
  | notFound (path : String)
  deriving DecidableEq, Repr

def SchemaError.text : SchemaError → String
  | .unreadable e => s!"schema source is not valid JSON: {e.text}"
  | .malformed location fault => s!"invalid schema at {location.text}: {fault.text}"
  | .notFound path => s!"schema path not found: {path}"

end AgentManifest
