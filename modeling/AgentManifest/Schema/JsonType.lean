import AgentManifest.Json.Basic

/-! The types that a schema can ask of a value. An integer is a number as well, so a schema that
asks for numbers admits integers. -/

namespace AgentManifest

inductive JsonType where
  | object
  | array
  | string
  | integer
  | number
  | boolean
  | null
  deriving DecidableEq, Repr

namespace JsonType

def name : JsonType → String
  | .object => "object"
  | .array => "array"
  | .string => "string"
  | .integer => "integer"
  | .number => "number"
  | .boolean => "boolean"
  | .null => "null"

def ofName? : String → Option JsonType
  | "object" => some .object
  | "array" => some .array
  | "string" => some .string
  | "integer" => some .integer
  | "number" => some .number
  | "boolean" => some .boolean
  | "null" => some .null
  | _ => none

/-- The narrowest type of a value. A number is an integer if it is stored as one. -/
def ofValue : Json → JsonType
  | .object _ => .object
  | .array _ => .array
  | .string _ => .string
  | .number (.integer _) => .integer
  | .number (.float _) => .number
  | .bool _ => .boolean
  | .null => .null

def admits (wanted actual : JsonType) : Bool :=
  wanted = actual || (wanted = .number && actual = .integer)

end JsonType
end AgentManifest
