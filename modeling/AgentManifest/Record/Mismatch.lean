import AgentManifest.Json.Printer
import AgentManifest.Text.Quoted

/-! Why a value tree is not the record it should be. Each cause says what was found or what was
missing, and what was expected in its place. -/

namespace AgentManifest

inductive Mismatch where
  | wrongSort (found : Json) (expected : String)
  | wrongValue (found : Json) (expected : String)
  | unknownField (name : String) (known : List String)
  | unknownVariant (name : String) (known : List String)
  | missingField (name : String)
  | repeatedField (name : String)
  | wrongLength (found : Nat) (expected : String)

namespace Mismatch

def foundText : Json → String
  | .null => "null"
  | .bool b => s!"boolean `{b}`"
  | .number (.integer i) => s!"integer `{i}`"
  | .number (.float x) => s!"floating point `{DecimalNotation.document.write x}`"
  | .string s => "string " ++ quotedText s
  | .array _ => "sequence"
  | .object _ => "map"

def choiceText : List String → String
  | [] => "there are no choices"
  | [only] => s!"expected `{only}`"
  | [first, second] => s!"expected `{first}` or `{second}`"
  | names => "expected one of " ++ ", ".intercalate (names.map fun name => s!"`{name}`")

def text : Mismatch → String
  | .wrongSort found expected => s!"invalid type: {foundText found}, expected {expected}"
  | .wrongValue found expected => s!"invalid value: {foundText found}, expected {expected}"
  | .unknownField name known => s!"unknown field `{name}`, {choiceText known}"
  | .unknownVariant name known => s!"unknown variant `{name}`, {choiceText known}"
  | .missingField name => s!"missing field `{name}`"
  | .repeatedField name => s!"duplicate field `{name}`"
  | .wrongLength found expected => s!"invalid length {found}, expected {expected}"

end Mismatch
end AgentManifest
