import AgentManifest.Decimal.Notation
import AgentManifest.FieldPath
import AgentManifest.Json.Printer
import AgentManifest.Schema.JsonType

/-! What a value can have against a schema. A `Breach` is one rule that a value does not meet, and a
`Violation` is the place of a breach with its kind and a sentence on it. -/

namespace AgentManifest

inductive ViolationKind where
  | missingField
  | unknownField
  | typeMismatch
  | notAllowed
  | tooShort
  | tooLong
  | tooFew
  | tooMany
  | outOfRange
  deriving DecidableEq, Repr

def ViolationKind.name : ViolationKind → String
  | .missingField => "missing_field"
  | .unknownField => "unknown_field"
  | .typeMismatch => "type_mismatch"
  | .notAllowed => "not_allowed"
  | .tooShort => "too_short"
  | .tooLong => "too_long"
  | .tooFew => "too_few"
  | .tooMany => "too_many"
  | .outOfRange => "out_of_range"

inductive Breach where
  | missing
  | unknown
  | wrongType (expected : List JsonType) (found : JsonType)
  | notListed (allowed : List Json) (found : Json)
  | shorter (least found : Nat)
  | longer (most found : Nat)
  | fewer (least found : Nat)
  | more (most found : Nat)
  | below (least found : Binary64)
  | above (most found : Binary64)

namespace Breach

def kind : Breach → ViolationKind
  | .missing => .missingField
  | .unknown => .unknownField
  | .wrongType .. => .typeMismatch
  | .notListed .. => .notAllowed
  | .shorter .. => .tooShort
  | .longer .. => .tooLong
  | .fewer .. => .tooFew
  | .more .. => .tooMany
  | .below .. | .above .. => .outOfRange

def text : Breach → String
  | .missing => "field is required"
  | .unknown => "field is not allowed"
  | .wrongType expected found =>
    let wanted := " or ".intercalate (expected.map JsonType.name)
    s!"expected {wanted}, found {found.name}"
  | .notListed allowed found =>
    let listed := ", ".intercalate (allowed.map Json.compact)
    if allowed.length = 1 then s!"must be {listed}, found {found.compact}"
    else s!"must be one of [{listed}], found {found.compact}"
  | .shorter least found =>
    if least = 1 then "must not be empty"
    else s!"must be at least {least} characters, found {found}"
  | .longer most found => s!"must be at most {most} characters, found {found}"
  | .fewer least found => s!"must contain at least {least} item(s), found {found}"
  | .more most found => s!"must contain at most {most} item(s), found {found}"
  | .below least found =>
    s!"must be >= {DecimalNotation.message.write least}, found {DecimalNotation.message.write found}"
  | .above most found =>
    s!"must be <= {DecimalNotation.message.write most}, found {DecimalNotation.message.write found}"

end Breach

structure Violation where
  path : FieldPath
  kind : ViolationKind
  message : String
  deriving DecidableEq, Repr

namespace Violation

def ofBreach (path : FieldPath) (b : Breach) : Violation := ⟨path, b.kind, b.text⟩

def under (v : Violation) (lead : FieldPath) : Violation := { v with path := v.path.under lead }

def text (v : Violation) : String := s!"{v.path.text}: {v.message}"

end Violation
end AgentManifest
