import AgentManifest.Json.Basic
import AgentManifest.Decimal.Literal

/-! What a scalar stands for. A plain scalar may be null, a truth value, an integer in one of four
bases, or a decimal number; digits behind a leading zero are text. A scalar with one of the standard
tags has to be what the tag says. -/

namespace AgentManifest.Yaml

inductive ScalarValue where
  | null
  | bool (value : Bool)
  | integer (value : Int)
  | number (value : Binary64)
  | notFinite
  | text (value : String)
  deriving DecidableEq, Repr

namespace ScalarValue

def isNull (s : String) : Bool := s = "null" || s = "Null" || s = "NULL" || s = "~"

def bool? (s : String) : Option Bool :=
  if s = "true" ∨ s = "True" ∨ s = "TRUE" then some true
  else if s = "false" ∨ s = "False" ∨ s = "FALSE" then some false
  else none

def digit? (base : Nat) (c : Char) : Option Nat :=
  let value :=
    if '0' ≤ c ∧ c ≤ '9' then some (c.toNat - 48)
    else if 'a' ≤ c ∧ c ≤ 'f' then some (c.toNat - 87)
    else if 'A' ≤ c ∧ c ≤ 'F' then some (c.toNat - 55)
    else none
  value.filter (· < base)

def digits? (base : Nat) (cs : List Char) : Option Nat :=
  if cs.isEmpty then none
  else cs.foldl (fun n c => do return (← n) * base + (← digit? base c)) (some 0)

def radix? : List Char → Option (Nat × List Char)
  | '0' :: 'x' :: rest => some (16, rest)
  | '0' :: 'o' :: rest => some (8, rest)
  | '0' :: 'b' :: rest => some (2, rest)
  | _ => none

def hasLeadingZero (cs : List Char) : Bool :=
  let digits := match cs with
    | '+' :: rest => rest
    | '-' :: rest => rest
    | _ => cs
  match digits with
  | '0' :: d :: rest => (d :: rest).all Char.isDigit
  | _ => false

def halfRange : Nat := 0x80000000000000000000000000000000

/-- An integer: a sign, and digits in base ten or behind the mark of another base. Only integers of
128 bits count. -/
def integer? (s : String) : Option Int :=
  let cs := s.toList
  let (negative, magnitude) := match cs with
    | '-' :: rest => (true, rest)
    | '+' :: rest => (false, rest)
    | _ => (false, cs)
  let n? := match radix? magnitude with
    | some (base, digits) => digits? base digits
    | none => if hasLeadingZero cs then none else digits? 10 magnitude
  match n? with
  | none => none
  | some n =>
    if negative then if n ≤ halfRange then some (-n) else none
    else if n < 2 * halfRange then some n else none

/-- A decimal number, or one of the spellings of infinity and of no number. The outer option says
whether it is any, the inner is empty for a value that is not finite. -/
def number? (s : String) : Option (Option Binary64) :=
  if [".inf", ".Inf", ".INF", "+.inf", "+.Inf", "+.INF", "-.inf", "-.Inf", "-.INF",
      ".nan", ".NaN", ".NAN"].contains s then some none
  else
    match DecimalLiteral.ofString? s with
    | none => none
    | some literal => literal.toBinary64?.map some

def ofPlain (s : String) : ScalarValue :=
  if s.isEmpty || isNull s then .null
  else match bool? s with
    | some b => .bool b
    | none => match integer? s with
      | some i => .integer i
      | none =>
        if hasLeadingZero s.toList then .text s
        else match number? s with
          | some (some x) => .number x
          | some none => .notFinite
          | none => .text s

inductive Kind where
  | boolean
  | integer
  | float
  | null
  deriving DecidableEq, Repr

def Kind.expected : Kind → String
  | .boolean => "a boolean"
  | .integer => "an integer"
  | .float => "a float"
  | .null => "null"

def Kind.ofTag? (tag : String) : Option Kind :=
  if tag = "tag:yaml.org,2002:bool" then some .boolean
  else if tag = "tag:yaml.org,2002:int" then some .integer
  else if tag = "tag:yaml.org,2002:float" then some .float
  else if tag = "tag:yaml.org,2002:null" then some .null
  else none

def ofKind? (kind : Kind) (s : String) : Option ScalarValue :=
  match kind with
  | .boolean => (bool? s).map .bool
  | .integer => (integer? s).map .integer
  | .float => (number? s).map fun x => match x with
    | some x => .number x
    | none => .notFinite
  | .null => if isNull s then some .null else none

end ScalarValue
end AgentManifest.Yaml
