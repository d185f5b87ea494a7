import AgentManifest.Decimal.Literal
import AgentManifest.Json.Basic
import AgentManifest.Toml.Table

/-! Reading a TOML text as a value tree. A date-time becomes an object with its text under a
reserved key, and what is no finite number becomes null. -/

namespace AgentManifest.Toml

def dateTimeKey : String := "$__toml_private_datetime"

namespace Value

def integer? (radix : Radix) (cs : List Char) : Option Int :=
  let (negative, digits) := DecimalLiteral.splitSign cs
  if digits.isEmpty then none
  else
    let n? := digits.foldl (fun n c => do
      let d ← Scalar.hexValue? c
      if d < radix.base then return (← n) * radix.base + d else none) (some 0)
    n?.map fun n => if negative then -(n : Int) else n

def halfRange : Int := 0x80000000000000000000000000000000

/-- An integer as a number of a tree; it has to have at most 128 bits to be looked at, and to be one
that trees store. -/
def integer (radix : Radix) (cs : List Char) (offset : Nat) : Except Fault Json :=
  match integer? radix cs with
  | none => refuse .integerOverflow offset
  | some i =>
    if i < -halfRange || 2 * halfRange ≤ i then refuse .integerOverflow offset
    else if Number.fits i then .ok (.number (.integer i))
    else refuse .outOfRange offset

def isWord (cs : List Char) : Bool :=
  let word := (DecimalLiteral.splitSign cs).2
  word = ['i', 'n', 'f'] || word = ['n', 'a', 'n']

def float (cs : List Char) (offset : Nat) : Except Fault Json :=
  if isWord cs then .ok .null
  else match (DecimalLiteral.ofChars? cs).bind DecimalLiteral.toBinary64? with
    | some x => .ok (.number (.float x))
    | none => refuse .floatOverflow offset

def scalar (v : Scalar) (offset : Nat) : Except Fault Json :=
  match v with
  | .string s => .ok (.string s)
  | .boolean b => .ok (.bool b)
  | .dateTime d => .ok (.object [(dateTimeKey, .string d.text)])
  | .integer radix digits => integer radix digits offset
  | .float text => float text offset

mutual

/-- The tree of a value; of several faults the first in key order counts. -/
def ofNode : Node → Except Fault Json
  | .scalar v offset => scalar v offset
  | .array items => do return .array (← ofNodes items)
  | .tables items => do return .array (← ofNodes items)
  | .table _ entries => do return .object (← ofEntries entries)

def ofNodes : List Node → Except Fault (List Json)
  | [] => .ok []
  | n :: rest => do
    let v ← ofNode n
    return v :: (← ofNodes rest)

def ofEntries : List (String × Node) → Except Fault Members
  | [] => .ok []
  | (key, n) :: rest => do
    let v ← ofNode n
    return (key, v) :: (← ofEntries rest)

end

end Value

def parse (text : String) : Except Fault Json := do
  let statements ← Statement.ofTokens (Token.scan text.toList)
  let entries ← Node.ofStatements statements
  return (Json.object (← Value.ofEntries entries)).canonical

end AgentManifest.Toml
