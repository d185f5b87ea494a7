import AgentManifest.Decimal.Notation
import AgentManifest.Delivery.CreateMode
import AgentManifest.FilePath
import AgentManifest.Record.Mismatch
import AgentManifest.Resolution.Policy
import AgentManifest.Toml.Value

/-! The configuration file: a TOML text with a section on logging and one on how documents are
handled. Every entry may be left out. A section is a table, or an array of all its entries in
order. -/

namespace AgentManifest

structure LoggingConfig where
  toFile : Option Bool := none
  directory : Option String := none
  json : Option Bool := none
  compact : Option Bool := none
  pretty : Option Bool := none
  level : Option String := none
  deriving DecidableEq, Repr

structure IntakeConfig where
  missingResources : Option MissingResourcePolicy := none
  createMode : Option CreateMode := none
  baseUrl : Option String := none
  /-- A leading `~/` stands for the user's home. -/
  outputDirectory : Option String := none
  maxConcurrency : Option Nat := none
  deriving DecidableEq, Repr

structure UserConfig where
  logging : Option LoggingConfig := none
  intake : Option IntakeConfig := none
  deriving DecidableEq, Repr

namespace UserConfig

open Toml

inductive Found where
  | boolean (value : Bool)
  | integer (value : Int)
  /-- An integer of 128 bits that is no shorter. -/
  | wideInteger (value : Int)
  | number (value : Binary64)
  | word (text : String)
  | string (value : String)
  | sequence
  | map

def pointedText (x : Binary64) : String :=
  let text := DecimalNotation.message.write x
  if text.toList.contains '.' then text else text ++ ".0"

def Found.text : Found → String
  | .boolean b => s!"boolean `{b}`"
  | .integer i => s!"integer `{i}`"
  | .wideInteger i => if i < Toml.Value.halfRange then s!"integer `{i}` as i128" else s!"integer `{i}` as u128"
  | .number x => s!"floating point `{pointedText x}`"
  | .word text => s!"floating point `{text}`"
  | .string s => "string " ++ quotedText s
  | .sequence => "sequence"
  | .map => "map"

inductive Fault where
  | unreadable (problem : Problem)
  | wrongSort (found : Found) (expected : String)
  | wrongValue (found : Found) (expected : String)
  | unknownField (name : String) (known : List String)
  | unknownVariant (name : String) (known : List String)
  | wrongLength (found : Nat) (expected : String)
  | noVariant
  | notOneVariant (empty : Bool)
  | filledArray
  | filledTable
  | notTable (found : String)

def Fault.text : Fault → String
  | .unreadable problem => problem.text
  | .wrongSort found expected => s!"invalid type: {found.text}, expected {expected}"
  | .wrongValue found expected => s!"invalid value: {found.text}, expected {expected}"
  | .unknownField name known => s!"unknown field `{name}`, {Mismatch.choiceText known}"
  | .unknownVariant name known => s!"unknown variant `{name}`, {Mismatch.choiceText known}"
  | .wrongLength found expected => s!"invalid length {found}, expected {expected}"
  | .noVariant => "wanted string or table"
  | .notOneVariant empty =>
    "wanted exactly 1 element, " ++ if empty then "found 0 elements" else "more than 1 element"
  | .filledArray => "expected empty array"
  | .filledTable => "expected empty table"
  | .notTable found => s!"expected table, found {found}"

def wordText (text : List Char) : String :=
  let (negative, word) := DecimalLiteral.splitSign text
  if word = ['i', 'n', 'f'] then (if negative then "-inf" else "inf") else "NaN"

def found : Node → Except Fault Found
  | .scalar (.string s) _ => .ok (.string s)
  | .scalar (.boolean b) _ => .ok (.boolean b)
  | .scalar (.dateTime _) _ => .ok .map
  | .scalar (.integer radix digits) _ =>
    match Toml.Value.integer? radix digits with
    | some i =>
      if Number.fits i then .ok (.integer i)
      else if -Toml.Value.halfRange ≤ i ∧ i < 2 * Toml.Value.halfRange then .ok (.wideInteger i)
      else .error (.unreadable .integerOverflow)
    | none => .error (.unreadable .integerOverflow)
  | .scalar (.float text) _ =>
    if Toml.Value.isWord text then .ok (.word (wordText text))
    else match (DecimalLiteral.ofChars? text).bind DecimalLiteral.toBinary64? with
      | some x => .ok (.number x)
      | none => .error (.unreadable .floatOverflow)
  | .array _ | .tables _ => .ok .sequence
  | .table .. => .ok .map

def refuse {α : Type} (expected : String) (n : Node) : Except Fault α := do
  throw (.wrongSort (← found n) expected)

def text : Node → Except Fault String
  | .scalar (.string s) _ => .ok s
  | n => refuse "a string" n

def boolean : Node → Except Fault Bool
  | .scalar (.boolean b) _ => .ok b
  | n => refuse "a boolean" n

def count (n : Node) : Except Fault Nat := do
  match ← found n with
  | .integer i =>
    if 0 ≤ i then return i.toNat else throw (.wrongValue (.integer i) "usize")
  | other => throw (.wrongSort other "usize")

def named {α : Type} (variants : List (String × α)) (name : String) : Except Fault α :=
  match variants.lookup name with
  | some a => .ok a
  | none => .error (.unknownVariant name (variants.map (·.1)))

def nothing : Node → Except Fault Unit
  | .array [] | .tables [] | .table _ [] => .ok ()
  | .array _ | .tables _ => .error .filledArray
  | .table .. => .error .filledTable
  | .scalar v _ => .error (.notTable v.sort.text)

def variant {α : Type} (variants : List (String × α)) : Node → Except Fault α
  | .scalar (.string name) _ => named variants name
  | .table _ [(name, content)] => do
    let a ← named variants name
    nothing content
    return a
  | .table _ entries => .error (.notOneVariant entries.isEmpty)
  | _ => .error .noVariant

abbrev Entry (σ : Type) := String × (Node → σ → Except Fault σ)

/-- Reads the entries of a table in key order. -/
def entries {σ : Type} (known : List (Entry σ)) :
    List (String × Node) → σ → Except Fault σ
  | [], s => .ok s
  | (key, n) :: rest, s =>
    match known.lookup key with
    | some set => do entries known rest (← set n s)
    | none => .error (.unknownField key (known.map (·.1)))

/-- Reads the entries of an array in the order they are known in. What follows them is passed over. -/
def items {σ : Type} (name : String) (size : Nat) :
    List (Entry σ) → List Node → σ → Except Fault σ
  | [], _, s => .ok s
  | left, [], _ => .error (.wrongLength (size - left.length) s!"struct {name} with {size} elements")
  | (_, set) :: left, n :: rest, s => do items name size left rest (← set n s)

def dissect {σ : Type} (name : String) (known : List (Entry σ)) (empty : σ) :
    Node → Except Fault σ
  | .table _ given => entries known given empty
  | .array given | .tables given => items name known.length known given empty
  | .scalar (.dateTime _) _ => .error (.unknownField Toml.dateTimeKey (known.map (·.1)))
  | n => refuse s!"struct {name}" n

def loggingEntries : List (Entry LoggingConfig) := [
  ("to_file", fun n s => do return { s with toFile := some (← boolean n) }),
  ("dir", fun n s => do return { s with directory := some (← text n) }),
  ("json", fun n s => do return { s with json := some (← boolean n) }),
  ("compact", fun n s => do return { s with compact := some (← boolean n) }),
  ("pretty", fun n s => do return { s with pretty := some (← boolean n) }),
  ("level", fun n s => do return { s with level := some (← text n) })]

def policies : List (String × MissingResourcePolicy) :=
  [MissingResourcePolicy.strict, .lenient].map fun p => (p.name, p)

def modes : List (String × CreateMode) :=
  [CreateMode.errorIfExists, .orReplace, .ifNotExists].map fun m => (m.name, m)

def intakeEntries : List (Entry IntakeConfig) := [
  ("missing_resources", fun n s => do
    return { s with missingResources := some (← variant policies n) }),
  ("create_mode", fun n s => do return { s with createMode := some (← variant modes n) }),
  ("base_url", fun n s => do return { s with baseUrl := some (← text n) }),
  ("output_dir", fun n s => do return { s with outputDirectory := some (← text n) }),
  ("max_concurrency", fun n s => do return { s with maxConcurrency := some (← count n) })]

def sections : List (Entry UserConfig) := [
  ("logging", fun n s => do
    return { s with logging := some (← dissect "LoggingCfg" loggingEntries {} n) }),
  ("intake", fun n s => do
    return { s with intake := some (← dissect "IntakeCfg" intakeEntries {} n) })]

def ofText (source : String) : Except Fault UserConfig := do
  let statements ← (Statement.ofTokens (Token.scan source.toList)).mapError (.unreadable ·.problem)
  let root ← (Node.ofStatements statements).mapError (.unreadable ·.problem)
  entries sections root {}

def path (home : String) : String := FilePath.join home "config.toml"

end UserConfig
end AgentManifest
