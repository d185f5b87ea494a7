import AgentManifest.Json.Reader
import AgentManifest.Record.Reading

/-! Records read straight from JSON text. The text is held to a shape while it is read, so of
several faults the first in the text is reported, with its place. Unlike in a tree, a field given
twice is a fault. -/

namespace AgentManifest

inductive SourceFault where
  | unreadable (fault : Json.Fault)
  | mismatch (m : Mismatch)

def SourceFault.message : SourceFault → String
  | .unreadable fault => fault.message
  | .mismatch m => m.text

structure LocatedFault where
  fault : SourceFault
  offset : Nat

structure SourceError where
  fault : SourceFault
  line : Nat
  column : Nat

def SourceError.text (e : SourceError) : String :=
  s!"{e.fault.message} at line {e.line} column {e.column}"

def SourceError.ofLocated (text : String) (e : LocatedFault) : SourceError :=
  let p := Position.ofOffset text.toUTF8.toList e.offset
  ⟨e.fault, p.line, p.column - 1⟩

namespace Shape

def plainly {α : Type} (step : Except Json.Located α) : Except LocatedFault α :=
  step.mapError fun e => ⟨.unreadable e.fault, e.offset⟩

def refuseAt {α : Type} (offset : Nat) (m : Mismatch) : Except LocatedFault α :=
  .error ⟨.mismatch m, offset⟩

def settle {α : Type} (c : Cursor) (checked : Except Mismatch α) : Except LocatedFault α :=
  match checked with
  | .ok a => .ok a
  | .error m => refuseAt c.offset m

/-- Refuses the value in front. It is read first, unless it is an array or an object. -/
def refuseSort {α : Type} (expected : String) (c : Cursor) : Except LocatedFault α :=
  let c := Json.Reader.skipBlanks c
  match c.rest with
  | '[' :: _ => refuseAt c.offset (.wrongSort (.array []) expected)
  | '{' :: _ => refuseAt c.offset (.wrongSort (.object []) expected)
  | _ => do
    let (v, c) ← plainly (Json.Reader.value .lastWins 1 1 c)
    refuseAt c.offset (.wrongSort v expected)

def scanText (expected : String) (c : Cursor) : Except LocatedFault (String × Cursor) :=
  let c := Json.Reader.skipBlanks c
  match c.rest with
  | '"' :: _ => plainly (Json.Reader.string c.next)
  | _ => refuseSort expected c

def scanNatural (bits : Nat) (c : Cursor) : Except LocatedFault (Json × Cursor) :=
  let c := Json.Reader.skipBlanks c
  match c.rest with
  | ch :: _ =>
    if ch = '-' || ch.isDigit then do
      let (v, c) ← plainly (Json.Reader.value .lastWins 1 1 c)
      settle c (check (.natural bits) v)
      return (v, c)
    else refuseSort (unsigned bits) c
  | [] => refuseSort (unsigned bits) c

def scanVariant (names : List String) (c : Cursor) : Except LocatedFault (String × Cursor) := do
  let (name, c) ← scanText "variant identifier" c
  settle c (checkVariant names name)
  return (name, c)

def scanUnit (c : Cursor) : Except LocatedFault Cursor :=
  let c := Json.Reader.skipBlanks c
  match c.rest with
  | 'n' :: _ => plainly (Json.Reader.word ['u', 'l', 'l'] c.next)
  | _ => refuseSort "unit" c

def scanChoice (names : List String) (depth : Nat) (c : Cursor) :
    Except LocatedFault (Json × Cursor) :=
  let c := Json.Reader.skipBlanks c
  match c.rest with
  | [] => plainly (Json.Reader.failNext c .endInValue)
  | '"' :: _ => do
    let (name, c) ← scanVariant names c
    return (.string name, c)
  | '{' :: _ =>
    if depth ≤ 1 then plainly (Json.Reader.failNext c .tooDeep)
    else do
      let (name, c) ← scanVariant names c.next
      let c ← scanUnit (← plainly (Json.Reader.colon c))
      let c := Json.Reader.skipBlanks c
      match c.rest with
      | '}' :: _ => return (.string name, c.next)
      | [] => plainly (Json.Reader.failAt c .endInObject)
      | _ => plainly (Json.Reader.failAt c .expectedValue)
  | _ => plainly (Json.Reader.failNext c .expectedValue)

def scanListEnd (c : Cursor) : Except LocatedFault Cursor :=
  let c := Json.Reader.skipBlanks c
  match c.rest with
  | [] => plainly (Json.Reader.failNext c .endInList)
  | ']' :: _ => .ok c.next
  | ',' :: _ =>
    let behind := Json.Reader.skipBlanks c.next
    plainly (Json.Reader.failNext behind
      (if behind.peek? = some ']' then .trailingComma else .trailingCharacters))
  | _ => plainly (Json.Reader.failNext c .trailingCharacters)

def memberShape? : Shape → String → Option (Shape × Bool)
  | .record _ fields, key => (fields.find? (·.name = key)).map fun field => (field.shape, false)
  | .named _ known, key => if key = known then some (.text, false) else some (.tree, true)
  | _, _ => none

def fieldNames : Shape → List String
  | .record _ fields => fields.map (·.name)
  | .named _ key => [key]
  | _ => []

def checkKeys : Shape → List String → Except Mismatch Unit
  | .record _ fields, given => checkGiven fields given
  | .named _ key, given => checkGiven [⟨key, true, .text⟩] given
  | _, _ => .ok ()

mutual

/-- Reads a value of a shape. `depth` is how many more levels may be opened; `fuel` bounds the
number of nested calls and exceeds what any text can use. -/
def scan : Nat → Nat → Shape → Cursor → Except LocatedFault (Json × Cursor)
  | 0, _, _, c => plainly (Json.Reader.failAt c .tooDeep)
  | fuel + 1, depth, shape, c =>
    let c := Json.Reader.skipBlanks c
    match shape with
    | .tree => plainly (Json.Reader.value .lastWins (2 * c.rest.length + 2) depth c)
    | .text => do
      let (s, c) ← scanText "a string" c
      return (.string s, c)
    | .natural bits => scanNatural bits c
    | .nullable inner =>
      match c.rest with
      | 'n' :: _ => do return (.null, ← plainly (Json.Reader.word ['u', 'l', 'l'] c.next))
      | _ => scan fuel depth inner c
    | .choice names => scanChoice names depth c
    | .list item =>
      match c.rest with
      | '[' :: _ =>
        if depth ≤ 1 then plainly (Json.Reader.failNext c .tooDeep)
        else do
          let (elements, c) ← scanElements fuel (depth - 1) item true c.next
          return (.array elements, c)
      | _ => refuseSort "a sequence" c
    | .record name fields =>
      match c.rest with
      | '[' :: _ =>
        if depth ≤ 1 then plainly (Json.Reader.failNext c .tooDeep)
        else do
          let (elements, c) ← scanFields fuel (depth - 1) name fields fields 0 c.next
          return (.array elements, c)
      | '{' :: _ =>
        if depth ≤ 1 then plainly (Json.Reader.failNext c .tooDeep)
        else do
          let (members, c) ← scanMembers fuel (depth - 1) (.record name fields) true [] c.next
          return (.object members, c)
      | _ => refuseSort s!"struct {name}" c
    | .named name key =>
      match c.rest with
      | '{' :: _ =>
        if depth ≤ 1 then plainly (Json.Reader.failNext c .tooDeep)
        else do
          let (members, c) ← scanMembers fuel (depth - 1) (.named name key) true [] c.next
          return (.object members, c)
      | _ => refuseSort s!"struct {name}" c

def scanElements :
    Nat → Nat → Shape → Bool → Cursor → Except LocatedFault (List Json × Cursor)
  | 0, _, _, _, c => plainly (Json.Reader.failAt c .tooDeep)
  | fuel + 1, depth, item, first, c => do
    match ← plainly (Json.Reader.nextElement first c) with
    | .close c => return ([], c)
    | .more c =>
      let (v, c) ← scan fuel depth item c
      let (rest, c) ← scanElements fuel depth item false c
      return (v :: rest, c)

def scanFields : Nat → Nat → String → List (Field Shape) → List (Field Shape) → Nat → Cursor →
    Except LocatedFault (List Json × Cursor)
  | 0, _, _, _, _, _, c => plainly (Json.Reader.failAt c .tooDeep)
  | _ + 1, _, _, _, [], _, c => do return ([], ← scanListEnd c)
  | fuel + 1, depth, name, all, field :: left, count, c => do
    match ← plainly (Json.Reader.nextElement (count = 0) c) with
    | .close c => do
      settle c (checkLength name all count)
      return ([], c)
    | .more c =>
      let (v, c) ← scan fuel depth field.shape c
      let (rest, c) ← scanFields fuel depth name all left (count + 1) c
      return (v :: rest, c)

/-- Reads the rest of a record written as an object, its closing brace included. `seen` holds the
keys read so far. -/
def scanMembers : Nat → Nat → Shape → Bool → List String → Cursor →
    Except LocatedFault (Members × Cursor)
  | 0, _, _, _, _, c => plainly (Json.Reader.failAt c .tooDeep)
  | fuel + 1, depth, owner, first, seen, c => do
    match ← plainly (Json.Reader.nextMember first c) with
    | .close c => do
      settle c (checkKeys owner seen)
      return ([], c)
    | .more c =>
      let (key, c) ← plainly (Json.Reader.string c.next)
      match memberShape? owner key with
      | none => refuseAt (Json.Reader.refusedKeyOffset c) (.unknownField key owner.fieldNames)
      | some (shape, repeats) =>
        if !repeats && key ∈ seen then
          refuseAt (Json.Reader.refusedKeyOffset c) (.repeatedField key)
        else do
          let (v, c) ← scan fuel depth shape (← plainly (Json.Reader.colon c))
          let (rest, c) ← scanMembers fuel depth owner false (key :: seen) c
          return ((key, v) :: rest, c)

end

def scanDocument (shape : Shape) (text : String) : Except LocatedFault Json := do
  let c := Cursor.ofString text
  let (v, c) ← scan (4 * c.rest.length + 4) Json.Reader.depthLimit shape c
  let c := Json.Reader.skipBlanks c
  if c.rest.isEmpty then return v.canonical
  else plainly (Json.Reader.failNext c .trailingCharacters)

end Shape

def Reading.ofText {α : Type} (shape : Shape) (read : Reading α) (text : String) :
    Except SourceError α :=
  let result := do
    let v ← shape.scanDocument text
    Shape.settle ⟨[], text.utf8ByteSize⟩ (read v)
  result.mapError (SourceError.ofLocated text)

end AgentManifest
