import AgentManifest.Json.Basic
import AgentManifest.Text.Cursor
import AgentManifest.Text.Position

/-! Reading JSON text. The reader keeps the members of an object as they are written; `parse` then
puts them in key order and keeps the last of equal keys, while `parseDistinct` refuses an object
that gives a key twice. Both read the same grammar with the same limits and place their errors
alike. -/

namespace AgentManifest.Json

inductive Fault where
  | endInList
  | endInObject
  | endInString
  | endInValue
  | expectedColon
  | expectedListCommaOrEnd
  | expectedObjectCommaOrEnd
  | expectedIdent
  | expectedValue
  | invalidEscape
  | invalidNumber
  | numberOutOfRange
  | controlCharacter
  | keyNotString
  | loneSurrogate
  | endOfHexEscape
  | trailingComma
  | trailingCharacters
  | tooDeep
  | repeatedKey (key : String)
  deriving DecidableEq, Repr

def Fault.message : Fault → String
  | .endInList => "EOF while parsing a list"
  | .endInObject => "EOF while parsing an object"
  | .endInString => "EOF while parsing a string"
  | .endInValue => "EOF while parsing a value"
  | .expectedColon => "expected `:`"
  | .expectedListCommaOrEnd => "expected `,` or `]`"
  | .expectedObjectCommaOrEnd => "expected `,` or `\x7d`"
  | .expectedIdent => "expected ident"
  | .expectedValue => "expected value"
  | .invalidEscape => "invalid escape"
  | .invalidNumber => "invalid number"
  | .numberOutOfRange => "number out of range"
  | .controlCharacter => "control character (\\u0000-\\u001F) found while parsing a string"
  | .keyNotString => "key must be a string"
  | .loneSurrogate => "lone leading surrogate in hex escape"
  | .endOfHexEscape => "unexpected end of hex escape"
  | .trailingComma => "trailing comma"
  | .trailingCharacters => "trailing characters"
  | .tooDeep => "recursion limit exceeded"
  | .repeatedKey key => s!"duplicate key `{key}`"

/-- A fault with the number of bytes read when it was found. -/
structure Located where
  fault : Fault
  offset : Nat
  deriving DecidableEq, Repr

/-- A fault with its line, from one, and the number of bytes of that line read when it was found. -/
structure ReadError where
  fault : Fault
  line : Nat
  column : Nat
  deriving DecidableEq, Repr

def ReadError.text (e : ReadError) : String :=
  s!"{e.fault.message} at line {e.line} column {e.column}"

/-- How an object with a repeated key is read. -/
inductive KeyRule where
  | lastWins
  | distinct
  deriving DecidableEq, Repr

namespace Reader

def failAt {α : Type} (c : Cursor) (fault : Fault) : Except Located α := .error ⟨fault, c.offset⟩

/-- A fault at the next byte, which counts as read. -/
def failNext {α : Type} (c : Cursor) (fault : Fault) : Except Located α :=
  .error ⟨fault, if c.rest.isEmpty then c.offset else c.offset + 1⟩

def isBlank (ch : Char) : Bool := ch = ' ' || ch = '\n' || ch = '\t' || ch = '\r'

def skipBlanks (c : Cursor) : Cursor := c.skipWhile isBlank

def word : List Char → Cursor → Except Located Cursor
  | [], c => .ok c
  | expected :: more, c =>
    match c.rest with
    | [] => failAt c .endInValue
    | ch :: _ => if ch = expected then word more c.next else failNext c .expectedIdent

def digitValue? (ch : Char) : Option Nat :=
  if '0' ≤ ch ∧ ch ≤ '9' then some (ch.toNat - 48) else none

def skipDigits (c : Cursor) : Nat × Cursor :=
  let behind := c.skipWhile (fun ch => (digitValue? ch).isSome)
  (behind.offset - c.offset, behind)

/-- Reads digits into a significand of 64 bits, as long as it fits; gives the significand, the
number of digits taken, and the place behind them. -/
def significandDigits : Nat → Nat → List Char → Nat → Nat × Nat × Cursor
  | significand, taken, [], offset => (significand, taken, ⟨[], offset⟩)
  | significand, taken, ch :: rest, offset =>
    match digitValue? ch with
    | some d =>
      if significand * 10 + d < 0x10000000000000000 then
        significandDigits (significand * 10 + d) (taken + 1) rest (offset + 1)
      else (significand, taken, ⟨ch :: rest, offset⟩)
    | none => (significand, taken, ⟨ch :: rest, offset⟩)

def tenTo? (n : Nat) : Option Binary64 := Binary64.ofDecimal? false 1 n

/-- Divides by `1e308` until the exponent is at least `-308` or nothing is left. -/
def divideDown : Nat → Binary64 → Int → Option (Binary64 × Int)
  | 0, x, e => some (x, e)
  | steps + 1, x, e =>
    if x.isZero ∨ -308 ≤ e then some (x, e)
    else do
      let ten ← tenTo? 308
      divideDown steps (← x.div? ten) (e + 308)

/-- The binary64 number for a significand of 64 bits and a power of ten: the significand is
rounded, then multiplied or divided once by the rounded power, in steps of `1e308` where the power
is out of range. None when the number is too large. -/
def scaled? (negative : Bool) (significand : Nat) (exponent : Int) : Option Binary64 := do
  let x ← Binary64.ofInt? significand
  let (x, e) ← divideDown 3 x exponent
  let magnitude ←
    if x.isZero then some x
    else if 308 < e then none
    else if 0 ≤ e then do x.mul? (← tenTo? e.toNat)
    else do x.div? (← tenTo? (-e).toNat)
  pure { magnitude with negative }

def scaled (negative : Bool) (significand : Nat) (exponent : Int) (c : Cursor) : Except Located (Number × Cursor) :=
  match scaled? negative significand exponent with
  | some x => .ok (.float x, c)
  | none => failAt c .numberOutOfRange

def clampExponent (e : Int) : Int := max (-0x80000000) (min 0x7FFFFFFF e)

/-- Reads the digits of an exponent while they fit 31 bits; the flag tells of a digit too many,
which is taken too. -/
def exponentDigits : Nat → List Char → Nat → Nat × Bool × Cursor
  | value, [], offset => (value, false, ⟨[], offset⟩)
  | value, ch :: rest, offset =>
    match digitValue? ch with
    | some d =>
      if value * 10 + d < 0x80000000 then exponentDigits (value * 10 + d) rest (offset + 1)
      else (value, true, ⟨rest, offset + 1⟩)
    | none => (value, false, ⟨ch :: rest, offset⟩)

def exponentPart (negative : Bool) (significand : Nat) (starting : Int) (c : Cursor) :
    Except Located (Number × Cursor) :=
  let (down, c) := match c.peek? with
    | some '+' => (false, c.next)
    | some '-' => (true, c.next)
    | _ => (false, c)
  match c.rest with
  | [] => failAt c .endInValue
  | ch :: _ =>
    if (digitValue? ch).isNone then failNext c .invalidNumber
    else
      let (value, overflow, behind) := exponentDigits 0 c.rest c.offset
      if overflow then
        if significand ≠ 0 ∧ !down then failAt behind .numberOutOfRange
        else .ok (.float { Binary64.zero with negative }, (skipDigits behind).2)
      else
        let exponent := clampExponent (if down then starting - value else starting + value)
        scaled negative significand exponent behind

def exponentOrEnd (negative : Bool) (significand : Nat) (exponent : Int) (c : Cursor) :
    Except Located (Number × Cursor) :=
  match c.peek? with
  | some 'e' | some 'E' => exponentPart negative significand exponent c.next
  | _ => scaled negative significand exponent c

def fractionPart (negative : Bool) (significand : Nat) (starting : Int) (c : Cursor) :
    Except Located (Number × Cursor) :=
  let (significand, taken, behind) := significandDigits significand 0 c.rest c.offset
  let (skipped, rest) := skipDigits behind
  if taken = 0 ∧ skipped = 0 then
    if c.rest.isEmpty then failNext c .endInValue else failNext c .invalidNumber
  else exponentOrEnd negative significand (starting - taken) rest

/-- Reads on behind a significand: `skipped` further digits did not fit it. -/
def numberTail (negative : Bool) (significand skipped : Nat) (c : Cursor) : Except Located (Number × Cursor) :=
  match c.peek? with
  | some '.' => fractionPart negative significand skipped c.next
  | some 'e' | some 'E' => exponentPart negative significand skipped c.next
  | _ =>
    if skipped ≠ 0 then scaled negative significand skipped c
    else if !negative then .ok (.integer significand, c)
    else if significand = 0 ∨ 0x8000000000000000 < significand then scaled true significand 0 c
    else .ok (.integer (-significand), c)

def number (negative : Bool) (c : Cursor) : Except Located (Number × Cursor) :=
  match c.rest with
  | [] => failAt c .endInValue
  | '0' :: rest =>
    let c : Cursor := ⟨rest, c.offset + 1⟩
    match c.peek?.bind digitValue? with
    | some _ => failNext c .invalidNumber
    | none => numberTail negative 0 0 c
  | ch :: _ =>
    if (digitValue? ch).isNone then failNext c .invalidNumber
    else
      let (significand, _, behind) := significandDigits 0 0 c.rest c.offset
      let (skipped, rest) := skipDigits behind
      numberTail negative significand skipped rest

def hexValue? (ch : Char) : Option Nat :=
  if '0' ≤ ch ∧ ch ≤ '9' then some (ch.toNat - 48)
  else if 'a' ≤ ch ∧ ch ≤ 'f' then some (ch.toNat - 87)
  else if 'A' ≤ ch ∧ ch ≤ 'F' then some (ch.toNat - 55)
  else none

/-- Four hexadecimal digits; anything else that is four bytes long is refused behind them. -/
def hexUnit (c : Cursor) : Except Located (Nat × Cursor) :=
  if c.remaining < 4 then .error ⟨.endInString, c.endOffset⟩
  else match c.rest with
    | a :: b :: d :: e :: rest =>
      match hexValue? a, hexValue? b, hexValue? d, hexValue? e with
      | some a, some b, some d, some e =>
        .ok (((a * 16 + b) * 16 + d) * 16 + e, ⟨rest, c.offset + 4⟩)
      | _, _, _, _ => .error ⟨.invalidEscape, c.offset + 4⟩
    | _ => .error ⟨.invalidEscape, c.offset + 4⟩

def pairMark (mark : Char) (c : Cursor) : Except Located Cursor :=
  match c.rest with
  | [] => failAt c .endInString
  | ch :: rest =>
    if ch = mark then .ok ⟨rest, c.offset + 1⟩
    else .error ⟨.endOfHexEscape, c.offset + 1⟩

/-- Reads on behind `\u`. A unit of the first half of a pair needs one of the second half. -/
def unicodeEscape (c : Cursor) : Except Located (Char × Cursor) := do
  let (unit, c) ← hexUnit c
  if 0xDC00 ≤ unit ∧ unit ≤ 0xDFFF then failAt c .loneSurrogate
  else if unit < 0xD800 ∨ 0xDBFF < unit then .ok (Char.ofNat unit, c)
  else
    let c ← pairMark '\\' c
    let c ← pairMark 'u' c
    let (second, c) ← hexUnit c
    if second < 0xDC00 ∨ 0xDFFF < second then failAt c .loneSurrogate
    else .ok (Char.ofNat ((unit - 0xD800) * 1024 + (second - 0xDC00) + 0x10000), c)

def escape (c : Cursor) : Except Located (Char × Cursor) :=
  match c.rest with
  | [] => failAt c .endInString
  | ch :: _ =>
    let behind := c.next
    match ch with
    | '"' => .ok ('"', behind)
    | '\\' => .ok ('\\', behind)
    | '/' => .ok ('/', behind)
    | 'b' => .ok ('\x08', behind)
    | 'f' => .ok ('\x0c', behind)
    | 'n' => .ok ('\n', behind)
    | 'r' => .ok ('\r', behind)
    | 't' => .ok ('\t', behind)
    | 'u' => unicodeEscape behind
    | _ => .error ⟨.invalidEscape, c.offset + 1⟩

def stringBody : Nat → List Char → Cursor → Except Located (String × Cursor)
  | 0, _, c => failAt c .endInString
  | fuel + 1, read, c =>
    match c.rest with
    | [] => failAt c .endInString
    | '"' :: _ => .ok (String.ofList read.reverse, c.next)
    | '\\' :: _ => do
      let (ch, c) ← escape c.next
      stringBody fuel (ch :: read) c
    | ch :: _ =>
      if ch.toNat < 32 then failAt c.next .controlCharacter
      else stringBody fuel (ch :: read) c.next

def string (c : Cursor) : Except Located (String × Cursor) := stringBody (c.rest.length + 1) [] c

/-- The deepest nesting is one less than this. -/
def depthLimit : Nat := 128

/-- Where a key that cannot stand is reported: behind the blanks that follow it, and behind a brace
that would close the object. -/
def refusedKeyOffset (c : Cursor) : Nat :=
  let c := skipBlanks c
  match c.peek? with
  | some '}' => c.offset + 1
  | _ => c.offset

inductive Next where
  | close (c : Cursor)
  | more (c : Cursor)

/-- Looks for the next element, over the comma in front of all but the first. -/
def nextElement (first : Bool) (c : Cursor) : Except Located Next :=
  let c := skipBlanks c
  match c.rest with
  | [] => failNext c .endInList
  | ']' :: _ => .ok (.close c.next)
  | ch :: _ =>
    if first then .ok (.more c)
    else if ch = ',' then
      let behind := skipBlanks c.next
      match behind.rest with
      | [] => failNext behind .endInValue
      | ']' :: _ => failNext behind .trailingComma
      | _ => .ok (.more behind)
    else failNext c .expectedListCommaOrEnd

/-- Looks for the quote of the next key, over the comma in front of all but the first. -/
def nextMember (first : Bool) (c : Cursor) : Except Located Next :=
  let c := skipBlanks c
  match c.rest with
  | [] => failNext c .endInObject
  | '}' :: _ => .ok (.close c.next)
  | ch :: _ =>
    if first then
      if ch = '"' then .ok (.more c) else failNext c .keyNotString
    else if ch = ',' then
      let behind := skipBlanks c.next
      match behind.rest with
      | [] => failNext behind .endInValue
      | '"' :: _ => .ok (.more behind)
      | '}' :: _ => failNext behind .trailingComma
      | _ => failNext behind .keyNotString
    else failNext c .expectedObjectCommaOrEnd

def colon (c : Cursor) : Except Located Cursor :=
  let c := skipBlanks c
  match c.rest with
  | [] => failNext c .endInObject
  | ':' :: _ => .ok c.next
  | _ => failNext c .expectedColon

mutual

/-- Reads a value. `depth` is how many more levels may be opened; `fuel` bounds the number of
nested calls and exceeds what any text can use.

The tree of a text and the tree without repeated keys are built by two visitors over one grammar:
both are handed the same keys, elements and plain values in the same order, ask for the next part at
the same places, and make the same values of them. They part only at a key that its object gave
before, which one of them refuses and the other writes over. This is where `members` asks for the
rule, and the text is read by one definition for both. -/
def value (rule : KeyRule) : Nat → Nat → Cursor → Except Located (Json × Cursor)
  | 0, _, c => failAt c .tooDeep
  | fuel + 1, depth, c =>
    let c := skipBlanks c
    match c.rest with
    | [] => failNext c .endInValue
    | 'n' :: _ => do .ok (.null, ← word ['u', 'l', 'l'] c.next)
    | 't' :: _ => do .ok (.bool true, ← word ['r', 'u', 'e'] c.next)
    | 'f' :: _ => do .ok (.bool false, ← word ['a', 'l', 's', 'e'] c.next)
    | '-' :: _ => do
      let (n, c) ← number true c.next
      .ok (.number n, c)
    | '"' :: _ => do
      let (s, c) ← string c.next
      .ok (.string s, c)
    | '[' :: _ =>
      if depth ≤ 1 then failNext c .tooDeep
      else do
        let (elements, c) ← elements rule fuel (depth - 1) true c.next
        .ok (.array elements, c)
    | '{' :: _ =>
      if depth ≤ 1 then failNext c .tooDeep
      else do
        let (members, c) ← members rule fuel (depth - 1) true [] c.next
        .ok (.object members, c)
    | ch :: _ =>
      if (digitValue? ch).isSome then do
        let (n, c) ← number false c
        .ok (.number n, c)
      else failNext c .expectedValue

def elements (rule : KeyRule) : Nat → Nat → Bool → Cursor → Except Located (List Json × Cursor)
  | 0, _, _, c => failAt c .tooDeep
  | fuel + 1, depth, first, c => do
    match ← nextElement first c with
    | .close c => .ok ([], c)
    | .more c =>
      let (element, c) ← value rule fuel depth c
      let (rest, c) ← elements rule fuel depth false c
      .ok (element :: rest, c)

/-- Reads the rest of an object, its closing brace included. `seen` holds the keys read so far. -/
def members (rule : KeyRule) :
    Nat → Nat → Bool → List String → Cursor → Except Located (Members × Cursor)
  | 0, _, _, _, c => failAt c .tooDeep
  | fuel + 1, depth, first, seen, c => do
    match ← nextMember first c with
    | .close c => .ok ([], c)
    | .more c =>
      let (key, c) ← string c.next
      if rule = .distinct ∧ key ∈ seen then
        .error ⟨.repeatedKey key, refusedKeyOffset c⟩
      else
        let (member, c) ← value rule fuel depth (← colon c)
        let (rest, c) ← members rule fuel depth false (key :: seen) c
        .ok ((key, member) :: rest, c)

end

def document (rule : KeyRule) (text : String) : Except Located Json := do
  let c := Cursor.ofString text
  let (v, c) ← value rule (2 * c.rest.length + 2) depthLimit c
  let c := skipBlanks c
  if c.rest.isEmpty then .ok v else failNext c .trailingCharacters

end Reader

def ReadError.ofLocated (text : String) (e : Located) : ReadError :=
  let p := Position.ofOffset text.toUTF8.toList e.offset
  ⟨e.fault, p.line, p.column - 1⟩

/-- The value of a text in which the last of equal keys counts. -/
def parse (text : String) : Except ReadError Json :=
  match Reader.document .lastWins text with
  | .ok v => .ok v.canonical
  | .error e => .error (ReadError.ofLocated text e)

/-- The value of a text in which no object gives a key twice. -/
def parseDistinct (text : String) : Except ReadError Json :=
  match Reader.document .distinct text with
  | .ok v => .ok v.canonical
  | .error e => .error (ReadError.ofLocated text e)

end AgentManifest.Json
