import AgentManifest.Toml.DateTime
import AgentManifest.Toml.Statement

/-! What the pieces of a TOML text say: strings, numbers, truth values and date-times. Integers and
decimal numbers are kept as digits, since how large they may be depends on what they are read
for. -/

namespace AgentManifest.Toml

inductive Scalar where
  | string (value : String)
  | boolean (value : Bool)
  | dateTime (value : DateTime)
  /-- Digits without underscores, perhaps with a sign. -/
  | integer (radix : Radix) (digits : List Char)
  /-- A decimal number without underscores, or a word for infinity or no number with its sign. -/
  | float (text : List Char)
  deriving DecidableEq, Repr

namespace Scalar

def isVisible (c : Char) : Bool := c = '\t' || (' ' ≤ c && c ≠ '\x7f')

def openQuote (form : StringForm) (length : Nat) (p : Piece) : Except Fault (List Char) :=
  let quote := List.replicate length form.quote
  if p.text.take length = quote then .ok (p.text.drop length)
  else refuse (.stringQuote form) p.first

def closeQuote (form : StringForm) (length : Nat) (p : Piece) (cs : List Char) :
    Except Fault (List Char) :=
  let kept := cs.length - length
  if length ≤ cs.length && cs.drop kept = List.replicate length form.quote then
    .ok (cs.take kept)
  else refuse (.stringQuote form) (p.first + byteLength p.text)

def dropFirstBreak : List Char → List Char
  | '\n' :: rest => rest
  | '\r' :: '\n' :: rest => rest
  | cs => cs

/-- The characters of a literal string; line ends count only in the multi-line form. -/
def literalChars (form : StringForm) : Nat → List Char → Except Fault (List Char)
  | _, [] => .ok []
  | offset, c :: rest =>
    let multi := form = .multiLiteral
    if multi && c = '\r' && rest.head? ≠ some '\n' then refuse .loneCarriageReturn offset
    else if (isVisible c && (multi || c ≠ '\'')) || (multi && (c = '\n' || c = '\r')) then do
      return c :: (← literalChars form (offset + c.utf8Size) rest)
    else refuse (.literalChar form) offset

def hexValue? (c : Char) : Option Nat :=
  if '0' ≤ c ∧ c ≤ '9' then some (c.toNat - 48)
  else if 'a' ≤ c ∧ c ≤ 'f' then some (c.toNat - 87)
  else if 'A' ≤ c ∧ c ≤ 'F' then some (c.toNat - 55)
  else none

def hexEscape (count offset : Nat) (cs : List Char) : Except Fault (Char × List Char × Nat) :=
  let digits := (cs.take count).takeWhile (fun c => (hexValue? c).isSome)
  if digits.length < count then refuse .tooFewHexDigits (offset + digits.length)
  else
    let n := digits.foldl (fun n c => n * 16 + (hexValue? c).getD 0) 0
    if n < 0xD800 || (0xDFFF < n && n ≤ 0x10FFFF) then
      .ok (Char.ofNat n, cs.drop count, offset + count)
    else refuse .invalidCodePoint offset

def escape (offset : Nat) : List Char → Except Fault (Char × List Char × Nat)
  | 'b' :: rest => .ok ('\x08', rest, offset + 1)
  | 'e' :: rest => .ok ('\x1b', rest, offset + 1)
  | 'f' :: rest => .ok ('\x0c', rest, offset + 1)
  | 'n' :: rest => .ok ('\n', rest, offset + 1)
  | 'r' :: rest => .ok ('\r', rest, offset + 1)
  | 't' :: rest => .ok ('\t', rest, offset + 1)
  | '\\' :: rest => .ok ('\\', rest, offset + 1)
  | '"' :: rest => .ok ('"', rest, offset + 1)
  | 'x' :: rest => hexEscape 2 (offset + 1) rest
  | 'u' :: rest => hexEscape 4 (offset + 1) rest
  | 'U' :: rest => hexEscape 8 (offset + 1) rest
  | _ => refuse .missingEscape offset

/-- Passes over the blanks and line ends behind an escaped line end, if this is one. -/
def continuation (cs : List Char) : Option (List Char) :=
  let isGap := fun c => c = ' ' || c = '\t'
  match cs.dropWhile isGap with
  | '\n' :: rest => some (rest.dropWhile (fun c => isGap c || c = '\n' || c = '\r'))
  | '\r' :: '\n' :: rest => some (rest.dropWhile (fun c => isGap c || c = '\n' || c = '\r'))
  | _ => none

/-- The characters of a basic string; quotes and line ends count only in the multi-line form. -/
def basicChars (form : StringForm) : Nat → Nat → List Char → Except Fault (List Char)
  | 0, _, _ => .ok []
  | fuel + 1, offset, cs =>
    let multi := form = .multiBasic
    match cs with
    | [] => .ok []
    | '\\' :: rest =>
      match if multi then continuation rest else none with
      | some behind =>
        let passed := byteLength rest - byteLength behind
        basicChars form fuel (offset + 1 + passed) behind
      | none => do
        let (c, behind, offset) ← escape (offset + 1) rest
        return c :: (← basicChars form fuel offset behind)
    | c :: rest =>
      if multi && c = '\r' && rest.head? ≠ some '\n' then refuse .loneCarriageReturn offset
      else if (isVisible c && (multi || c ≠ '"')) || (multi && (c = '\n' || c = '\r')) then do
        return c :: (← basicChars form fuel (offset + c.utf8Size) rest)
      else refuse (.basicChar form) offset

def stringOf (form : StringForm) (p : Piece) : Except Fault String := do
  let quotes := match form with
    | .basic | .literal => 1
    | .multiBasic | .multiLiteral => 3
  let opened ← openQuote form quotes p
  let body := if quotes = 3 then dropFirstBreak opened else opened
  let closed ← closeQuote form quotes p body
  let offset := p.first + byteLength p.text - byteLength body
  let chars ← match form with
    | .literal | .multiLiteral => literalChars form offset closed
    | .basic | .multiBasic => basicChars form (closed.length + 1) offset closed
  return String.ofList chars

def isKeyChar (c : Char) : Bool := c.isAlphanum || c = '-' || c = '_'

def checkKeyChars : Nat → List Char → Except Fault Unit
  | _, [] => .ok ()
  | offset, c :: rest =>
    if isKeyChar c then checkKeyChars (offset + c.utf8Size) rest else refuse .invalidKey offset

def keyOf (p : Piece) : Except Fault String :=
  match p.form with
  | some .multiBasic => refuse (.multiLineKey .multiBasic) p.first
  | some .multiLiteral => refuse (.multiLineKey .multiLiteral) p.first
  | some form => stringOf form p
  | none => do
    if p.text.isEmpty then refuse .emptyKey p.first
    else
      checkKeyChars p.first p.text
      return String.ofList p.text

/-- Whether a character may stand beside an underscore. -/
def isNumberDigit (isFloat : Bool) (c : Char) : Bool :=
  c.isDigit || (!isFloat && (hexValue? c).isSome)

/-- Splits at underscores, with the offset of each part. -/
def splitUnderscores : Nat → List Char → List Char → List (Nat × List Char)
  | first, part, [] => [(first, part)]
  | first, part, c :: rest =>
    if c = '_' then (first, part) :: splitUnderscores (first + byteLength part + 1) [] rest
    else splitUnderscores first (part ++ [c]) rest

/-- Checks one part between underscores. `first` and `total` are offsets from the start of the
piece. -/
def checkPart (isFloat : Bool) (base total : Nat) (first : Nat) (part : List Char) :
    Except Fault Unit := do
  let behind := first + byteLength part
  if 0 < first && !(part.head?.all (isNumberDigit isFloat)) then
    refuse .misplacedUnderscore (base + first - 1)
  if 1 < part.length && behind < total && !(part.getLast?.all (isNumberDigit isFloat)) then
    refuse .misplacedUnderscore (base + behind)
  if part.isEmpty && first ≠ 0 && behind ≠ total then
    refuse .misplacedUnderscore (base + first)

/-- The digits without underscores. They may only stand between digits. `first` is where `cs` stands
inside the piece. -/
def withoutUnderscores (isFloat : Bool) (p : Piece) (first : Nat) (cs : List Char) :
    Except Fault (List Char) := do
  if !cs.contains '_' then return cs
  else
    let total := byteLength p.text
    if cs.head? = some '_' then refuse .misplacedUnderscore p.first
    else if 1 < cs.length && cs.getLast? = some '_' then
      refuse .misplacedUnderscore (p.first + first + byteLength cs - 1)
    else
      let parts := splitUnderscores first [] cs
      parts.forM fun part => checkPart isFloat p.first total part.1 part.2
      return (parts.map (·.2)).flatten

def checkDigits (part : FloatPart) (offset : Nat) (cs : List Char) :
    Except Fault (List Char × Nat) :=
  let taken := cs.takeWhile (fun c => c.isDigit || c = '_')
  let count := (taken.filter Char.isDigit).length
  if count = 0 then refuse (.missingDigits part) offset
  else if 1 < count && cs.head? = some '0' && part = .mantissa then refuse .leadingZero offset
  else .ok (cs.drop taken.length, offset + taken.length)

def checkFloat (offset : Nat) (cs : List Char) : Except Fault Unit := do
  let (cs, offset) ← checkDigits .mantissa offset cs
  let (cs, offset) ← match cs with
    | '.' :: rest => checkDigits .fraction (offset + 1) rest
    | _ => pure (cs, offset)
  let (cs, offset) ← match cs with
    | 'e' :: rest => exponent offset rest
    | 'E' :: rest => exponent offset rest
    | _ => pure (cs, offset)
  if !cs.isEmpty then refuse .invalidFloat offset
where
  exponent (offset : Nat) (cs : List Char) : Except Fault (List Char × Nat) :=
    match cs with
    | '+' :: rest => checkDigits .exponent (offset + 2) rest
    | '-' :: rest => checkDigits .exponent (offset + 2) rest
    | _ => checkDigits .exponent (offset + 1) cs

def floatOf (p : Piece) (first : Nat) (cs : List Char) : Except Fault Scalar := do
  checkFloat (p.first + first) cs
  return .float (← withoutUnderscores true p 0 p.text)

def decimalOf (p : Piece) (first : Nat) (cs : List Char) : Except Fault Scalar := do
  if cs.head? = some '0' && 1 < cs.length then refuse .leadingZero (p.first + first)
  else return .integer .decimal (← withoutUnderscores false p 0 p.text)

def unquotedString {α : Type} (p : Piece) : Except Fault α := refuse .unquotedString p.first

/-- A scalar that begins with a digit or what may be meant as one. -/
def numberOf (p : Piece) (first : Nat) (cs : List Char) : Except Fault Scalar :=
  let rest := cs.dropWhile Char.isDigit
  match rest with
  | [] => decimalOf p first cs
  | c :: _ =>
    if c = '-' || c = ':' then
      match DateTime.ofChars p.text with
      | .ok v => .ok (.dateTime v)
      | .error problem => refuse problem p.first
    else if rest.contains ' ' then unquotedString p
    else if rest.contains '.' || rest.contains 'e' || rest.contains 'E' then floatOf p first cs
    else if c = '_' then decimalOf p first cs
    else unquotedString p

def checkRadixDigits (radix : Radix) : Nat → List Char → Except Fault Unit
  | _, [] => .ok ()
  | offset, c :: rest =>
    if c = '_' || (hexValue? c).any (· < radix.base) then
      checkRadixDigits radix (offset + c.utf8Size) rest
    else refuse (.invalidDigit radix) offset

def radixOf? (c : Char) : Option Radix :=
  match c.toLower with
  | 'x' => some .hexadecimal
  | 'o' => some .octal
  | 'b' => some .binary
  | 'd' => some .decimal
  | _ => none

/-- A scalar that begins with a zero, behind a sign if it has one. -/
def zeroOf (p : Piece) (signed : Bool) (first : Nat) (cs : List Char) : Except Fault Scalar := do
  match cs with
  | _ :: letter :: digits =>
    match radixOf? letter with
    | none => numberOf p first cs
    | some radix =>
      if signed then refuse .signedRadix p.first
      else if letter.isUpper then refuse (.upperRadix radix) (p.first + first)
      else if radix = .decimal then refuse .redundantRadix (p.first + first)
      else
        checkRadixDigits radix (p.first + first + 2) digits
        return .integer radix (← withoutUnderscores false p (first + 2) digits)
  | _ => return .integer .decimal p.text

def wordOf (p : Piece) (word : Word) (value : Scalar) : Except Fault Scalar :=
  if String.ofList p.text = word.text then .ok value
  else if p.text.contains ' ' then unquotedString p
  else refuse (.wrongWord word) p.first

def signedWordOf (p : Piece) (word : Word) (cs : List Char) : Except Fault Scalar :=
  if String.ofList cs = word.text then .ok (.float p.text)
  else refuse (.wrongWord word) (p.first + 1)

def signedOf (p : Piece) (cs : List Char) : Except Fault Scalar :=
  match cs with
  | [] => unquotedString p
  | c :: _ =>
    if c = '+' || c = '-' then refuse .repeatedSign (p.first + 1)
    else if c = '0' then zeroOf p true 1 cs
    else if c.isDigit || c = '_' then numberOf p 1 cs
    else if c = '.' then floatOf p 1 cs
    else if c = 'i' || c = 'I' then signedWordOf p .infinite cs
    else if c = 'n' || c = 'N' then signedWordOf p .notANumber cs
    else unquotedString p

def unquotedOf (p : Piece) : Except Fault Scalar :=
  match p.text with
  | [] => unquotedString p
  | c :: rest =>
    if c = '+' || c = '-' then signedOf p rest
    else if c = '0' then zeroOf p false 0 p.text
    else if c.isDigit || c = '_' then numberOf p 0 p.text
    else if c = '.' then floatOf p 0 p.text
    else match c.toLower with
      | 't' => wordOf p .true (.boolean true)
      | 'f' => wordOf p .false (.boolean false)
      | 'i' => wordOf p .infinite (.float p.text)
      | 'n' => wordOf p .notANumber (.float p.text)
      | _ => unquotedString p

def ofPiece (p : Piece) : Except Fault Scalar :=
  match p.form with
  | some form => (stringOf form p).map .string
  | none => unquotedOf p

def sort : Scalar → ValueSort
  | .string _ => .string
  | .boolean _ => .boolean
  | .dateTime _ => .dateTime
  | .integer .. => .integer
  | .float _ => .float

end Scalar
end AgentManifest.Toml
