import AgentManifest.Toml.Token

/-! The statements of a TOML text: table headers, and keys with their values. Keys and scalars are
kept as written. The shape of the text, its line ends and its comments are checked here; what a key
or a scalar says is looked at later, so that a fault of shape anywhere comes before one of
content. -/

namespace AgentManifest.Toml

structure Piece where
  form : Option StringForm
  text : List Char
  first : Nat
  deriving DecidableEq, Repr

inductive Term where
  | scalar (piece : Piece)
  | array (items : List Term)
  | inlineTable (entries : List (List Piece × Term))
  deriving Repr

/-- A statement. A dotted key is a list of its parts. -/
inductive Statement where
  | header (isArray : Bool) (key : List Piece)
  | entry (key : List Piece) (value : Term)
  deriving Repr

/-- The tokens left, and the offset behind the last one that was no blank, comment or line end. -/
structure Stream where
  tokens : List Token
  lastEnd : Nat
  deriving Repr

namespace Stream

def peek (s : Stream) : Token := s.tokens.head?.getD ⟨.textEnd, [], s.lastEnd⟩

def kind (s : Stream) : TokenKind := s.peek.kind

def isPassedOver : TokenKind → Bool
  | .blank | .newline | .comment | .textEnd => true
  | _ => false

def skip (s : Stream) : Stream :=
  let t := s.peek
  ⟨s.tokens.drop 1, if isPassedOver t.kind then s.lastEnd else t.behind⟩

def skipBlank (s : Stream) : Stream := if s.kind = .blank then s.skip else s

end Stream

namespace Statement

/-- A line end is a line feed, alone or behind a carriage return. -/
def checkNewline (t : Token) : Except Fault Unit :=
  if t.text = ['\r'] then refuse .loneCarriageReturn t.behind else .ok ()

def isCommentChar (c : Char) : Bool := c = '\t' || (' ' ≤ c && c ≠ '\x7f')

def checkComment (t : Token) : Except Fault Unit :=
  go t.first t.text
where
  go : Nat → List Char → Except Fault Unit
    | _, [] => .ok ()
    | offset, c :: rest =>
      if isCommentChar c then go (offset + c.utf8Size) rest else refuse .invalidComment offset

def comment (s : Stream) : Except Fault Stream := do
  checkComment s.peek
  let s := s.skip
  if s.kind = .newline then
    checkNewline s.peek
    return s.skip
  else return s

def newline (s : Stream) : Except Fault Stream := do
  checkNewline s.peek
  return s.skip

def lineRest (s : Stream) : Except Fault Stream :=
  let s := s.skipBlank
  match s.kind with
  | .comment => comment s
  | .newline => newline s
  | .textEnd => .ok s
  | _ => refuse .unexpectedRest s.peek.first

def skipLine : Nat → Stream → Except Fault Stream
  | 0, s => .ok s
  | fuel + 1, s =>
    match s.kind with
    | .comment => comment s
    | .newline => newline s
    | .textEnd => .ok s
    | _ => skipLine fuel s.skip

def pieceOf (t : Token) : Option Piece :=
  match t.kind with
  | .string form => some ⟨some form, t.text, t.first⟩
  | .atom => some ⟨none, t.text, t.first⟩
  | _ => none

def missing (t : Token) : Piece := ⟨none, [], t.first⟩

/-- Reads the dots and parts behind the first part of a key. The flag says whether the last dot has
a part behind it. -/
def dottedRest : Nat → Stream → List Piece × Bool × Stream
  | 0, s => ([], true, s)
  | fuel + 1, s =>
    let s := s.skipBlank
    if s.kind = .dot then
      let s := s.skip.skipBlank
      match pieceOf s.peek with
      | some piece =>
        let (rest, complete, s) := dottedRest fuel s.skip
        (piece :: rest, complete, s)
      | none =>
        if s.kind = .dot then
          let (rest, complete, behind) := dottedRest fuel s
          (missing s.peek :: rest, complete, behind)
        else ([missing s.peek], false, s)
    else ([], true, s)

def key (s : Stream) : List Piece × Bool × Stream :=
  match pieceOf s.peek with
  | some piece =>
    let (rest, complete, s) := dottedRest s.tokens.length s.skip
    (piece :: rest, complete, s)
  | none =>
    if s.kind = .dot then
      let (rest, complete, behind) := dottedRest s.tokens.length s
      (missing s.peek :: rest, complete, behind)
    else ([missing s.peek], false, s)

def depthLimit : Nat := 80

/-- Reads a scalar without quotes: atoms and dots, and a blank where another atom follows it. -/
def unquoted : Nat → List Char → Stream → List Char × Stream
  | 0, text, s => (text, s)
  | fuel + 1, text, s =>
    match s.kind with
    | .dot => unquoted fuel (text ++ s.peek.text) s.skip
    | .atom => unquoted fuel (text ++ s.peek.text) s.skip
    | .blank =>
      if s.skip.kind = .atom then
        unquoted fuel (text ++ s.peek.text ++ s.skip.peek.text) s.skip.skip
      else (text, s)
    | _ => (text, s)

def scalar (s : Stream) : Term × Stream :=
  match s.kind with
  | .string form => (.scalar ⟨some form, s.peek.text, s.peek.first⟩, s.skip)
  | _ =>
    let (text, rest) := unquoted (s.tokens.length + 1) [] s
    (.scalar ⟨none, text, s.peek.first⟩, rest)

inductive Need where
  | key
  | equals (key : List Piece)
  | value (key : List Piece)
  | comma
  deriving Repr

/-- What stands for a value that is missing in front of a brace. -/
def missingValue (t : Token) : Term := .scalar ⟨some .literal, [], t.first⟩

mutual

def term : Nat → Nat → Stream → Except Fault (Term × Stream)
  | 0, _, s => refuse .nestedTooDeep s.peek.first
  | fuel + 1, depth, s =>
    let t := s.peek
    match t.kind with
    | .comment | .comma | .newline | .textEnd => .ok (.scalar (missing t), s)
    | .equals => refuse .extraEquals t.first
    | .leftCurly =>
      if depth = 0 then refuse .nestedTooDeep t.first
      else do
        let (entries, s) ← inlineTable fuel (depth - 1) .key s.skip
        return (.inlineTable entries, s)
    | .rightCurly => refuse .missingInlineTableOpening t.first
    | .leftSquare =>
      if depth = 0 then refuse .nestedTooDeep t.first
      else do
        let (items, s) ← array fuel (depth - 1) true s.skip
        return (.array items, s)
    | .rightSquare => refuse .missingArrayOpening t.first
    | .blank => term fuel depth s.skip
    | _ => .ok (scalar s)

def array : Nat → Nat → Bool → Stream → Except Fault (List Term × Stream)
  | 0, _, _, s => refuse .nestedTooDeep s.peek.first
  | fuel + 1, depth, needsValue, s =>
    let t := s.peek
    match t.kind with
    | .comment => do array fuel depth needsValue (← comment s)
    | .newline => do array fuel depth needsValue (← newline s)
    | .blank => array fuel depth needsValue s.skip
    | .textEnd => refuse .unclosedArray s.lastEnd
    | .comma =>
      if needsValue then refuse .extraCommaInArray t.first else array fuel depth true s.skip
    | .equals => refuse .equalsInArray t.first
    | .rightCurly => refuse .missingInlineTableOpening t.first
    | .rightSquare => .ok ([], s.skip)
    | _ =>
      if !needsValue then refuse .missingCommaInArray t.first
      else do
        let (item, s) ← term fuel depth s
        let (rest, s) ← array fuel depth false s
        return (item :: rest, s)

def inlineTable : Nat → Nat → Need → Stream → Except Fault (List (List Piece × Term) × Stream)
  | 0, _, _, s => refuse .nestedTooDeep s.peek.first
  | fuel + 1, depth, need, s =>
    let t := s.peek
    match t.kind with
    | .comment => do inlineTable fuel depth need (← comment s)
    | .newline => do inlineTable fuel depth need (← newline s)
    | .blank => inlineTable fuel depth need s.skip
    | .textEnd => refuse .unclosedInlineTable s.lastEnd
    | .comma =>
      match need with
      | .comma => inlineTable fuel depth .key s.skip
      | _ => refuse .extraCommaInInlineTable t.first
    | .equals =>
      match need with
      | .key => inlineTable fuel depth (.value [missing t]) s.skip
      | .equals key => inlineTable fuel depth (.value key) s.skip
      | _ => refuse .extraAssignment t.first
    | .rightCurly =>
      match need with
      | .equals key => .ok ([(key, missingValue t)], s.skip)
      | .value key => .ok ([(key, missingValue t)], s.skip)
      | _ => .ok ([], s.skip)
    | .rightSquare =>
      match need with
      | .value _ => refuse .missingArrayOpening t.first
      | _ => refuse .missingInlineKey t.first
    | _ =>
      match need with
      | .key =>
        if t.kind = .leftCurly || t.kind = .leftSquare then refuse .missingInlineKey t.first
        else
          let (key, _, s) := key s
          inlineTable fuel depth (.equals key) s
      | .equals _ => refuse .missingAssignment t.first
      | .comma =>
        if t.kind = .leftCurly || t.kind = .leftSquare then refuse .missingInlineKey t.first
        else refuse .missingCommaInInlineTable t.first
      | .value key => do
        let (value, s) ← term fuel depth s
        let (rest, s) ← inlineTable fuel depth .comma s
        return ((key, value) :: rest, s)

end

def readHeader (s : Stream) : Except Fault (Statement × Stream) := do
  let isArray := s.kind = .leftSquare
  let s := (if isArray then s.skip else s).skipBlank
  let (key, complete, s) := key s
  let s := s.skipBlank
  if s.kind ≠ .rightSquare then
    if complete then
      refuse (if isArray then .unclosedArrayTable true else .unclosedTable) s.lastEnd
    else return (.header isArray key, ← skipLine (s.tokens.length + 1) s)
  else
    let s := s.skip
    if isArray then
      if s.kind ≠ .rightSquare then refuse (.unclosedArrayTable false) s.lastEnd
      else return (.header true key, ← lineRest s.skip)
    else return (.header false key, ← lineRest s)

def readEntry (s : Stream) : Except Fault (Statement × Stream) := do
  let (key, _, s) := key s
  let s := s.skipBlank
  if s.kind ≠ .equals then refuse .keyWithoutValue s.peek.first
  else
    let s := s.skip.skipBlank
    let (value, s) ← term (2 * s.tokens.length + 2) depthLimit s
    return (.entry key value, ← lineRest s)

def all : Nat → Stream → Except Fault (List Statement)
  | 0, _ => .ok []
  | fuel + 1, s =>
    let t := s.peek
    match t.kind with
    | .textEnd => .ok []
    | .blank => all fuel s.skip
    | .newline => do all fuel (← newline s)
    | .comment => do all fuel (← comment s)
    | .leftSquare => do
      let (statement, s) ← readHeader s.skip
      return statement :: (← all fuel s)
    | .rightSquare => refuse .missingTableOpening t.first
    | .comma => refuse .invalidPair t.first
    | .leftCurly => refuse .invalidPair t.first
    | .rightCurly => refuse .invalidPair t.first
    | _ => do
      let (statement, s) ← readEntry s
      return statement :: (← all fuel s)

def ofTokens (tokens : List Token) : Except Fault (List Statement) :=
  all (tokens.length + 1) ⟨tokens, 0⟩

end Statement
end AgentManifest.Toml
