import AgentManifest.Yaml.Token.Tag

/-! From text to tokens. A `:` may turn what stands before it on the line into a key, so every place
where a key may begin is remembered until the line ends, 1024 characters have passed, or something
rules it out; a token is given out only when no key can be put in front of it any more. `Token.scan`
gives the tokens that can be given out, and the fault that ends them, if any. -/

namespace AgentManifest.Yaml

/-- A place where a key may begin, with the number of the token that stands there. -/
structure KeyPlace where
  /-- In block context at the current indentation nothing but a key may stand. -/
  required : Bool
  tokenNumber : Nat
  mark : Mark
  deriving DecidableEq, Repr

structure Lexer where
  place : Place
  /-- Tokens read and not yet given out. -/
  queue : List Token
  /-- How many tokens have been given out. -/
  given : Nat
  /-- The place where a key may begin, for the block context and each open flow collection, the
  innermost first. -/
  keys : List (Option KeyPlace)
  flowLevel : Nat
  keyAllowed : Bool
  indent : Int
  /-- The indentations around the current one, the innermost first. -/
  outer : List Int
  finished : Bool
  deriving Repr

namespace Lexer

open Scalar (refuse)

def start (text : List Char) : Lexer where
  place := ⟨text, Mark.start⟩
  queue := []
  given := 0
  keys := [none]
  flowLevel := 0
  keyAllowed := true
  indent := -1
  outer := []
  finished := false

def mark (s : Lexer) : Mark := s.place.mark

def inFlow (s : Lexer) : Bool := s.flowLevel ≠ 0

def push (s : Lexer) (t : Token) : Lexer := { s with queue := s.queue ++ [t] }

def insertAt (s : Lexer) (number : Nat) (t : Token) : Lexer :=
  let n := number - s.given
  { s with queue := s.queue.take n ++ t :: s.queue.drop n }

def here (s : Lexer) (kind : TokenKind) : Token := ⟨kind, s.mark, s.mark⟩

def take (s : Lexer) (count : Nat) (kind : TokenKind) : Lexer :=
  let behind := s.place.skipBy count
  { s.push ⟨kind, s.mark, behind.mark⟩ with place := behind }

def forget (s : Lexer) (key : Option KeyPlace) : Except SyntaxFault Unit :=
  match key with
  | some k => if k.required then refuse s.place .keyWithoutColon .simpleKey k.mark else .ok ()
  | none => .ok ()

def dropKey (s : Lexer) : Except SyntaxFault Lexer := do
  s.forget (s.keys.head?.join)
  return { s with keys := none :: s.keys.drop 1 }

/-- Whether a place can no longer begin a key: its line has ended or too much text has passed. -/
def isStale (s : Lexer) (k : KeyPlace) : Bool :=
  k.mark.line < s.mark.line || k.mark.index + 1024 < s.mark.index

def dropStale (s : Lexer) : Except SyntaxFault Lexer := do
  let stale := fun (key : Option KeyPlace) => key.any s.isStale
  s.keys.reverse.forM fun key => if stale key then s.forget key else .ok ()
  return { s with keys := s.keys.map fun key => if stale key then none else key }

/-- Remembers the current place as one where a key may begin, if keys are allowed here. -/
def saveKey (s : Lexer) : Except SyntaxFault Lexer := do
  if s.keyAllowed then
    let s ← s.dropKey
    let required := !s.inFlow && s.indent = s.mark.column
    let key : KeyPlace := ⟨required, s.given + s.queue.length, s.mark⟩
    return { s with keys := some key :: s.keys.drop 1 }
  else return s

/-- Opens a block collection at a column deeper than the current indentation. The token goes to the
end, or in front of the token of a given number. -/
def openBlock (s : Lexer) (number : Option Nat) (kind : TokenKind) (opening : Mark) : Lexer :=
  if s.inFlow then s
  else if s.indent < opening.column then
    let token : Token := ⟨kind, opening, opening⟩
    let s := { s with outer := s.indent :: s.outer, indent := opening.column }
    match number with
    | some n => s.insertAt n token
    | none => s.push token
  else s

def closeBlocks (s : Lexer) (column : Int) : Lexer :=
  if s.inFlow then s else go s.outer s.indent []
where
  go : List Int → Int → List Token → Lexer
    | [], indent, ends => { s with outer := [], indent, queue := s.queue ++ ends }
    | outer :: more, indent, ends =>
      if column < indent then go more outer (ends ++ [s.here .blockEnd])
      else { s with outer := outer :: more, indent, queue := s.queue ++ ends }

/-- Moves over blanks, comments and line ends. A tab counts as a blank only where no key may
begin. -/
def skipGap (s : Lexer) : Lexer := go (s.place.rest.length + 1) s
where
  go : Nat → Lexer → Lexer
    | 0, s => s
    | fuel + 1, s =>
      let p := s.place
      let p := if p.mark.column = 0 && p.sees '\ufeff' then p.skip else p
      let tabs := s.inFlow || !s.keyAllowed
      let p := (p.skipWhile (fun c => c = ' ' || (tabs && c = '\t'))).skipComment
      if p.seesBreak then
        go fuel { s with place := p.skipBreak, keyAllowed := s.keyAllowed || !s.inFlow }
      else { s with place := p }

/-- The end of the text. It counts as the start of a line. -/
def takeEnd (s : Lexer) : Except SyntaxFault Lexer := do
  let m := s.mark
  let m : Mark := if m.column = 0 then m else ⟨m.index, m.line + 1, 0⟩
  let s := { s with place := { s.place with mark := m } }
  let s ← (s.closeBlocks (-1)).dropKey
  return { s.push (s.here .streamEnd) with keyAllowed := false, finished := true }

def takeDirective (s : Lexer) : Except SyntaxFault Lexer := do
  let s ← (s.closeBlocks (-1)).dropKey
  let (token, place) ← Tag.directive s.place
  return { s.push token with place, keyAllowed := false }

def takeDocumentMark (s : Lexer) (kind : TokenKind) : Except SyntaxFault Lexer := do
  let s ← (s.closeBlocks (-1)).dropKey
  return { s.take 3 kind with keyAllowed := false }

def openFlow (s : Lexer) (kind : TokenKind) : Except SyntaxFault Lexer := do
  let s ← s.saveKey
  let s := { s with keys := none :: s.keys, flowLevel := s.flowLevel + 1, keyAllowed := true }
  return s.take 1 kind

def closeFlow (s : Lexer) (kind : TokenKind) : Except SyntaxFault Lexer := do
  let s ← s.dropKey
  let s :=
    if s.inFlow then { s with keys := s.keys.drop 1, flowLevel := s.flowLevel - 1 } else s
  return { s.take 1 kind with keyAllowed := false }

def takeFlowEntry (s : Lexer) : Except SyntaxFault Lexer := do
  let s ← s.dropKey
  return { s.take 1 .flowEntry with keyAllowed := true }

def refuseHere {α : Type} (s : Lexer) (problem : Problem) : Except SyntaxFault α :=
  .error ⟨problem, s.mark, none⟩

def takeBlockEntry (s : Lexer) : Except SyntaxFault Lexer := do
  if !s.inFlow && !s.keyAllowed then s.refuseHere .entryNotAllowed
  else
    let s ← (s.openBlock none .blockSequenceStart s.mark).dropKey
    return { s.take 1 .blockEntry with keyAllowed := true }

def takeKey (s : Lexer) : Except SyntaxFault Lexer := do
  if !s.inFlow && !s.keyAllowed then s.refuseHere .keyNotAllowed
  else
    let s ← (s.openBlock none .blockMappingStart s.mark).dropKey
    return { s.take 1 .key with keyAllowed := !s.inFlow }

/-- The colon. What stands at the remembered place becomes a key. -/
def takeValue (s : Lexer) : Except SyntaxFault Lexer :=
  match s.keys.head?.join with
  | some k =>
    let s := s.insertAt k.tokenNumber ⟨.key, k.mark, k.mark⟩
    let s := s.openBlock (some k.tokenNumber) .blockMappingStart k.mark
    .ok ({ s with keys := none :: s.keys.drop 1, keyAllowed := false }.take 1 .value)
  | none =>
    if !s.inFlow && !s.keyAllowed then s.refuseHere .valueNotAllowed
    else
      let s := s.openBlock none .blockMappingStart s.mark
      .ok ({ s with keyAllowed := !s.inFlow }.take 1 .value)

def takeAnchor (s : Lexer) (isAlias : Bool) : Except SyntaxFault Lexer := do
  let s ← s.saveKey
  let (token, place) ← Tag.anchor isAlias s.place
  return { s.push token with place, keyAllowed := false }

def takeTag (s : Lexer) : Except SyntaxFault Lexer := do
  let s ← s.saveKey
  let (token, place) ← Tag.token s.inFlow s.place
  return { s.push token with place, keyAllowed := false }

def takeBlockScalar (s : Lexer) (literal : Bool) : Except SyntaxFault Lexer := do
  let s ← s.dropKey
  let (token, place) ← Scalar.block literal s.indent s.place
  return { s.push token with place, keyAllowed := true }

def takeQuoted (s : Lexer) (single : Bool) : Except SyntaxFault Lexer := do
  let s ← s.saveKey
  let (token, place) ← Scalar.quoted single s.place
  return { s.push token with place, keyAllowed := false }

def takePlain (s : Lexer) : Except SyntaxFault Lexer := do
  let s ← s.saveKey
  let (token, broken, place) ← Scalar.plain s.inFlow s.indent s.place
  return { s.push token with place, keyAllowed := broken }

def isIndicator (c : Char) : Bool := "-?:,[]\x7b\x7d#&*!|>'\"%@`".toList.contains c

/-- Whether a plain scalar may begin here: `-`, `?` and `:` may begin one when something follows. -/
def plainMayBegin (s : Lexer) (c : Char) : Bool :=
  !(isBlank c || isBreak c || isIndicator c)
    || (c = '-' && !(s.place.peekAt? 1).any isBlank)
    || (!s.inFlow && (c = '?' || c = ':') && !s.place.seesGapAt 1)

def fetch (s : Lexer) : Except SyntaxFault Lexer := do
  let s ← s.skipGap.dropStale
  let s := s.closeBlocks s.mark.column
  let p := s.place
  match p.peek? with
  | none => s.takeEnd
  | some c =>
    let gapFollows := p.seesGapAt 1
    if p.mark.column = 0 && c = '%' then s.takeDirective
    else if p.seesDocumentMark '-' then s.takeDocumentMark .documentStart
    else if p.seesDocumentMark '.' then s.takeDocumentMark .documentEnd
    else if c = '[' then s.openFlow .flowSequenceStart
    else if c = '{' then s.openFlow .flowMappingStart
    else if c = ']' then s.closeFlow .flowSequenceEnd
    else if c = '}' then s.closeFlow .flowMappingEnd
    else if c = ',' then s.takeFlowEntry
    else if c = '-' && gapFollows then s.takeBlockEntry
    else if c = '?' && (s.inFlow || gapFollows) then s.takeKey
    else if c = ':' && (s.inFlow || gapFollows) then s.takeValue
    else if c = '*' then s.takeAnchor true
    else if c = '&' then s.takeAnchor false
    else if c = '!' then s.takeTag
    else if c = '|' && !s.inFlow then s.takeBlockScalar true
    else if c = '>' && !s.inFlow then s.takeBlockScalar false
    else if c = '\'' then s.takeQuoted true
    else if c = '"' then s.takeQuoted false
    else if s.plainMayBegin c then s.takePlain
    else refuse p .noToken .nextToken s.mark

/-- The tokens no key can be put in front of any more, and the lexer without them. -/
def release (s : Lexer) : List Token × Lexer :=
  let limit := s.keys.foldl (fun n key => key.elim n (fun k => min n (k.tokenNumber - s.given)))
    s.queue.length
  (s.queue.take limit, { s with queue := s.queue.drop limit, given := s.given + limit })

def run : Nat → Lexer → List Token × Option SyntaxFault
  | 0, _ => ([], none)
  | fuel + 1, s =>
    match s.fetch with
    | .error e => ([], some e)
    | .ok s =>
      match if s.queue.isEmpty then .ok s else s.dropStale with
      | .error e => ([], some e)
      | .ok s =>
        let (tokens, s) := s.release
        if s.finished && s.queue.isEmpty then (tokens, none)
        else
          let (more, fault) := run fuel s
          (tokens ++ more, fault)

end Lexer

/-- The tokens of a text, and the fault that ends them if it has one. The last token of a text
without a fault is the end of the stream. -/
def Token.scan (text : List Char) : List Token × Option SyntaxFault :=
  (Lexer.start text).run (text.length + 2)

end AgentManifest.Yaml
