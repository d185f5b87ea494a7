/-! Places in a YAML text, counted in characters, and the character classes of the language. Lines
end at a line feed, a carriage return, the two together, or one of three Unicode line ends. -/

namespace AgentManifest.Yaml

/-- A place: characters before it, lines before it, and characters before it on its line. -/
structure Mark where
  index : Nat
  line : Nat
  column : Nat
  deriving DecidableEq, Repr, Inhabited

namespace Mark

def start : Mark := ⟨0, 0, 0⟩

def isOrigin (m : Mark) : Bool := m.line = 0 && m.column = 0

def text (m : Mark) : String :=
  if m.isOrigin then s!"position {m.index}" else s!"line {m.line + 1} column {m.column + 1}"

end Mark

def isBlank (c : Char) : Bool := c = ' ' || c = '\t'

def isBreak (c : Char) : Bool :=
  c = '\n' || c = '\r' || c = '\x85' || c = '\u2028' || c = '\u2029'

def isWordChar (c : Char) : Bool := c.isAlphanum || c = '_' || c = '-'

def hexValue? (c : Char) : Option Nat :=
  if '0' ≤ c ∧ c ≤ '9' then some (c.toNat - 48)
  else if 'a' ≤ c ∧ c ≤ 'f' then some (c.toNat - 87)
  else if 'A' ≤ c ∧ c ≤ 'F' then some (c.toNat - 55)
  else none

def isAllowed (c : Char) : Bool :=
  c = '\t' || c = '\n' || c = '\r' || (' ' ≤ c && c ≤ '~') || c = '\x85'
    || ('\u00a0' ≤ c && c ≤ '\ud7ff') || ('\ue000' ≤ c && c ≤ '\ufffd') || 0x10000 ≤ c.toNat

structure Place where
  rest : List Char
  mark : Mark
  deriving Repr, Inhabited

namespace Place

def peek? (p : Place) : Option Char := p.rest.head?

def peekAt? (p : Place) (n : Nat) : Option Char := p.rest[n]?

def sees (p : Place) (c : Char) : Bool := p.peek? == some c

def seesAt (p : Place) (n : Nat) (c : Char) : Bool := p.peekAt? n == some c

def satisfies (p : Place) (cond : Char → Bool) : Bool := p.peek?.any cond

def atEnd (p : Place) : Bool := p.rest.isEmpty

def seesBlank (p : Place) : Bool := p.satisfies isBlank

def seesBreak (p : Place) : Bool := p.satisfies isBreak

def isGap (c : Option Char) : Bool := c.all (fun c => isBlank c || isBreak c)

def seesGap (p : Place) : Bool := isGap p.peek?

def seesGapAt (p : Place) (n : Nat) : Bool := isGap (p.peekAt? n)

def seesLineEnd (p : Place) : Bool := p.peek?.all isBreak

def skip (p : Place) : Place :=
  match p.rest with
  | [] => p
  | _ :: rest => ⟨rest, ⟨p.mark.index + 1, p.mark.line, p.mark.column + 1⟩⟩

def skipBy (p : Place) (n : Nat) : Place :=
  ⟨p.rest.drop n, ⟨p.mark.index + n, p.mark.line, p.mark.column + n⟩⟩

/-- Moves over a line end and tells how it stands in a value: every ordinary line end as a line
feed, the two Unicode separators as themselves. -/
def takeBreak (p : Place) : List Char × Place :=
  match p.rest with
  | '\r' :: '\n' :: rest => (['\n'], ⟨rest, ⟨p.mark.index + 2, p.mark.line + 1, 0⟩⟩)
  | c :: rest =>
    let behind : Place := ⟨rest, ⟨p.mark.index + 1, p.mark.line + 1, 0⟩⟩
    if c = '\u2028' ∨ c = '\u2029' then ([c], behind)
    else if isBreak c then (['\n'], behind)
    else ([], p)
  | [] => ([], p)

def skipBreak (p : Place) : Place := p.takeBreak.2

def skipWhile (cond : Char → Bool) (p : Place) : Place :=
  let taken := (p.rest.takeWhile cond).length
  p.skipBy taken

def takeWhile (cond : Char → Bool) (p : Place) : List Char × Place :=
  let taken := p.rest.takeWhile cond
  (taken, p.skipBy taken.length)

def skipComment (p : Place) : Place :=
  if p.sees '#' then p.skipWhile (fun c => !isBreak c) else p

/-- Whether a document mark (three times the given character, and a gap) starts a line here. -/
def seesDocumentMark (p : Place) (c : Char) : Bool :=
  p.mark.column = 0 && p.sees c && p.seesAt 1 c && p.seesAt 2 c && p.seesGapAt 3

end Place
end AgentManifest.Yaml
