import AgentManifest.Yaml.Fault
import AgentManifest.Yaml.Token

/-! Reading scalars: plain, quoted, and the two block forms. Lines of plain and quoted scalars are
folded: one line end becomes a blank, and of several the first is dropped. -/

namespace AgentManifest.Yaml.Scalar

def refuse {α : Type} (p : Place) (problem : Problem) (activity : Activity) (start : Mark) :
    Except SyntaxFault α :=
  .error ⟨problem, p.mark, some (activity, start)⟩

/-- The text read so far, in reverse, and the gap that follows it: blanks on the line, or the first
line end and the later ones. -/
structure Folding where
  text : List Char
  blanks : List Char
  firstBreak : List Char
  moreBreaks : List Char
  broken : Bool
  deriving Repr, Inhabited

namespace Folding

def ofText (text : List Char) : Folding := ⟨text, [], [], [], false⟩

def join (f : Folding) : Folding :=
  let gap :=
    if f.broken then
      if f.firstBreak.head? = some '\n' then
        if f.moreBreaks.isEmpty then [' '] else f.moreBreaks
      else f.firstBreak ++ f.moreBreaks
    else f.blanks
  ofText (gap.reverse ++ f.text)

def addBreak (f : Folding) (lineEnd : List Char) : Folding :=
  if f.broken then { f with moreBreaks := f.moreBreaks ++ lineEnd }
  else { f with blanks := [], firstBreak := lineEnd, broken := true }

/-- Takes one blank into the gap; behind a line end it does not count. -/
def addBlank (f : Folding) (c : Char) : Folding :=
  if f.broken then f else { f with blanks := f.blanks ++ [c] }

end Folding

/-- Takes a gap of blanks and line ends. `tabFloor` gives the column below which a tab behind a line
end is refused, with the place where the scalar began. -/
def gap (tabFloor : Option (Int × Mark)) : Nat → Folding → Place →
    Except SyntaxFault (Folding × Place)
  | 0, f, p => .ok (f, p)
  | fuel + 1, f, p =>
    match p.peek? with
    | none => .ok (f, p)
    | some c =>
      if isBlank c then
        let refused := match tabFloor with
          | some (floor, _) => f.broken && decide ((p.mark.column : Int) < floor) && c = '\t'
          | none => false
        if refused then
          refuse p .tabBelowIndentation .plainScalar ((tabFloor.map (·.2)).getD p.mark)
        else gap tabFloor fuel (f.addBlank c) p.skip
      else if isBreak c then
        let (lineEnd, behind) := p.takeBreak
        gap tabFloor fuel (f.addBreak lineEnd) behind
      else .ok (f, p)

def isFlowEnd (c : Char) : Bool := c = ',' || c = '[' || c = ']' || c = '{' || c = '}'

/-- Takes the characters up to the next gap or indicator. The mark is behind the last one taken. -/
def plainRun (flow : Bool) (start : Mark) : Nat → Folding → Mark → Place →
    Except SyntaxFault (Folding × Mark × Place)
  | 0, f, behind, p => .ok (f, behind, p)
  | fuel + 1, f, behind, p =>
    match p.peek? with
    | none => .ok (f, behind, p)
    | some c =>
      if isBlank c || isBreak c then .ok (f, behind, p)
      else if flow && c = ':' && (p.peekAt? 1).any (fun d => isFlowEnd d || d = '?') then
        refuse p .colonInFlow .plainScalar start
      else if (c = ':' && p.seesGapAt 1) || (flow && isFlowEnd c) then .ok (f, behind, p)
      else
        let f := if f.broken || !f.blanks.isEmpty then f.join else f
        plainRun flow start fuel { f with text := c :: f.text } p.skip.mark p.skip

def plainLines (flow : Bool) (indent : Int) (start : Mark) : Nat → Folding → Mark → Place →
    Except SyntaxFault (Folding × Mark × Place)
  | 0, f, behind, p => .ok (f, behind, p)
  | fuel + 1, f, behind, p => do
    if p.seesDocumentMark '-' || p.seesDocumentMark '.' || p.sees '#' then return (f, behind, p)
    let (f, behind, p) ← plainRun flow start (p.rest.length + 1) f behind p
    if !(p.seesBlank || p.seesBreak) then return (f, behind, p)
    let (f, p) ← gap (some (indent, start)) (p.rest.length + 1) f p
    if !flow && (p.mark.column : Int) < indent then return (f, behind, p)
    plainLines flow indent start fuel f behind p

/-- Reads a plain scalar; the flag tells whether it ends behind a line end. -/
def plain (flow : Bool) (indent : Int) (p : Place) : Except SyntaxFault (Token × Bool × Place) := do
  let (f, behind, rest) ←
    plainLines flow (indent + 1) p.mark (p.rest.length + 1) (Folding.ofText []) p.mark p
  return (⟨.scalar (String.ofList f.text.reverse) .plain, p.mark, behind⟩, f.broken, rest)

def escapeOf (c : Char) : Option (Char ⊕ Nat) :=
  match c with
  | '0' => some (.inl '\x00')
  | 'a' => some (.inl '\x07')
  | 'b' => some (.inl '\x08')
  | 't' => some (.inl '\t')
  | '\t' => some (.inl '\t')
  | 'n' => some (.inl '\n')
  | 'v' => some (.inl '\x0b')
  | 'f' => some (.inl '\x0c')
  | 'r' => some (.inl '\r')
  | 'e' => some (.inl '\x1b')
  | ' ' => some (.inl ' ')
  | '"' => some (.inl '"')
  | '/' => some (.inl '/')
  | '\\' => some (.inl '\\')
  | 'N' => some (.inl '\x85')
  | '_' => some (.inl '\xa0')
  | 'L' => some (.inl '\u2028')
  | 'P' => some (.inl '\u2029')
  | 'x' => some (.inr 2)
  | 'u' => some (.inr 4)
  | 'U' => some (.inr 8)
  | _ => none

def hexNumber? (digits : List Char) : Option Nat :=
  digits.foldl (fun n c => do return (← n) * 16 + (← hexValue? c)) (some 0)

def escape (start : Mark) (p : Place) : Except SyntaxFault (Char × Place) :=
  match (p.peekAt? 1).bind escapeOf with
  | none => refuse p .unknownEscape .quotedEscape start
  | some (.inl c) => .ok (c, p.skipBy 2)
  | some (.inr count) =>
    let digits := p.skipBy 2
    let taken := digits.rest.take count
    match if taken.length = count then hexNumber? taken else none with
    | none => refuse digits .hexExpected .quotedEscape start
    | some n =>
      if (0xD800 ≤ n ∧ n ≤ 0xDFFF) ∨ 0x10FFFF < n then
        refuse digits .invalidCodePoint .quotedEscape start
      else .ok (Char.ofNat n, digits.skipBy count)

/-- Takes the characters up to the closing quote or the next gap. The flag tells of an escaped line
end, which opens a gap that stands for nothing. -/
def quotedRun (single : Bool) (start : Mark) : Nat → List Char → Place →
    Except SyntaxFault (List Char × Bool × Place)
  | 0, text, p => .ok (text, false, p)
  | fuel + 1, text, p =>
    match p.peek? with
    | none => .ok (text, false, p)
    | some c =>
      if isBlank c || isBreak c then .ok (text, false, p)
      else if single && c = '\'' && p.seesAt 1 '\'' then
        quotedRun single start fuel ('\'' :: text) (p.skipBy 2)
      else if c = (if single then '\'' else '"') then .ok (text, false, p)
      else if !single && c = '\\' && (p.peekAt? 1).any isBreak then
        .ok (text, true, p.skip.skipBreak)
      else if !single && c = '\\' then do
        let (escaped, p) ← escape start p
        quotedRun single start fuel (escaped :: text) p
      else quotedRun single start fuel (c :: text) p.skip

def quotedLines (single : Bool) (start : Mark) : Nat → List Char → Place →
    Except SyntaxFault (List Char × Place)
  | 0, _, p => refuse p .endInQuotes .quotedScalar start
  | fuel + 1, text, p => do
    if p.seesDocumentMark '-' || p.seesDocumentMark '.' then
      refuse p .documentMarkInQuotes .quotedScalar start
    else if p.atEnd then refuse p .endInQuotes .quotedScalar start
    else
      let (text, escapedBreak, p) ← quotedRun single start (p.rest.length + 1) text p
      if p.sees (if single then '\'' else '"') then return (text, p.skip)
      let (f, p) ← gap none (p.rest.length + 1)
        { Folding.ofText text with broken := escapedBreak } p
      quotedLines single start fuel f.join.text p

def quoted (single : Bool) (p : Place) : Except SyntaxFault (Token × Place) := do
  let (text, rest) ← quotedLines single p.mark (p.rest.length + 1) [] p.skip
  let style := if single then ScalarStyle.singleQuoted else .doubleQuoted
  return (⟨.scalar (String.ofList text.reverse) style, p.mark, rest.mark⟩, rest)

inductive Chomping where
  | strip
  | clip
  | keep
  deriving DecidableEq, Repr

def indentDigit (start : Mark) (p : Place) : Except SyntaxFault (Nat × Place) :=
  match p.peek? with
  | some c =>
    if c = '0' then refuse p .zeroIndentation .blockScalar start
    else if c.isDigit then .ok (c.toNat - 48, p.skip)
    else .ok (0, p)
  | none => .ok (0, p)

def chompSign (p : Place) : Option Chomping × Place :=
  match p.peek? with
  | some '+' => (some .keep, p.skip)
  | some '-' => (some .strip, p.skip)
  | _ => (none, p)

def blockHeader (start : Mark) (p : Place) : Except SyntaxFault (Chomping × Nat × Place) := do
  match chompSign p with
  | (some chomping, p) =>
    let (increment, p) ← indentDigit start p
    return (chomping, increment, p)
  | (none, p) =>
    let (increment, p) ← indentDigit start p
    if increment = 0 then return (.clip, 0, p)
    let (chomping, p) := chompSign p
    return (chomping.getD .clip, increment, p)

/-- Takes indentation and empty lines. Gives the line ends taken, the greatest column reached and
the place behind the last line end. `indent` is 0 while it is unknown. -/
def blockBreaks (start : Mark) (indent : Nat) : Nat → Nat → List Char → Mark → Place →
    Except SyntaxFault (Nat × List Char × Mark × Place)
  | 0, widest, breaks, behind, p => .ok (widest, breaks, behind, p)
  | fuel + 1, widest, breaks, behind, p =>
    let inside := fun (p : Place) => indent = 0 || p.mark.column < indent
    if p.sees ' ' && inside p then blockBreaks start indent fuel widest breaks behind p.skip
    else
      let widest := max widest p.mark.column
      if p.sees '\t' && inside p then refuse p .tabInIndentation .blockScalar start
      else if p.seesBreak then
        let (lineEnd, p) := p.takeBreak
        blockBreaks start indent fuel widest (breaks ++ lineEnd) p.mark p
      else .ok (widest, breaks, behind, p)

def blockIndent (parent : Int) (widest : Nat) : Nat := max (max widest (parent + 1).toNat) 1

/-- Takes the lines of a block scalar. `lineEnd` is the line end behind the last line, `breaks`
those of the empty lines after it, `wasBlank` whether the last line began with a blank. -/
def blockLines (literal : Bool) (start : Mark) (indent : Nat) : Nat → List Char → List Char →
    List Char → Bool → Mark → Place →
    Except SyntaxFault (List Char × List Char × List Char × Mark × Place)
  | 0, text, lineEnd, breaks, _, behind, p => .ok (text, lineEnd, breaks, behind, p)
  | fuel + 1, text, lineEnd, breaks, wasBlank, behind, p =>
    if p.mark.column ≠ indent || p.atEnd then .ok (text, lineEnd, breaks, behind, p)
    else
      let isBlankLine := p.seesBlank
      let joined :=
        if !literal && lineEnd.head? == some '\n' && !wasBlank && !isBlankLine then
          if breaks.isEmpty then [' '] else breaks
        else lineEnd ++ breaks
      let (line, p) := p.takeWhile (fun c => !isBreak c)
      let text := line.reverse ++ joined.reverse ++ text
      let (lineEnd, p) := p.takeBreak
      match blockBreaks start indent (p.rest.length + 1) 0 [] p.mark p with
      | .error e => .error e
      | .ok (_, breaks, behind, p) =>
        blockLines literal start indent fuel text lineEnd breaks isBlankLine behind p

def block (literal : Bool) (parent : Int) (p : Place) : Except SyntaxFault (Token × Place) := do
  let start := p.mark
  let (chomping, increment, p) ← blockHeader start p.skip
  let p := (p.skipWhile isBlank).skipComment
  if !p.seesLineEnd then refuse p .commentOrBreakExpected .blockScalar start
  else
    let p := p.skipBreak
    let given := if increment = 0 then 0 else (max parent 0).toNat + increment
    let (widest, breaks, behind, p) ←
      blockBreaks start given (p.rest.length + 1) 0 [] p.mark p
    let indent := if given = 0 then blockIndent parent widest else given
    let (text, lineEnd, breaks, behind, p) ←
      blockLines literal start indent (p.rest.length + 1) [] [] breaks false behind p
    let tail := match chomping with
      | .strip => []
      | .clip => lineEnd
      | .keep => lineEnd ++ breaks
    let style := if literal then ScalarStyle.literal else .folded
    return (⟨.scalar (String.ofList (text.reverse ++ tail)) style, start, behind⟩, p)

end AgentManifest.Yaml.Scalar
