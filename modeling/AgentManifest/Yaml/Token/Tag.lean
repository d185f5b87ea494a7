import AgentManifest.Text.Utf8
import AgentManifest.Yaml.Token.Scalar

/-! Reading anchors, tags and directives. A tag is a handle between exclamation marks and the text
behind it, or the whole text between angle brackets; text may escape bytes with a percent sign. -/

namespace AgentManifest.Yaml.Tag

open Scalar (refuse)

def partActivity (directive : Bool) : Activity := if directive then .tagDirectivePart else .tagPart

/-- Characters of tag text. Between angle brackets and in directives the comma and the square
brackets belong to them too. -/
def isTextChar (bracketed : Bool) (c : Char) : Bool :=
  isWordChar c || ";/?:@&=+$.%!~*'()".toList.contains c
    || (bracketed && (c = ',' || c = '[' || c = ']'))

def utf8Width (b : Nat) : Nat :=
  if b < 0x80 then 1
  else if b / 32 = 6 then 2
  else if b / 16 = 14 then 3
  else if b / 8 = 30 then 4
  else 0

def escapedByte (directive : Bool) (start : Mark) (p : Place) : Except SyntaxFault (Nat × Place) :=
  match p.rest with
  | '%' :: a :: b :: _ =>
    match hexValue? a, hexValue? b with
    | some a, some b => .ok (a * 16 + b, p.skipBy 3)
    | _, _ => refuse p .tagEscapeExpected (partActivity directive) start
  | _ => refuse p .tagEscapeExpected (partActivity directive) start

def escapedTail (directive : Bool) (start : Mark) : Nat → Place →
    Except SyntaxFault (List Nat × Place)
  | 0, p => .ok ([], p)
  | count + 1, p => do
    let (b, behind) ← escapedByte directive start p
    if b / 64 ≠ 2 then refuse p .tagTrailingByte (partActivity directive) start
    else
      let (rest, behind) ← escapedTail directive start count behind
      return (b :: rest, behind)

def escapedChar (directive : Bool) (start : Mark) (p : Place) :
    Except SyntaxFault (List Nat × Place) := do
  let (b, behind) ← escapedByte directive start p
  if utf8Width b = 0 then refuse p .tagLeadingByte (partActivity directive) start
  else
    let (rest, behind) ← escapedTail directive start (utf8Width b - 1) behind
    return (b :: rest, behind)

def textBytes (bracketed directive : Bool) (start : Mark) : Nat → Place →
    Except SyntaxFault (List Nat × Place)
  | 0, p => .ok ([], p)
  | fuel + 1, p =>
    match p.peek? with
    | none => .ok ([], p)
    | some c =>
      if !isTextChar bracketed c then .ok ([], p)
      else if c = '%' then do
        let (bytes, p) ← escapedChar directive start p
        let (rest, p) ← textBytes bracketed directive start fuel p
        return (bytes ++ rest, p)
      else do
        let (rest, p) ← textBytes bracketed directive start fuel p.skip
        return (c.toNat :: rest, p)

/-- Reads tag text behind a head that was taken for a handle: the head counts without its mark. -/
def text (bracketed directive : Bool) (head : String) (start : Mark) (p : Place) :
    Except SyntaxFault (String × Place) := do
  let (bytes, behind) ← textBytes bracketed directive start (p.rest.length + 1) p
  if head.isEmpty && bytes.isEmpty then
    refuse behind .tagTextExpected (partActivity directive) start
  else
    let decoded := match Utf8.decode (bytes.map UInt8.ofNat) with
      | .ok s => s
      | .error _ => ""
    return (String.ofList (head.toList.drop 1) ++ decoded, behind)

/-- Reads a handle. In a directive it has to end in a mark, unless it is the mark alone. -/
def handle (directive : Bool) (start : Mark) (p : Place) : Except SyntaxFault (String × Place) :=
  if !p.sees '!' then
    refuse p .tagMarkExpected (if directive then .tagDirective else .tag) start
  else
    let (word, p) := p.skip.takeWhile isWordChar
    if p.sees '!' then .ok (String.ofList ('!' :: word ++ ['!']), p.skip)
    else if directive && !word.isEmpty then refuse p .tagMarkExpected .tagDirectiveHandle start
    else .ok (String.ofList ('!' :: word), p)

def isHandle (s : String) : Bool := s.length ≥ 2 && s.toList.getLast? == some '!'

def bracketed (start : Mark) (p : Place) : Except SyntaxFault (String × String × Place) := do
  let (suffix, p) ← text true false "" start (p.skipBy 2)
  if p.sees '>' then return ("", suffix, p.skip)
  else refuse p .tagCloseExpected .tag start

def shorthand (start : Mark) (p : Place) : Except SyntaxFault (String × String × Place) := do
  let (head, p) ← handle false start p
  if isHandle head then
    let (suffix, p) ← text false false "" start p
    return (head, suffix, p)
  else
    let (suffix, p) ← text false false head start p
    if suffix.isEmpty then return ("", "!", p) else return ("!", suffix, p)

def token (inFlow : Bool) (p : Place) : Except SyntaxFault (Token × Place) := do
  let (head, suffix, rest) ←
    if p.seesAt 1 '<' then bracketed p.mark p else shorthand p.mark p
  if (inFlow && rest.sees ',') || rest.seesGap then
    return (⟨.tag head suffix, p.mark, rest.mark⟩, rest)
  else refuse rest .blankOrBreakExpected .tag p.mark

def endsAnchor (c : Char) : Bool := "?:,]\x7d%@`".toList.contains c

def anchor (isAlias : Bool) (p : Place) : Except SyntaxFault (Token × Place) :=
  let (word, rest) := p.skip.takeWhile isWordChar
  if word.isEmpty || !(rest.seesGap || rest.satisfies endsAnchor) then
    refuse rest .wordCharExpected (if isAlias then .alias else .anchor) p.mark
  else
    let name := String.ofList word
    .ok (⟨if isAlias then .alias name else .anchor name, p.mark, rest.mark⟩, rest)

/-- Reads one number of a version, of at most nine digits. -/
def versionNumber (start : Mark) (p : Place) : Except SyntaxFault (Nat × Place) :=
  let digits := p.rest.takeWhile Char.isDigit
  if 9 < digits.length then refuse (p.skipBy 9) .versionTooLong .versionDirective start
  else if digits.isEmpty then refuse p .versionNumberExpected .versionDirective start
  else .ok (digits.foldl (fun n c => n * 10 + (c.toNat - 48)) 0, p.skipBy digits.length)

def versionDirective (start : Mark) (p : Place) : Except SyntaxFault (Token × Place) := do
  let (major, p) ← versionNumber start (p.skipWhile isBlank)
  if !p.sees '.' then refuse p .versionPointExpected .versionDirective start
  else
    let (minor, p) ← versionNumber start p.skip
    return (⟨.versionDirective major minor, start, p.mark⟩, p)

def tagDirective (start : Mark) (p : Place) : Except SyntaxFault (Token × Place) := do
  let (head, p) ← handle true start (p.skipWhile isBlank)
  if !p.seesBlank then refuse p .blankExpected .tagDirective start
  else
    let (full, p) ← text true true "" start (p.skipWhile isBlank)
    if !p.seesGap then refuse p .blankOrBreakExpected .tagDirective start
    else return (⟨.tagDirective head full, start, p.mark⟩, p)

def directive (p : Place) : Except SyntaxFault (Token × Place) := do
  let start := p.mark
  let (name, p) := p.skip.takeWhile isWordChar
  if name.isEmpty then refuse p .directiveNameMissing .directive start
  else if !p.seesGap then refuse p .directiveNameEnd .directive start
  else
    let (token, p) ←
      if name = ['Y', 'A', 'M', 'L'] then versionDirective start p
      else if name = ['T', 'A', 'G'] then tagDirective start p
      else refuse p .unknownDirective .directive start
    let p := (p.skipWhile isBlank).skipComment
    if !p.seesLineEnd then refuse p .commentOrBreakExpected .directive start
    else return (token, p.skipBreak)

end AgentManifest.Yaml.Tag
