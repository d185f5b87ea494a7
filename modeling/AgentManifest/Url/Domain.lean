import AgentManifest.Text.Unicode.Normalization
import AgentManifest.Text.Utf8
import AgentManifest.Url.Domain.DirectionTable
import AgentManifest.Url.Domain.MappingTable
import AgentManifest.Url.Punycode

/-! Domain names of any script as ASCII names. Characters are mapped to the form that names are
compared in, each label has to be one that may be registered, and labels beyond ASCII are written in
Punycode behind `xn--`. -/

namespace AgentManifest.Url.Domain

open Unicode

def disallowed : Table := Table.ofLines disallowedLines

def ignored : Table := Table.ofLines ignoredLines

def mapped : Table := Table.ofLines mappedLines

def directions : Table := Table.ofLines directionLines

def joinings : Table := Table.ofLines joiningLines

def mapChar? (c : Char) : Option (List Char) :=
  if c.toNat < 128 then some [c.toLower]
  else if ignored.contains c then some []
  else if disallowed.contains c then none
  else match mapped.find? c with
    | none => some [c]
    | some entry =>
      match numbers (entry.content.drop 1) with
      | [target] => some [Char.ofNat (target + (c.toNat - entry.first))]
      | targets => some (targets.map Char.ofNat)

def canonical? (name : List Char) : Option (List Char) := do
  return normalize (← name.mapM mapChar?).flatten

def isForbidden (c : Char) : Bool :=
  c.toNat ≤ 32 || c.toNat = 127
    || c ∈ ['%', '#', '/', ':', '<', '>', '?', '@', '[', '\\', ']', '^', '|']

def joining (c : Char) : Option Char :=
  match joinings.find? c with
  | some entry => entry.content[1]?
  | none => none

def joinsTo (sides : List Char) (text : List Char) : Bool :=
  match (text.dropWhile fun c => joining c = some 'T').head? with
  | some c => (joining c).any (· ∈ sides)
  | none => false

/-- Whether joiners stand where they make a difference: behind a virama, or, for the one that parts
letters, between letters that would join. `before` is what precedes, backwards. -/
def joinersFit (before : List Char) : List Char → Bool
  | [] => true
  | c :: rest =>
    (if c = '\u200c' ∨ c = '\u200d' then
      (before.head?.map combiningClass).getD 0 = 9
        || (c = '\u200c' && joinsTo ['L', 'D'] before && joinsTo ['R', 'D'] rest)
    else true) && joinersFit (c :: before) rest

def direction (c : Char) : String :=
  match directions.find? c with
  | some entry => String.ofList (entry.content.drop 1)
  | none => "L"

def isRightToLeft (label : List Char) : Bool :=
  label.any fun c => direction c ∈ ["R", "AL", "AN"]

def lastDirection (label : List Char) : String :=
  ((label.reverse.map direction).find? (· ≠ "NSM")).getD ""

def directionFits (label : List Char) : Bool :=
  let found := label.map direction
  match found with
  | [] => true
  | first :: _ =>
    if first = "L" then
      found.all (· ∈ ["L", "EN", "ES", "CS", "ET", "ON", "BN", "NSM"])
        && lastDirection label ∈ ["L", "EN"]
    else if first = "R" ∨ first = "AL" then
      found.all (· ∈ ["R", "AL", "AN", "EN", "ES", "CS", "ET", "ON", "BN", "NSM"])
        && lastDirection label ∈ ["R", "AL", "EN", "AN"]
        && !("EN" ∈ found && "AN" ∈ found)
    else false

/-- A label: as it is read, and whether it was written in Punycode. -/
structure Label where
  text : List Char
  coded : Bool
  deriving DecidableEq, Repr

def isValid (label : List Char) : Bool :=
  label.all (fun c => !isForbidden c) && (label.head?.all fun c => !isMark c) && joinersFit [] label

/-- The label of a canonical text. One in Punycode has to stand for canonical text beyond ASCII. -/
def label? (text : List Char) : Option Label :=
  match text with
  | 'x' :: 'n' :: '-' :: '-' :: coded =>
    match Punycode.decode coded with
    | some decoded =>
      if decoded.any (128 ≤ ·.toNat) && canonical? decoded = some decoded && isValid decoded then
        some ⟨decoded, true⟩
      else none
    | none => none
  | text => if isValid text then some ⟨text, false⟩ else none

def labelText (label : Label) : List Char :=
  if label.text.all (·.toNat < 128) then label.text
  else ['x', 'n', '-', '-'] ++ Punycode.encode label.text

def toAscii? (bytes : List UInt8) : Option (List Char) := do
  let name ← (Utf8.decode bytes).toOption
  let labels ← (Text.splitAt '.' (← canonical? name.toList)).mapM label?
  if labels.any (isRightToLeft ·.text) && !labels.all (directionFits ·.text) then none
  else some (Text.joinWith '.' (labels.map labelText))

end AgentManifest.Url.Domain
