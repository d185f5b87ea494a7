import AgentManifest.Text.Blank
import AgentManifest.Text.Split
import AgentManifest.Url.PercentCoding

/-! Paths of web addresses, as their segments in encoded form. A segment of one dot names the place
reached, one of two dots the place before; neither is kept. -/

namespace AgentManifest.Url

structure Path where
  segments : List (List Char)
  deriving DecidableEq, Repr

namespace Path

def root : Path := ⟨[[]]⟩

def text (p : Path) : List Char := '/' :: Text.joinWith '/' p.segments

def isSingleDot (segment : List Char) : Bool :=
  String.ofList (Text.foldCase segment) ∈ [".", "%2e"]

def isDoubleDot (segment : List Char) : Bool :=
  String.ofList (Text.foldCase segment) ∈ ["..", ".%2e", "%2e.", "%2e%2e"]

/-- A letter and a colon or a bar, as names of drives are written. Such a segment stays. -/
def isDrive : List Char → Bool
  | [letter, mark] => letter.isAlpha && (mark = ':' || mark = '|')
  | _ => false

def shorten (segments : List (List Char)) : List (List Char) :=
  if segments.getLast?.any isDrive then segments else segments.dropLast

def enter (before : List (List Char)) (segment : List Char) : List (List Char) :=
  if isDoubleDot segment then shorten before
  else if isSingleDot segment then before
  else before ++ [segment]

def finish (before : List (List Char)) (segment : List Char) : Path :=
  if isDoubleDot segment then ⟨shorten before ++ [[]]⟩
  else if isSingleDot segment then ⟨before ++ [[]]⟩
  else ⟨before ++ [segment]⟩

def ofPieces (before : List (List Char)) : List (List Char) → Path
  | [] => finish before []
  | [last] => finish before last
  | piece :: next :: rest => ofPieces (enter before piece) (next :: rest)

/-- The path that a text writes behind its first slash; a backslash is a slash. -/
def ofText (text : List Char) : Path :=
  let slashed := text.map fun c => if c = '\\' then '/' else c
  ofPieces [] ((Text.splitAt '/' slashed).map (percentEncode pathEscapes))

def popIfEmpty (p : Path) : Path :=
  match p.segments.reverse with
  | [] :: before :: rest => ⟨(before :: rest).reverse⟩
  | _ => p

def isDropped (c : Char) : Bool := c = '\t' || c = '\n' || c = '\r'

/-- Adds a segment that stands for a text. Dots are passed over; the root path has nothing to be
kept in front. -/
def append (p : Path) (text : List Char) : Path :=
  if text = ['.'] ∨ text = ['.', '.'] then p
  else
    let before := if p = root then [] else p.segments
    finish before (percentEncode segmentEscapes (text.filter fun c => !isDropped c))

end Path
end AgentManifest.Url
