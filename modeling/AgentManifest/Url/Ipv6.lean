import AgentManifest.Text.Split
import AgentManifest.Url.PercentCoding

/-! IPv6 addresses: eight pieces of sixteen bits, of which one run of zeros may be left out and the
last two may be written as an IPv4 address. Written back, the longest run of at least two zeros is
left out, the first of several. -/

namespace AgentManifest.Url.Ipv6

/-- What has been read of an address: pieces before the run left out, and those behind it. -/
structure Pieces where
  before : List Nat
  behind : Option (List Nat)
  deriving DecidableEq, Repr

namespace Pieces

def empty : Pieces := ⟨[], none⟩

def count (p : Pieces) : Nat := p.before.length + (p.behind.getD []).length

def push (p : Pieces) (piece : Nat) : Pieces :=
  match p.behind with
  | none => { p with before := p.before ++ [piece] }
  | some pieces => { p with behind := some (pieces ++ [piece]) }

def compress? (p : Pieces) : Option Pieces :=
  match p.behind with
  | none => some { p with behind := some [] }
  | some _ => none

/-- All eight pieces. A mark for zeros stands for at least one. -/
def complete? (p : Pieces) : Option (List Nat) :=
  match p.behind with
  | none => if p.before.length = 8 then some p.before else none
  | some pieces =>
    let known := p.before.length + pieces.length
    if known < 8 then some (p.before ++ List.replicate (8 - known) 0 ++ pieces) else none

end Pieces

def hexPiece : Nat → Nat → Nat → List Char → Nat × Nat × List Char
  | 0, value, count, rest => (value, count, rest)
  | _ + 1, value, count, [] => (value, count, [])
  | left + 1, value, count, c :: rest =>
    match hexValue? c with
    | some d => hexPiece left (value * 16 + d) (count + 1) rest
    | none => (value, count, c :: rest)

def byte? (digits : List Char) : Option Nat :=
  match digits with
  | [] => none
  | ['0'] => some 0
  | '0' :: _ => none
  | digits =>
    if digits.all Char.isDigit && digits.length ≤ 3 then
      let n := digits.foldl (fun n c => n * 10 + (c.toNat - 48)) 0
      if n ≤ 255 then some n else none
    else none

def ipv4Pieces? (text : List Char) : Option (Nat × Nat) :=
  match Text.splitAt '.' text with
  | [a, b, c, d] => do return ((← byte? a) * 256 + (← byte? b), (← byte? c) * 256 + (← byte? d))
  | _ => none

/-- Reads pieces; `fuel` exceeds the number of characters left. -/
def readPieces : Nat → Pieces → List Char → Option Pieces
  | 0, _, _ => none
  | _ + 1, p, [] => some p
  | fuel + 1, p, text@(c :: rest) =>
    if p.count + (if p.behind.isSome then 1 else 0) = 8 then none
    else if c = ':' then do readPieces fuel (← p.compress?) rest
    else
      match hexPiece 4 0 0 text with
      | (value, _, []) => some (p.push value)
      | (_, count, '.' :: _) =>
        if count = 0 then none
        else if 6 < p.count + (if p.behind.isSome then 1 else 0) then none
        else do
          let (high, low) ← ipv4Pieces? text
          return (p.push high).push low
      | (value, _, ':' :: next) => if next = [] then none else readPieces fuel (p.push value) next
      | _ => none

def parse? (text : List Char) : Option (List Nat) :=
  match text with
  | ':' :: ':' :: rest => do (← readPieces (rest.length + 1) ⟨[], some []⟩ rest).complete?
  | ':' :: _ | [] | [_] => none
  | text => do (← readPieces (text.length + 1) .empty text).complete?

def zeros (pieces : List Nat) : Nat := (pieces.takeWhile (· = 0)).length

def longestZeros : List Nat → Nat
  | [] => 0
  | piece :: rest => max (zeros (piece :: rest)) (longestZeros rest)

def pieceText (piece : Nat) : List Char := Nat.toDigits 16 piece

def piecesText (pieces : List Nat) : List Char := Text.joinWith ':' (pieces.map pieceText)

/-- The pieces before the first run of so many zeros, and those behind it. -/
def cutAt (run : Nat) : List Nat → List Nat × List Nat
  | [] => ([], [])
  | piece :: rest =>
    if run ≤ zeros (piece :: rest) then ([], (piece :: rest).drop run)
    else
      let (before, behind) := cutAt run rest
      (piece :: before, behind)

def text (pieces : List Nat) : List Char :=
  let run := longestZeros pieces
  if run < 2 then piecesText pieces
  else
    let (before, behind) := cutAt run pieces
    piecesText before ++ ':' :: ':' :: piecesText behind

end AgentManifest.Url.Ipv6
