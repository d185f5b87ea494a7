import AgentManifest.Text.Unicode.DecompositionTable
import AgentManifest.Text.Unicode.MarkTable
import AgentManifest.Text.Unicode.Table

/-! The composed normal form of a text (NFC): characters are taken apart, marks behind one character
are put in the order of their combining classes, and what makes up one character is put together
again. -/

namespace AgentManifest.Unicode

def combiningClasses : Table := Table.ofLines combiningClassLines

def marks : Table := Table.ofLines markLines

def decompositions : Table := Table.ofLines decompositionLines

/-- The canonical combining class of a character; most have zero. -/
def combiningClass (c : Char) : Nat :=
  match combiningClasses.find? c with
  | some entry => (number 0 (entry.content.drop 1)).1
  | none => 0

def isMark (c : Char) : Bool := marks.contains c

def syllableBase : Nat := 0xAC00

def leadBase : Nat := 0x1100

def vowelBase : Nat := 0x1161

def tailBase : Nat := 0x11A7

def syllableParts? (c : Char) : Option (List Char) :=
  let n := c.toNat
  if syllableBase ≤ n ∧ n < syllableBase + 11172 then
    let i := n - syllableBase
    let lead := Char.ofNat (leadBase + i / 588)
    let vowel := Char.ofNat (vowelBase + i % 588 / 28)
    some (if i % 28 = 0 then [lead, vowel] else [lead, vowel, Char.ofNat (tailBase + i % 28)])
  else none

def syllable? (a b : Char) : Option Char :=
  let a := a.toNat
  let b := b.toNat
  if leadBase ≤ a ∧ a < leadBase + 19 ∧ vowelBase ≤ b ∧ b < vowelBase + 21 then
    some (Char.ofNat (syllableBase + ((a - leadBase) * 21 + (b - vowelBase)) * 28))
  else if syllableBase ≤ a ∧ a < syllableBase + 11172 ∧ (a - syllableBase) % 28 = 0
      ∧ tailBase < b ∧ b < tailBase + 28 then
    some (Char.ofNat (a + (b - tailBase)))
  else none

/-- The parts of a character, taken apart again at most so many times. -/
def parts : Nat → Char → List Char
  | 0, c => [c]
  | times + 1, c =>
    match decompositions.find? c with
    | some entry => (numbers (entry.content.drop 1)).flatMap fun n => parts times (Char.ofNat n)
    | none => [c]

/-- The parts of a character, none of which has parts. -/
def decomposeChar (c : Char) : List Char := (syllableParts? c).getD (parts 4 c)

/-- Puts a character behind a text written backwards, in front of marks of a higher class. -/
def placeMark (c : Char) : List Char → List Char
  | [] => [c]
  | d :: before =>
    if 0 < combiningClass c ∧ combiningClass c < combiningClass d then d :: placeMark c before
    else c :: d :: before

def decompose (text : List Char) : List Char :=
  ((text.flatMap decomposeChar).foldl (fun before c => placeMark c before) []).reverse

def compose? (a b : Char) : Option Char :=
  match syllable? a b with
  | some c => some c
  | none =>
    let entry? := List.find? (fun entry : Entry => entry.content.head? = some '='
      && numbers (entry.content.drop 1) = [a.toNat, b.toNat]) decompositions
    entry?.map fun entry => Char.ofNat entry.first

/-- Puts together what follows a character; `between` holds the marks that stayed, backwards. -/
def composeFrom (starter : Char) (between : List Char) : List Char → List Char
  | [] => starter :: between.reverse
  | c :: rest =>
    let free := match between with
      | [] => true
      | last :: _ => combiningClass last < combiningClass c
    match if free then compose? starter c else none with
    | some composed => composeFrom composed between rest
    | none =>
      if combiningClass c = 0 then starter :: (between.reverse ++ composeFrom c [] rest)
      else composeFrom starter (c :: between) rest

def compose : List Char → List Char
  | [] => []
  | c :: rest => if combiningClass c = 0 then composeFrom c [] rest else c :: compose rest

/-- The composed normal form; a text of ASCII characters is its own. -/
def normalize (text : List Char) : List Char :=
  if text.all (·.toNat < 128) then text else compose (decompose text)

end AgentManifest.Unicode
