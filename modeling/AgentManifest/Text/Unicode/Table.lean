import AgentManifest.Text.Split

/-! Tables of character properties in a written form. A table is a list of lines, a line a list of
entries between blanks. An entry names a code point or a range of them in base sixteen, and may add
a mark with something behind it. -/

namespace AgentManifest.Unicode

def digitValue? (c : Char) : Option Nat :=
  if '0' ≤ c ∧ c ≤ '9' then some (c.toNat - 48)
  else if 'a' ≤ c ∧ c ≤ 'f' then some (c.toNat - 87)
  else none

def number : Nat → List Char → Nat × List Char
  | n, [] => (n, [])
  | n, c :: rest =>
    match digitValue? c with
    | some d => number (n * 16 + d) rest
    | none => (n, c :: rest)

def numbers (text : List Char) : List Nat := (Text.splitAt '+' text).map fun part => (number 0 part).1

/-- Code points from a first to a last one, all of them or every second one. -/
structure Entry where
  first : Nat
  last : Nat
  step : Nat
  content : List Char

namespace Entry

def ofText (text : List Char) : Entry :=
  let (first, rest) := number 0 text
  match rest with
  | '-' :: more =>
    let (last, content) := number 0 more
    ⟨first, last, 1, content⟩
  | '/' :: more =>
    let (last, content) := number 0 more
    ⟨first, last, 2, content⟩
  | content => ⟨first, first, 1, content⟩

def covers (e : Entry) (codePoint : Nat) : Bool :=
  e.first ≤ codePoint && codePoint ≤ e.last && (codePoint - e.first) % e.step == 0

end Entry

abbrev Table := List Entry

namespace Table

def ofLines (lines : List String) : Table :=
  lines.flatMap fun line => (Text.splitAt ' ' line.toList).map Entry.ofText

def find? (t : Table) (c : Char) : Option Entry := List.find? (·.covers c.toNat) t

def contains (t : Table) (c : Char) : Bool := (t.find? c).isSome

end Table
end AgentManifest.Unicode
