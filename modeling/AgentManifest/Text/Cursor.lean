/-! A place inside a text that is being read: what is left of it, and how many bytes lie before. -/

namespace AgentManifest

structure Cursor where
  rest : List Char
  offset : Nat
  deriving DecidableEq, Repr

namespace Cursor

def ofString (text : String) : Cursor := ⟨text.toList, 0⟩

def next (c : Cursor) : Cursor :=
  match c.rest with
  | [] => c
  | ch :: rest => ⟨rest, c.offset + ch.utf8Size⟩

def peek? (c : Cursor) : Option Char := c.rest.head?

def skipWhile (p : Char → Bool) (c : Cursor) : Cursor :=
  go c.rest c.offset
where
  go : List Char → Nat → Cursor
    | [], offset => ⟨[], offset⟩
    | ch :: rest, offset => if p ch then go rest (offset + ch.utf8Size) else ⟨ch :: rest, offset⟩

def remaining (c : Cursor) : Nat := c.rest.foldr (fun ch n => ch.utf8Size + n) 0

def endOffset (c : Cursor) : Nat := c.offset + c.remaining

end Cursor
end AgentManifest
