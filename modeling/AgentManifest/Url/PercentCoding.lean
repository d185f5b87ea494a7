/-! Percent-encoding. A character that may not stand as such is written as the bytes of its UTF-8
form, each as `%` and two hexadecimal digits; which characters may stand depends on the part of an
address. -/

namespace AgentManifest.Url

def upperHexDigit (n : Nat) : Char := if n < 10 then Char.ofNat (48 + n) else Char.ofNat (55 + n)

def encodeByte (b : UInt8) : List Char :=
  ['%', upperHexDigit (b.toNat / 16), upperHexDigit (b.toNat % 16)]

def percentEncode (escapes : Char → Bool) (text : List Char) : List Char :=
  text.flatMap fun c => if escapes c then (String.utf8EncodeChar c).flatMap encodeByte else [c]

def hexValue? (c : Char) : Option Nat :=
  if '0' ≤ c ∧ c ≤ '9' then some (c.toNat - 48)
  else if 'a' ≤ c ∧ c ≤ 'f' then some (c.toNat - 87)
  else if 'A' ≤ c ∧ c ≤ 'F' then some (c.toNat - 55)
  else none

/-- The bytes that a text stands for. A `%` without two digits stands for itself. -/
def percentDecode : List Char → List UInt8
  | [] => []
  | '%' :: a :: b :: rest =>
    match hexValue? a, hexValue? b with
    | some x, some y => UInt8.ofNat (x * 16 + y) :: percentDecode rest
    | _, _ => String.utf8EncodeChar '%' ++ percentDecode (a :: b :: rest)
  | c :: rest => String.utf8EncodeChar c ++ percentDecode rest

def controlEscapes (c : Char) : Bool := c.toNat < 32 || 127 ≤ c.toNat

def fragmentEscapes (c : Char) : Bool :=
  controlEscapes c || c ∈ [' ', '"', '<', '>', '\u0060']

def pathEscapes (c : Char) : Bool := fragmentEscapes c || c ∈ ['#', '?', '{', '}']

/-- Inside one segment the separators of segments are escaped too, and `%` itself. -/
def segmentEscapes (c : Char) : Bool := pathEscapes c || c ∈ ['/', '\\', '%']

def credentialEscapes (c : Char) : Bool :=
  pathEscapes c || c ∈ ['/', ':', ';', '=', '@', '[', '\\', ']', '^', '|']

def queryEscapes (c : Char) : Bool :=
  controlEscapes c || c ∈ [' ', '"', '#', '<', '>', '\'']

end AgentManifest.Url
