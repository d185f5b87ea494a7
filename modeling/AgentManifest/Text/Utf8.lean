/-! Reading bytes as UTF-8 text. A byte sequence that is no text is refused at the first character
that cannot be completed, with the length of the longest prefix that is text. -/

namespace AgentManifest.Utf8

/-- Why a byte sequence is not text: everything before `validUpTo` is, and what follows either can
never begin a character (`badLength` bytes of it) or breaks off inside one. -/
structure Fault where
  validUpTo : Nat
  badLength : Option Nat
  deriving DecidableEq, Repr

def Fault.message (f : Fault) : String :=
  match f.badLength with
  | some n => s!"invalid utf-8 sequence of {n} bytes from index {f.validUpTo}"
  | none => s!"incomplete utf-8 byte sequence from index {f.validUpTo}"

def isContinuation (b : UInt8) : Bool := 0x80 ≤ b && b ≤ 0xBF

/-- The second bytes that may follow the first byte of a longer character, and the number of
continuation bytes after them. -/
def secondByte (first : UInt8) : Option (UInt8 × UInt8 × Nat) :=
  if 0xC2 ≤ first && first ≤ 0xDF then some (0x80, 0xBF, 0)
  else if first == 0xE0 then some (0xA0, 0xBF, 1)
  else if first == 0xED then some (0x80, 0x9F, 1)
  else if 0xE1 ≤ first && first ≤ 0xEF then some (0x80, 0xBF, 1)
  else if first == 0xF0 then some (0x90, 0xBF, 2)
  else if first == 0xF4 then some (0x80, 0x8F, 2)
  else if 0xF1 ≤ first && first ≤ 0xF3 then some (0x80, 0xBF, 2)
  else none

/-- The payload bits of a first byte whose character has `more` bytes behind the second. -/
def firstBits (first : UInt8) (more : Nat) : Nat :=
  match more with
  | 0 => first.toNat % 32
  | 1 => first.toNat % 16
  | _ => first.toNat % 8

inductive State where
  | start
  | second (low high : UInt8) (more value : Nat)
  /-- Behind `seen` bytes of a character, with `more` after the next one. -/
  | tail (seen more value : Nat)

/-- Reads on from a state, with the number of bytes in front of the current character. -/
def decodeFrom : State → Nat → List Char → List UInt8 → Except Fault (List Char)
  | .start, _, read, [] => .ok read.reverse
  | .second .., before, _, [] => .error ⟨before, none⟩
  | .tail .., before, _, [] => .error ⟨before, none⟩
  | .start, before, read, b :: rest =>
    if b < 0x80 then decodeFrom .start (before + 1) (Char.ofNat b.toNat :: read) rest
    else match secondByte b with
      | some (low, high, more) =>
        decodeFrom (.second low high more (firstBits b more)) before read rest
      | none => .error ⟨before, some 1⟩
  | .second low high more value, before, read, b :: rest =>
    if low ≤ b && b ≤ high then
      let value := value * 64 + b.toNat % 64
      match more with
      | 0 => decodeFrom .start (before + 2) (Char.ofNat value :: read) rest
      | more + 1 => decodeFrom (.tail 2 more value) before read rest
    else .error ⟨before, some 1⟩
  | .tail seen more value, before, read, b :: rest =>
    if isContinuation b then
      let value := value * 64 + b.toNat % 64
      match more with
      | 0 => decodeFrom .start (before + seen + 1) (Char.ofNat value :: read) rest
      | more + 1 => decodeFrom (.tail (seen + 1) more value) before read rest
    else .error ⟨before, some seen⟩

def decode (bytes : List UInt8) : Except Fault String :=
  (decodeFrom .start 0 [] bytes).map String.ofList

end AgentManifest.Utf8
