import AgentManifest.Text.Split
import AgentManifest.Url.PercentCoding

/-! IPv4 addresses as hosts. They may have fewer than four parts, the last of which fills the rest,
and parts may be written in base eight or sixteen. They are written back with four decimal parts. -/

namespace AgentManifest.Url.Ipv4

def numberIn? (base : Nat) (digits : List Char) : Option Nat :=
  digits.foldl (fun n c => do
    let d ← hexValue? c
    if d < base then return (← n) * base + d else none) (some 0)

/-- The number of a part. A leading `0x` or `0` sets the base; nothing behind it is zero. -/
def part? : List Char → Option Nat
  | [] => none
  | '0' :: 'x' :: digits | '0' :: 'X' :: digits => numberIn? 16 digits
  | '0' :: c :: digits => numberIn? 8 (c :: digits)
  | digits => numberIn? 10 digits

/-- The parts of a name, of which an empty last one does not count. -/
def parts (name : List Char) : List (List Char) :=
  match (Text.splitAt '.' name).reverse with
  | [] :: rest => rest.reverse
  | pieces => pieces.reverse

/-- Whether a name has to be read as an address, because its last part is a number. -/
def isMeant (name : List Char) : Bool :=
  match (Text.splitAt '.' name).reverse with
  | [] :: last :: _ | last :: _ =>
    (last ≠ [] && last.all Char.isDigit) || (part? last).isSome
  | [] => false

def ofNumbers? (numbers : List Nat) : Option Nat :=
  match numbers.reverse with
  | [] => none
  | last :: before =>
    if last < Nat.pow 256 (4 - before.length) ∧ before.all (· < 256) ∧ before.length < 4 then
      let lead := before.reverse.foldl (fun n b => n * 256 + b) 0
      some (lead * Nat.pow 256 (4 - before.length) + last)
    else none

def parse? (name : List Char) : Option Nat := do
  let numbers ← (parts name).mapM part?
  if numbers.all (· < 0x100000000) then ofNumbers? numbers else none

def text (address : Nat) : List Char :=
  let byte (place : Nat) : List Char := (toString (address / Nat.pow 256 place % 256)).toList
  Text.joinWith '.' [byte 3, byte 2, byte 1, byte 0]

end AgentManifest.Url.Ipv4
