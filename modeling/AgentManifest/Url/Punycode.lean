/-! Punycode: a text as ASCII letters, digits and hyphens. The ASCII characters come first; behind
the last hyphen, numbers say at which places the other characters stand in, in ascending order of
their code points. Numbers are written in base 36 with a bias that adapts to the numbers seen. -/

namespace AgentManifest.Url.Punycode

def digitChar (d : Nat) : Char := if d < 26 then Char.ofNat (97 + d) else Char.ofNat (22 + d)

def digitValue? (c : Char) : Option Nat :=
  if 'a' ≤ c ∧ c ≤ 'z' then some (c.toNat - 97)
  else if 'A' ≤ c ∧ c ≤ 'Z' then some (c.toNat - 65)
  else if '0' ≤ c ∧ c ≤ '9' then some (c.toNat - 22)
  else none

def threshold (bias place : Nat) : Nat :=
  if place ≤ bias + 1 then 1 else if bias + 26 ≤ place then 26 else place - bias

theorem one_le_threshold (bias place : Nat) : 1 ≤ threshold bias place := by
  unfold threshold
  split
  · exact Nat.le_refl 1
  · split <;> omega

theorem threshold_le (bias place : Nat) : threshold bias place ≤ 26 := by
  unfold threshold
  split
  · omega
  · split <;> omega

/-- How often a number is divided by 35 until it is at most 455, and what is left of it. -/
def scaleDown (delta : Nat) : Nat × Nat :=
  if 455 < delta then
    let (steps, left) := scaleDown (delta / 35)
    (steps + 1, left)
  else (0, delta)
termination_by delta
decreasing_by exact Nat.div_lt_self (by omega) (by omega)

def adapt (delta count : Nat) (first : Bool) : Nat :=
  let delta := if first then delta / 700 else delta / 2
  let (steps, left) := scaleDown (delta + delta / count)
  36 * steps + 36 * left / (left + 38)

def numberDigits (bias place n : Nat) : List Char :=
  let t := threshold bias place
  if n < t then [digitChar n]
  else digitChar (t + (n - t) % (36 - t)) :: numberDigits bias (place + 36) ((n - t) / (36 - t))
termination_by n
decreasing_by
  have low := one_le_threshold bias place
  have high := threshold_le bias place
  calc (n - threshold bias place) / (36 - threshold bias place)
      ≤ n - threshold bias place := Nat.div_le_self _ _
    _ < n := by omega

/-- Where writing stands: the digits so far, the number to write next, the bias, and how many
characters the text has up to now. -/
structure Writing where
  written : List Char
  delta : Nat
  bias : Nat
  count : Nat

def Writing.step (basic codePoint : Nat) (w : Writing) (c : Char) : Writing :=
  if c.toNat < codePoint then { w with delta := w.delta + 1 }
  else if c.toNat = codePoint then
    { written := w.written ++ numberDigits w.bias 36 w.delta
      delta := 0
      bias := adapt w.delta (w.count + 1) (w.count = basic)
      count := w.count + 1 }
  else w

def Writing.all (text : List Char) (basic : Nat) : Nat → List Nat → Writing → Writing
  | _, [], w => w
  | least, codePoint :: rest, w =>
    let w := { w with delta := w.delta + (codePoint - least) * (w.count + 1) }
    let w := text.foldl (Writing.step basic codePoint) w
    Writing.all text basic (codePoint + 1) rest { w with delta := w.delta + 1 }

def insertOnce (n : Nat) : List Nat → List Nat
  | [] => [n]
  | m :: rest => if n < m then n :: m :: rest else if n = m then m :: rest else m :: insertOnce n rest

def encode (text : List Char) : List Char :=
  let basic := text.filter fun c => c.toNat < 128
  let others := ((text.filter fun c => 128 ≤ c.toNat).map Char.toNat).foldr insertOnce []
  let w := Writing.all text basic.length 128 others ⟨[], 0, 72, basic.length⟩
  (if basic = [] then [] else basic ++ ['-']) ++ w.written

def greatest : Nat := 0xFFFFFFFF

/-- The number in front, added to a start, with what follows it. -/
def number? (bias : Nat) : Nat → Nat → Nat → List Char → Option (Nat × List Char)
  | _, _, _, [] => none
  | place, weight, sum, c :: rest => do
    let d ← digitValue? c
    let sum := sum + d * weight
    if greatest < sum then none
    else
      let t := threshold bias place
      if d < t then some (sum, rest)
      else if greatest < weight * (36 - t) then none
      else number? bias (place + 36) (weight * (36 - t)) sum rest

def insertAt (c : Char) : Nat → List Char → List Char
  | 0, text => c :: text
  | _ + 1, [] => [c]
  | n + 1, d :: rest => d :: insertAt c n rest

/-- Reads on with the text so far, the last code point, the last place and the bias. Each number
takes at least one character, which bounds the number of steps. -/
def decodeFrom : Nat → List Char → Nat → Nat → Nat → List Char → Option (List Char)
  | _, text, _, _, _, [] => some text
  | 0, _, _, _, _, _ :: _ => none
  | fuel + 1, text, codePoint, place, bias, rest => do
    let (sum, rest) ← number? bias 36 1 place rest
    let count := text.length + 1
    let codePoint := codePoint + sum / count
    if codePoint.isValidChar then
      let bias := adapt (sum - place) count (place = 0)
      decodeFrom fuel (insertAt (Char.ofNat codePoint) (sum % count) text) codePoint
        (sum % count + 1) bias rest
    else none

/-- The text that was written, in ASCII. A hyphen in front separates nothing. -/
def decode (coded : List Char) : Option (List Char) :=
  let tail := (coded.reverse.takeWhile (· ≠ '-')).reverse
  match (coded.reverse.dropWhile (· ≠ '-')).reverse with
  | [] => decodeFrom tail.length [] 128 0 72 tail
  | ['-'] => none
  | lead =>
    if lead.all (·.toNat < 128) then decodeFrom tail.length lead.dropLast 128 0 72 tail else none

end AgentManifest.Url.Punycode
