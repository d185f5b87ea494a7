import AgentManifest.Decimal.Binary64

/-! Decimal numbers as written: an optional sign, digits with an optional point among, before or
behind them, and an optional exponent. -/

namespace AgentManifest

/-- The number `digits * 10 ^ exponent` with a sign. -/
structure DecimalLiteral where
  negative : Bool
  digits : Nat
  exponent : Int
  deriving DecidableEq, Repr

namespace DecimalLiteral

def natOfDigits (cs : List Char) : Nat := cs.foldl (fun n c => n * 10 + (c.toNat - 48)) 0

def splitSign : List Char → Bool × List Char
  | '-' :: rest => (true, rest)
  | '+' :: rest => (false, rest)
  | cs => (false, cs)

def exponent? (cs : List Char) : Option Int :=
  let (negative, digits) := splitSign cs
  if digits.isEmpty || !digits.all Char.isDigit then none
  else
    let n := natOfDigits digits
    some (if negative then -n else n)

def ofChars? (cs : List Char) : Option DecimalLiteral := do
  let (negative, cs) := splitSign cs
  let whole := cs.takeWhile Char.isDigit
  let rest := cs.dropWhile Char.isDigit
  let (fraction, rest) := match rest with
    | '.' :: rest => (rest.takeWhile Char.isDigit, rest.dropWhile Char.isDigit)
    | _ => ([], rest)
  if whole.isEmpty && fraction.isEmpty then none
  else
    let exponent ← match rest with
      | [] => some 0
      | 'e' :: rest => exponent? rest
      | 'E' :: rest => exponent? rest
      | _ => none
    return ⟨negative, natOfDigits (whole ++ fraction), exponent - fraction.length⟩

def ofString? (s : String) : Option DecimalLiteral := ofChars? s.toList

def toBinary64? (l : DecimalLiteral) : Option Binary64 :=
  Binary64.ofDecimal? l.negative l.digits l.exponent

end DecimalLiteral
end AgentManifest
