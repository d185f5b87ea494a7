import AgentManifest.Decimal.Shortest

/-! How a number is written. `DecimalNotation` names the choices a format makes; `document` is the
form that value trees use and `message` the form that sentences use. -/

namespace AgentManifest

structure DecimalNotation where
  tie : TieRule
  keepsPoint : Bool
  /-- The powers of ten of the leading digit that are written without an exponent; none means all. -/
  positional : Option (Int × Int)

namespace DecimalNotation

/-- Value trees: whole numbers keep a point, and an exponent stands outside `1e-5` to `1e16`. -/
def document : DecimalNotation := ⟨.toEven, true, some (-5, 15)⟩

/-- Sentences: no exponent, and whole numbers are written as such. -/
def message : DecimalNotation := ⟨.away, false, none⟩

def positionalText (keepsPoint : Bool) (digits : List Char) (exponent : Int) : List Char :=
  if 0 ≤ exponent then
    digits ++ List.replicate exponent.toNat '0' ++ (if keepsPoint then ['.', '0'] else [])
  else
    let places := (-exponent).toNat
    if places < digits.length then
      digits.take (digits.length - places) ++ '.' :: digits.drop (digits.length - places)
    else '0' :: '.' :: (List.replicate (places - digits.length) '0' ++ digits)

/-- One digit before the point, the rest behind it, and a signed exponent. -/
def exponentText (digits : List Char) (leading : Int) : List Char :=
  let fraction := digits.drop 1
  digits.take 1 ++ (if fraction.isEmpty then [] else '.' :: fraction)
    ++ 'e' :: (if leading < 0 then '-' else '+') :: (toString leading.natAbs).toList

def write (n : DecimalNotation) (x : Binary64) : String :=
  let decimal := x.shortest n.tie
  let digits := (toString decimal.digits).toList
  let leading : Int := (digits.length : Int) - 1 + decimal.exponent
  let body := match n.positional with
    | some (least, greatest) =>
      if least ≤ leading ∧ leading ≤ greatest then
        positionalText n.keepsPoint digits decimal.exponent
      else exponentText digits leading
    | none => positionalText n.keepsPoint digits decimal.exponent
  String.ofList (if x.negative then '-' :: body else body)

end DecimalNotation
end AgentManifest
