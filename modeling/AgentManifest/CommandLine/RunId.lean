/-! Names of runs: sixteen bytes in base sixteen, in groups, marked as drawn at random. -/

namespace AgentManifest.RunId

def hexDigit (n : Nat) : Char :=
  if n < 10 then Char.ofNat (48 + n) else Char.ofNat (87 + n)

def byteText (b : UInt8) : List Char := [hexDigit (b.toNat / 16), hexDigit (b.toNat % 16)]

def marked (index : Nat) (b : UInt8) : UInt8 :=
  if index = 6 then b % 16 + 0x40 else if index = 8 then b % 64 + 0x80 else b

def startsGroup (index : Nat) : Bool := index = 4 || index = 6 || index = 8 || index = 10

def ofBytes (bytes : List UInt8) : String :=
  String.ofList (bytes.zipIdx.flatMap fun (b, index) =>
    (if startsGroup index then ['-'] else []) ++ byteText (marked index b))

end AgentManifest.RunId
