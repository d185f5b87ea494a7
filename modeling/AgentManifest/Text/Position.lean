/-! Lines and columns of byte offsets. Both count from one; a line feed belongs to the line it
ends. -/

namespace AgentManifest

structure Position where
  line : Nat
  column : Nat
  deriving DecidableEq, Repr

namespace Position

/-- Where a byte stands last. -/
def lastIndexOf? (b : UInt8) (bytes : List UInt8) : Option Nat :=
  (bytes.reverse.idxOf? b).map (bytes.length - 1 - ·)

/-- The place of an offset: one line more than line feeds in front of it, and the columns from the
last of these. Offsets beyond the end are places in the last line. -/
def ofOffset (bytes : List UInt8) (offset : Nat) : Position where
  line := (bytes.take offset).count 10 + 1
  column := match lastIndexOf? 10 (bytes.take offset) with
    | some lineFeed => offset - lineFeed
    | none => offset + 1

end Position
end AgentManifest
