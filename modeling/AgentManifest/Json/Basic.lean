import AgentManifest.Decimal.Binary64
import AgentManifest.Keyed

/-! Value trees. An object is a list of members; in a canonical tree the keys ascend strictly by
code point, which is the order of their UTF-8 bytes, and `canonical` puts a tree into that form.
Equality of trees compares numbers as they are stored: an integer never equals a binary64 number. -/

namespace AgentManifest

inductive Number where
  | integer (value : Int)
  | float (value : Binary64)
  deriving DecidableEq, Repr

namespace Number

def leastInteger : Int := -0x8000000000000000

def greatestInteger : Int := 0xFFFFFFFFFFFFFFFF

def fits (i : Int) : Bool := leastInteger ≤ i && i ≤ greatestInteger

/-- Equality of stored numbers: integers exactly, binary64 numbers by value. -/
def same : Number → Number → Bool
  | .integer i, .integer j => i == j
  | .float x, .float y => x.same y
  | _, _ => false

/-- The number as binary64, rounded when it is a large integer. -/
def toBinary64 : Number → Binary64
  | .integer i => (Binary64.ofInt? i).getD Binary64.zero
  | .float x => x

def toNat? : Number → Option Nat
  | .integer i => if 0 ≤ i then some i.toNat else none
  | .float _ => none

end Number

inductive Json where
  | null
  | bool (value : Bool)
  | number (value : Number)
  | string (value : String)
  | array (elements : List Json)
  | object (members : List (String × Json))
  deriving Inhabited, Repr

abbrev Members := Keyed Json

namespace Json

def ofNat (n : Nat) : Json := .number (.integer n)

mutual

def same : Json → Json → Bool
  | .null, .null => true
  | .bool a, .bool b => a == b
  | .number a, .number b => a.same b
  | .string a, .string b => a == b
  | .array a, .array b => sameList a b
  | .object a, .object b => sameMembers a b
  | _, _ => false

def sameList : List Json → List Json → Bool
  | [], [] => true
  | a :: as, b :: bs => same a b && sameList as bs
  | _, _ => false

def sameMembers : List (String × Json) → List (String × Json) → Bool
  | [], [] => true
  | (k, a) :: as, (l, b) :: bs => k == l && same a b && sameMembers as bs
  | _, _ => false

end

mutual

/-- The tree with every object in key order and the last of repeated members kept. -/
def canonical : Json → Json
  | .array elements => .array (canonicalList elements)
  | .object members => .object (Keyed.ofList (canonicalMembers members))
  | v => v

def canonicalList : List Json → List Json
  | [] => []
  | v :: rest => canonical v :: canonicalList rest

def canonicalMembers : List (String × Json) → List (String × Json)
  | [] => []
  | (k, v) :: rest => (k, canonical v) :: canonicalMembers rest

end

end Json
end AgentManifest
