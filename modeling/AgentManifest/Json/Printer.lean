import AgentManifest.Json.Basic
import AgentManifest.Decimal.Notation

/-! Writing value trees, on one line (`compact`) or indented (`pretty`). Only the quote, the
backslash and the control characters below U+0020 are escaped; members come in the order they are
stored. -/

namespace AgentManifest

namespace Json

def hexDigit (n : Nat) : Char := if n < 10 then Char.ofNat (48 + n) else Char.ofNat (87 + n)

def escapeChar (c : Char) : List Char :=
  if c = '"' then ['\\', '"']
  else if c = '\\' then ['\\', '\\']
  else if c = '\x08' then ['\\', 'b']
  else if c = '\x0c' then ['\\', 'f']
  else if c = '\n' then ['\\', 'n']
  else if c = '\r' then ['\\', 'r']
  else if c = '\t' then ['\\', 't']
  else if c.toNat < 32 then
    ['\\', 'u', '0', '0', hexDigit (c.toNat / 16), hexDigit (c.toNat % 16)]
  else [c]

def quoted (s : String) : List Char := '"' :: (s.toList.flatMap escapeChar ++ ['"'])

def numberText : Number → String
  | .integer i => toString i
  | .float x => DecimalNotation.document.write x

mutual

def compactChars : Json → List Char
  | .null => "null".toList
  | .bool b => (if b then "true" else "false").toList
  | .number n => (numberText n).toList
  | .string s => quoted s
  | .array elements => '[' :: (compactElements true elements ++ [']'])
  | .object members => '{' :: (compactMembers true members ++ ['}'])

def compactElements (first : Bool) : List Json → List Char
  | [] => []
  | v :: rest => (if first then [] else [',']) ++ compactChars v ++ compactElements false rest

def compactMembers (first : Bool) : List (String × Json) → List Char
  | [] => []
  | (k, v) :: rest =>
    (if first then [] else [',']) ++ quoted k ++ ':' :: compactChars v
      ++ compactMembers false rest

end

def compact (v : Json) : String := String.ofList v.compactChars

def newLine (level : Nat) : List Char := '\n' :: List.replicate (2 * level) ' '

mutual

def prettyChars (level : Nat) : Json → List Char
  | .null => "null".toList
  | .bool b => (if b then "true" else "false").toList
  | .number n => (numberText n).toList
  | .string s => quoted s
  | .array [] => ['[', ']']
  | .array (v :: rest) =>
    '[' :: (prettyElements (level + 1) true (v :: rest) ++ newLine level ++ [']'])
  | .object [] => ['{', '}']
  | .object (m :: rest) =>
    '{' :: (prettyMembers (level + 1) true (m :: rest) ++ newLine level ++ ['}'])

def prettyElements (level : Nat) (first : Bool) : List Json → List Char
  | [] => []
  | v :: rest =>
    (if first then [] else [',']) ++ newLine level ++ prettyChars level v
      ++ prettyElements level false rest

def prettyMembers (level : Nat) (first : Bool) : List (String × Json) → List Char
  | [] => []
  | (k, v) :: rest =>
    (if first then [] else [',']) ++ newLine level ++ quoted k ++ [':', ' ']
      ++ prettyChars level v ++ prettyMembers level false rest

end

def pretty (v : Json) : String := String.ofList (prettyChars 0 v)

end Json
end AgentManifest
