import AgentManifest.Text.Unicode.HiddenTable
import AgentManifest.Text.Unicode.Table

/-! Text in quotes inside a sentence. What cannot be seen is escaped: control characters, blanks
other than the plain one, and characters that only modify the one before. -/

namespace AgentManifest

def hexDigits (n : Nat) : List Char := Nat.toDigits 16 n

def hiddenCharacters : Unicode.Table := .ofLines Unicode.hiddenLines

def isVisible (c : Char) : Bool :=
  if c.toNat < 128 then 32 ≤ c.toNat && c.toNat < 127 else !hiddenCharacters.contains c

def quotedChar (c : Char) : List Char :=
  if c = '\x00' then ['\\', '0']
  else if c = '\t' then ['\\', 't']
  else if c = '\r' then ['\\', 'r']
  else if c = '\n' then ['\\', 'n']
  else if c = '"' then ['\\', '"']
  else if c = '\\' then ['\\', '\\']
  else if isVisible c then [c]
  else '\\' :: 'u' :: '{' :: (hexDigits c.toNat ++ ['}'])

def quotedText (s : String) : String :=
  String.ofList ('"' :: (s.toList.flatMap quotedChar ++ ['"']))

end AgentManifest
