import AgentManifest.Text.Blank

/-! File names for agents: lower-case letters, digits and underscores only, with no underscore at an
end. -/

namespace AgentManifest

def safeChar (c : Char) : Char := if c.isAlphanum then c.toLower else '_'

def safeName (name : String) : String :=
  String.ofList (Text.trim (· = '_') (name.toList.map safeChar))

end AgentManifest
