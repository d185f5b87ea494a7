import AgentManifest.Agent.Basic
import AgentManifest.Delivery.CreateMode
import AgentManifest.Delivery.RenderError

/-! Agents as statements that create them. Names are quoted where they have to be, literals double
their quotes, and the specification stands between two dollar signs on each side. -/

namespace AgentManifest

structure CreateStatement where
  mode : CreateMode
  database : String
  schema : String
  name : String
  comment : Option String
  profile : Option String
  specification : String
  deriving DecidableEq, Repr

namespace CreateStatement

def head : CreateMode → String
  | .orReplace => "CREATE OR REPLACE AGENT"
  | .errorIfExists => "CREATE AGENT"
  | .ifNotExists => "CREATE AGENT IF NOT EXISTS"

def startsName (c : Char) : Bool := c.isAlpha || c = '_'

def continuesName (c : Char) : Bool := c.isAlphanum || c = '_' || c = '$'

def isPlainName : List Char → Bool
  | [] => false
  | c :: rest => startsName c && rest.all continuesName

def double (mark : Char) (text : List Char) : List Char :=
  text.flatMap fun c => if c = mark then [c, c] else [c]

def identifier (name : String) : List Char :=
  let text := name.toList
  if isPlainName text then text else '"' :: (double '"' text ++ ['"'])

def literal (text : String) : List Char := '\'' :: (double '\'' text.toList ++ ['\''])

def hasDollarQuote : List Char → Bool
  | [] => false
  | c :: rest => (c = '$' && rest.head? = some '$') || hasDollarQuote rest

def clause (keyword : String) : Option String → List Char
  | some value => '\n' :: ' ' :: ' ' :: (keyword.toList ++ " = ".toList ++ literal value)
  | none => []

def text (s : CreateStatement) : String :=
  String.ofList ((head s.mode).toList ++ ' ' :: identifier s.database ++ '.' :: identifier s.schema
    ++ '.' :: identifier s.name ++ clause "COMMENT" s.comment ++ clause "PROFILE" s.profile
    ++ "\n  FROM SPECIFICATION\n  $$\n".toList ++ s.specification.toList ++ "\n  $$;".toList)

def ofAgent (a : Agent) (mode : CreateMode) : Except RenderError CreateStatement :=
  let specification := a.specification.pretty
  if hasDollarQuote specification.toList then .error .dollarQuote
  else .ok {
    mode
    database := a.database
    schema := a.schema
    name := a.name
    comment := a.comment.filter (· ≠ "")
    profile := a.profile.map fun p => p.toJson.compact
    specification }

end CreateStatement
end AgentManifest
