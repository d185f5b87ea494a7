import AgentManifest.Record.Reading

/-! The types of tools that the agent service knows. All but charts are backed by a tool resource,
whose form has a definition of its own in the schema of agent documents. -/

namespace AgentManifest

inductive ToolType where
  | analyst
  | search
  | generic
  | chart
  deriving DecidableEq, Repr

namespace ToolType

def name : ToolType → String
  | .analyst => "cortex_analyst_text_to_sql"
  | .search => "cortex_search"
  | .generic => "generic"
  | .chart => "data_to_chart"

def all : List ToolType := [.analyst, .search, .generic, .chart]

def shape : Shape := .choice (all.map name)

def read : Reading ToolType := Reading.choice (all.map fun t => (t.name, t))

def takesResource : ToolType → Bool
  | .analyst | .search | .generic => true
  | .chart => false

def resourcePath? : ToolType → Option String
  | .analyst => some "#/$defs/AnalystToolResource"
  | .search => some "#/$defs/SearchToolResource"
  | .generic => some "#/$defs/GenericToolResource"
  | .chart => none

end ToolType
end AgentManifest
