import AgentManifest.Agent.ToolType
import AgentManifest.Schema.Basic

/-! The schema of agent documents. Every record is closed: a member it does not list is refused,
except in tool resource entries, whose further members depend on the tool they are for. -/

namespace AgentManifest.AgentSchema

def definition (name : String) : Schema := { Schema.any with rules := { reference := some name } }

def text : Schema := { Schema.any with rules := { types := some [.string] } }

def filledText : Schema :=
  { Schema.any with rules := { types := some [.string], minLength := some 1 } }

def positive : Schema :=
  { Schema.any with
    rules := { types := some [.integer], minimum := some (Number.integer 1).toBinary64 } }

def positiveTo (most : Nat) : Schema :=
  { Schema.any with
    rules := {
      types := some [.integer]
      minimum := some (Number.integer 1).toBinary64
      maximum := some (Number.integer most).toBinary64 } }

def listOf (items : Schema) : Schema :=
  { Schema.any with rules := { types := some [.array] }, items := some items }

def tree : Schema := { Schema.any with rules := { types := some [.object] } }

def oneOf (values : List String) : Schema :=
  { Schema.any with rules := { allowed := some (values.map .string) } }

/-- An object with the given members only, listed in key order. -/
def record (required : List String) (properties : Keyed Schema) : Schema where
  rules := { types := some [.object], required }
  items := none
  properties
  additional := .forbidden

def identifier : Schema :=
  { Schema.any with
    rules := { types := some [.string], minLength := some 1, maxLength := some 255 } }

def agent : Schema :=
  record ["database_name", "schema_name", "name"] [
    ("comment", text),
    ("database_name", definition "Identifier"),
    ("instructions", definition "AgentInstructions"),
    ("models", definition "ModelConfig"),
    ("name", definition "Identifier"),
    ("orchestration", definition "OrchestrationConfig"),
    ("profile", definition "AgentProfile"),
    ("schema_name", definition "Identifier"),
    ("tool_resources", listOf (definition "ToolResourceEntry")),
    ("tools", listOf (definition "Tool"))]

def profile : Schema :=
  record [] [("avatar", text), ("color", text), ("display_name", filledText)]

def models : Schema := record ["orchestration"] [("orchestration", filledText)]

def instructions : Schema :=
  record [] [
    ("orchestration", text),
    ("response", text),
    ("sample_questions", listOf (definition "SampleQuestion")),
    ("system", text)]

def sampleQuestion : Schema := record ["question"] [("answer", text), ("question", filledText)]

def orchestration : Schema :=
  record [] [("budget", record [] [("seconds", positiveTo 3600), ("tokens", positive)])]

def tool : Schema := record ["tool_spec"] [("tool_spec", definition "ToolSpec")]

def toolSpecification : Schema :=
  record ["type", "name"] [
    ("description", text),
    ("input_schema", tree),
    ("name", definition "Identifier"),
    ("type", oneOf (ToolType.all.map ToolType.name))]

/-- An entry is only held to its name here; the rest is held to the definition for its tool. -/
def resourceEntry : Schema where
  rules := { types := some [.object], required := ["name"] }
  items := none
  properties := [("name", definition "Identifier")]
  additional := .allowed

def environment : Schema :=
  record ["type", "warehouse"] [
    ("query_timeout", positive),
    ("type", oneOf ["warehouse"]),
    ("warehouse", definition "Identifier")]

def analystResource : Schema :=
  record [] [
    ("execution_environment", definition "ExecutionEnvironment"),
    ("semantic_model_file", filledText),
    ("semantic_view", definition "Identifier")]

def searchResource : Schema :=
  record ["search_service"] [
    ("columns", {
      rules := { types := some [.array], minItems := some 1 }
      items := some filledText
      properties := []
      additional := .allowed }),
    ("filter", tree),
    ("id_column", filledText),
    ("max_results", positiveTo 100),
    ("search_service", definition "Identifier"),
    ("title_column", filledText)]

def genericResource : Schema :=
  record ["type", "identifier", "execution_environment"] [
    ("execution_environment", definition "ExecutionEnvironment"),
    ("identifier", definition "Identifier"),
    ("type", oneOf ["function", "procedure"])]

def definitions : Keyed Schema := [
  ("AgentInstructions", instructions),
  ("AgentProfile", profile),
  ("AnalystToolResource", analystResource),
  ("CortexAgent", agent),
  ("ExecutionEnvironment", environment),
  ("GenericToolResource", genericResource),
  ("Identifier", identifier),
  ("ModelConfig", models),
  ("OrchestrationConfig", orchestration),
  ("SampleQuestion", sampleQuestion),
  ("SearchToolResource", searchResource),
  ("Tool", tool),
  ("ToolResourceEntry", resourceEntry),
  ("ToolSpec", toolSpecification)]

def store : SchemaStore := ⟨definition "CortexAgent", definitions⟩

def agentPath : String := "#/$defs/CortexAgent"

end AgentManifest.AgentSchema
