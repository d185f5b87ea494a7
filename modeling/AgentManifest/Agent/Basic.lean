import AgentManifest.Agent.Resource

/-! Agents with every tool resource in place, and how they are written: as a whole (`toJson`), as
the body of a call that creates them (`requestBody`), and without their identity
(`specification`). -/

namespace AgentManifest

structure Agent where
  database : String
  schema : String
  name : String
  comment : Option String
  profile : Option Profile
  models : Option ModelChoice
  instructions : Option Instructions
  orchestration : Option Orchestration
  tools : List Tool
  resources : Keyed ToolResource

namespace Profile

def toJson (p : Profile) : Json :=
  .object (givenMember "display_name" .string p.displayName
    ++ givenMember "avatar" .string p.avatar
    ++ givenMember "color" .string p.color)

end Profile

namespace ModelChoice

def toJson (m : ModelChoice) : Json := .object [("orchestration", .string m.orchestration)]

end ModelChoice

namespace SampleQuestion

def toJson (q : SampleQuestion) : Json :=
  .object ([("question", .string q.question)] ++ givenMember "answer" .string q.answer)

end SampleQuestion

namespace Instructions

def toJson (i : Instructions) : Json :=
  .object (givenMember "response" .string i.response
    ++ givenMember "orchestration" .string i.orchestration
    ++ givenMember "system" .string i.system
    ++ filledMember "sample_questions" SampleQuestion.toJson i.sampleQuestions)

end Instructions

namespace Budget

def toJson (b : Budget) : Json :=
  .object (givenMember "seconds" Json.ofNat b.seconds ++ givenMember "tokens" Json.ofNat b.tokens)

end Budget

namespace Orchestration

def toJson (o : Orchestration) : Json := .object (givenMember "budget" Budget.toJson o.budget)

end Orchestration

namespace Tool

def toJson (t : Tool) : Json :=
  .object [("tool_spec", .object ([("type", .string t.toolType.name), ("name", .string t.name)]
    ++ givenMember "description" .string t.description
    ++ givenMember "input_schema" id t.inputSchema))]

end Tool

namespace Agent

def resourcesJson (a : Agent) : Json :=
  .object (a.resources.map fun (name, resource) => (name, resource.toJson))

def toJson (a : Agent) : Json :=
  .object ([("database_name", .string a.database), ("schema_name", .string a.schema),
      ("name", .string a.name)]
    ++ givenMember "comment" .string a.comment
    ++ givenMember "profile" Profile.toJson a.profile
    ++ givenMember "models" ModelChoice.toJson a.models
    ++ givenMember "instructions" Instructions.toJson a.instructions
    ++ givenMember "orchestration" Orchestration.toJson a.orchestration
    ++ [("tools", .array (a.tools.map Tool.toJson)), ("tool_resources", a.resourcesJson)])

def behaviour (a : Agent) : List (String × Json) :=
  givenMember "models" ModelChoice.toJson a.models
    ++ givenMember "instructions" Instructions.toJson a.instructions
    ++ givenMember "orchestration" Orchestration.toJson a.orchestration
    ++ filledMember "tools" Tool.toJson a.tools
    ++ if a.resources.isEmpty then [] else [("tool_resources", a.resourcesJson)]

def specification (a : Agent) : Json := Json.canonical (.object a.behaviour)

/-- What the call that creates the agent says. Where the agent lives is said elsewhere. -/
def requestBody (a : Agent) : Json :=
  Json.canonical (.object ([("name", .string a.name)]
    ++ givenMember "comment" .string a.comment
    ++ givenMember "profile" Profile.toJson a.profile
    ++ a.behaviour))

def joinName (database schema name : String) : String := s!"{database}.{schema}.{name}"

def qualifiedName (a : Agent) : String := joinName a.database a.schema a.name

def ofRequest (r : CreateRequest) (resources : Keyed ToolResource) : Agent :=
  ⟨r.database, r.schema, r.name, r.comment, r.profile, r.models, r.instructions, r.orchestration,
    r.tools, resources⟩

end Agent
end AgentManifest
