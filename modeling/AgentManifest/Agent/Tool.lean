import AgentManifest.Agent.ToolType

/-! Tools as an agent declares them, and tool resource entries before the tool they are for is
known. -/

namespace AgentManifest

structure Tool where
  toolType : ToolType
  name : String
  description : Option String
  inputSchema : Option Json

namespace Tool

def specificationShape : Shape :=
  .record "ToolSpec" [.needed "type" ToolType.shape, .needed "name" .text,
    .option "description" .text, .option "input_schema" .tree]

def readSpecification : Reading Tool :=
  Reading.record specificationShape fun given => do
    return {
      toolType := ← neededMember "type" ToolType.read given
      name := ← neededMember "name" Reading.text given
      description := ← optionMember "description" Reading.text given
      inputSchema := ← optionMember "input_schema" Reading.tree given }

def shape : Shape := .record "Tool" [.needed "tool_spec" specificationShape]

def read : Reading Tool :=
  Reading.record shape fun given => neededMember "tool_spec" readSpecification given

end Tool

/-- A tool resource as documents give it: the name of a tool and a payload whose form depends on the
type of that tool. -/
structure ResourceEntry where
  name : String
  payload : Members

namespace ResourceEntry

def shape : Shape := .named "RawToolResource" "name"

def read : Reading ResourceEntry :=
  Reading.record shape fun given => do
    return ⟨← neededMember "name" Reading.text given, Keyed.erase "name" given⟩

end ResourceEntry
end AgentManifest
