import AgentManifest.Agent.Request

/-! Tool resources, each in the form that the type of its tool calls for. `toJson` writes one as the
service expects it, fields in the order of the record and empty ones left out. -/

namespace AgentManifest

structure ExecutionEnvironment where
  warehouse : String
  queryTimeout : Option Nat

/-- A semantic description of data, as a view or as a file; a resource in use has one of the two. -/
structure AnalystResource where
  semanticView : Option String
  semanticModelFile : Option String
  environment : Option ExecutionEnvironment

structure SearchResource where
  service : String
  maxResults : Option Nat
  filter : Option Json
  idColumn : Option String
  titleColumn : Option String
  columns : List String

inductive RoutineKind where
  | function
  | procedure
  deriving DecidableEq, Repr

structure GenericResource where
  kind : RoutineKind
  identifier : String
  environment : ExecutionEnvironment

inductive ToolResource where
  | analyst (resource : AnalystResource)
  | search (resource : SearchResource)
  | generic (resource : GenericResource)

def givenMember {α : Type} (name : String) (write : α → Json) : Option α → List (String × Json)
  | some a => [(name, write a)]
  | none => []

/-- A member that is left out when its list is empty. -/
def filledMember {α : Type} (name : String) (write : α → Json) : List α → List (String × Json)
  | [] => []
  | first :: rest => [(name, .array ((first :: rest).map write))]

namespace ExecutionEnvironment

def shape : Shape :=
  .record "ExecutionEnvironment" [.needed "type" (.choice ["warehouse"]),
    .needed "warehouse" .text, .option "query_timeout" (.natural 64)]

def read : Reading ExecutionEnvironment :=
  Reading.record shape fun given => do
    return {
      warehouse := ← neededMember "warehouse" Reading.text given
      queryTimeout := ← optionMember "query_timeout" (Reading.natural 64) given }

def toJson (e : ExecutionEnvironment) : Json :=
  .object ([("type", .string "warehouse"), ("warehouse", .string e.warehouse)]
    ++ givenMember "query_timeout" Json.ofNat e.queryTimeout)

end ExecutionEnvironment

namespace AnalystResource

def shape : Shape :=
  .record "AnalystResource" [.option "semantic_view" .text, .option "semantic_model_file" .text,
    .option "execution_environment" ExecutionEnvironment.shape]

def read : Reading AnalystResource :=
  Reading.record shape fun given => do
    return {
      semanticView := ← optionMember "semantic_view" Reading.text given
      semanticModelFile := ← optionMember "semantic_model_file" Reading.text given
      environment := ← optionMember "execution_environment" ExecutionEnvironment.read given }

def toJson (r : AnalystResource) : Json :=
  .object (givenMember "semantic_view" .string r.semanticView
    ++ givenMember "semantic_model_file" .string r.semanticModelFile
    ++ givenMember "execution_environment" ExecutionEnvironment.toJson r.environment)

end AnalystResource

namespace SearchResource

def shape : Shape :=
  .record "SearchResource" [.needed "search_service" .text, .option "max_results" (.natural 32),
    .option "filter" .tree, .option "id_column" .text, .option "title_column" .text,
    .optional "columns" (.list .text)]

def read : Reading SearchResource :=
  Reading.record shape fun given => do
    return {
      service := ← neededMember "search_service" Reading.text given
      maxResults := ← optionMember "max_results" (Reading.natural 32) given
      filter := ← optionMember "filter" Reading.tree given
      idColumn := ← optionMember "id_column" Reading.text given
      titleColumn := ← optionMember "title_column" Reading.text given
      columns := ← listMember "columns" Reading.text given }

def toJson (r : SearchResource) : Json :=
  .object ([("search_service", .string r.service)]
    ++ givenMember "max_results" Json.ofNat r.maxResults
    ++ givenMember "filter" id r.filter
    ++ givenMember "id_column" .string r.idColumn
    ++ givenMember "title_column" .string r.titleColumn
    ++ filledMember "columns" .string r.columns)

end SearchResource

namespace RoutineKind

def name : RoutineKind → String
  | .function => "function"
  | .procedure => "procedure"

def all : List RoutineKind := [.function, .procedure]

def shape : Shape := .choice (all.map name)

def read : Reading RoutineKind := Reading.choice (all.map fun k => (k.name, k))

end RoutineKind

namespace GenericResource

def shape : Shape :=
  .record "GenericResource" [.needed "type" RoutineKind.shape, .needed "identifier" .text,
    .needed "execution_environment" ExecutionEnvironment.shape]

def read : Reading GenericResource :=
  Reading.record shape fun given => do
    return {
      kind := ← neededMember "type" RoutineKind.read given
      identifier := ← neededMember "identifier" Reading.text given
      environment := ← neededMember "execution_environment" ExecutionEnvironment.read given }

def toJson (r : GenericResource) : Json :=
  .object [("type", .string r.kind.name), ("identifier", .string r.identifier),
    ("execution_environment", r.environment.toJson)]

end GenericResource

namespace ToolResource

def toolType : ToolResource → ToolType
  | .analyst _ => .analyst
  | .search _ => .search
  | .generic _ => .generic

def toJson : ToolResource → Json
  | .analyst r => r.toJson
  | .search r => r.toJson
  | .generic r => r.toJson

end ToolResource
end AgentManifest
