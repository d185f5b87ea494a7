import AgentManifest.Agent.Basic
import AgentManifest.Proofs.Agent.Restatement
import AgentManifest.Proofs.Record.Assured

/-! The bounds that the schema of agent documents sets to names and numbers, as they hold of the
records that documents and tool resources are read as. -/

namespace AgentManifest

open SchemaStore AgentSchema

/-- A name of one to 255 characters. -/
def IsIdentifier (name : String) : Prop := 1 ≤ name.length ∧ name.length ≤ 255

structure Budget.Bounded (b : Budget) : Prop where
  seconds : ∀ n ∈ b.seconds, 1 ≤ n ∧ n ≤ 3600
  tokens : ∀ n ∈ b.tokens, 1 ≤ n

theorem Budget.assured :
    store.Assures (record [] [("seconds", positiveTo 3600), ("tokens", positive)]) read Bounded := by
  refine Assures.record fun members b wellFormed record readMembers => ?_
  simp only [bind_eq_ok, pure_eq_ok, Except.ok.injEq] at readMembers
  obtain ⟨seconds, readSeconds, tokens, readTokens, rfl⟩ := readMembers
  exact {
    seconds := (Assures.positiveTo (by decide)).option wellFormed record rfl readSeconds
    tokens := Assures.positive.option wellFormed record rfl readTokens }

theorem Orchestration.assured :
    store.Assures AgentSchema.orchestration read fun o => ∀ b ∈ o.budget, b.Bounded := by
  refine Assures.record fun members o wellFormed record readMembers => ?_
  simp only [bind_eq_ok, pure_eq_ok, Except.ok.injEq] at readMembers
  obtain ⟨budget, readBudget, rfl⟩ := readMembers
  exact Budget.assured.option wellFormed record rfl readBudget

namespace Tool

theorem specification_assured :
    store.Assures toolSpecification readSpecification (IsIdentifier ·.name) := by
  refine Assures.record fun members t wellFormed record readMembers => ?_
  simp only [bind_eq_ok, pure_eq_ok, Except.ok.injEq] at readMembers
  obtain ⟨toolType, readType, name, readName, description, readDescription, input, readInput,
    rfl⟩ :=
    readMembers
  exact (Assures.identifier.definition rfl).needed wellFormed record rfl readName

theorem assured : store.Assures tool read (IsIdentifier ·.name) :=
  Assures.record fun _ _ wellFormed record readMembers =>
    (specification_assured.definition rfl).needed wellFormed record rfl readMembers

end Tool

/-- A request within the bounds of its document. Its tool resources are still to be judged. -/
structure CreateRequest.Bounded (r : CreateRequest) : Prop where
  database : IsIdentifier r.database
  schema : IsIdentifier r.schema
  name : IsIdentifier r.name
  tools : ∀ t ∈ r.tools, IsIdentifier t.name
  orchestration : ∀ o ∈ r.orchestration, ∀ b ∈ o.budget, b.Bounded

theorem CreateRequest.assured : store.Assures agent read Bounded := by
  refine Assures.record fun members r wellFormed record readMembers => ?_
  simp only [bind_eq_ok, pure_eq_ok, Except.ok.injEq] at readMembers
  obtain ⟨database, readDatabase, schema, readSchema, name, readName, comment, readComment, profile,
    readProfile, models, readModels, instructions, readInstructions, orchestration,
    readOrchestration, tools, readTools, resources, readResources, rfl⟩ := readMembers
  have identifier : store.Assures (definition "Identifier") Reading.text IsIdentifier :=
    Assures.identifier.definition rfl
  exact {
    database := identifier.needed wellFormed record rfl readDatabase
    schema := identifier.needed wellFormed record rfl readSchema
    name := identifier.needed wellFormed record rfl readName
    tools := (Tool.assured.definition rfl).list wellFormed record rfl rfl rfl readTools
    orchestration :=
      (Orchestration.assured.definition rfl).option wellFormed record rfl readOrchestration }

structure ExecutionEnvironment.Bounded (e : ExecutionEnvironment) : Prop where
  warehouse : IsIdentifier e.warehouse
  queryTimeout : ∀ n ∈ e.queryTimeout, 1 ≤ n

theorem ExecutionEnvironment.assured : store.Assures environment read Bounded := by
  refine Assures.record fun members e wellFormed record readMembers => ?_
  simp only [bind_eq_ok, pure_eq_ok, Except.ok.injEq] at readMembers
  obtain ⟨warehouse, readWarehouse, timeout, readTimeout, rfl⟩ := readMembers
  exact {
    warehouse := (Assures.identifier.definition rfl).needed wellFormed record rfl readWarehouse
    queryTimeout := Assures.positive.option wellFormed record rfl readTimeout }

theorem AnalystResource.assured :
    store.Assures analystResource read fun r => ∀ e ∈ r.environment, e.Bounded := by
  refine Assures.record fun members r wellFormed record readMembers => ?_
  simp only [bind_eq_ok, pure_eq_ok, Except.ok.injEq] at readMembers
  obtain ⟨view, readView, file, readFile, environment, readEnvironment, rfl⟩ := readMembers
  exact (ExecutionEnvironment.assured.definition rfl).option wellFormed record rfl readEnvironment

namespace SearchResource

structure Bounded (r : SearchResource) : Prop where
  maxResults : ∀ n ∈ r.maxResults, 1 ≤ n ∧ n ≤ 100
  columns : ∀ name ∈ r.columns, 1 ≤ name.length

theorem assured : store.Assures searchResource read Bounded := by
  refine Assures.record fun members r wellFormed record readMembers => ?_
  simp only [bind_eq_ok, pure_eq_ok, Except.ok.injEq] at readMembers
  obtain ⟨service, readService, most, readMost, filter, readFilter, idColumn, readId, titleColumn,
    readTitle, columns, readColumns, rfl⟩ := readMembers
  exact {
    maxResults := (Assures.positiveTo (by decide)).option wellFormed record rfl readMost
    columns := Assures.filledText.list wellFormed record rfl rfl rfl readColumns }

/-- The columns that the members of a search give: they are left out, or they are a list of at least
one name. -/
inductive ColumnsIn (members : Members) : List String → Prop where
  | leftOut (absent : Keyed.get? "columns" members = none) : ColumnsIn members []
  | listed {first : String} {rest : List String}
      (given : Keyed.get? "columns" members = some (.array ((first :: rest).map .string))) :
      ColumnsIn members (first :: rest)

theorem columnsIn_of_conforms {members : Members} {r : SearchResource}
    (conforms : store.Conforms searchResource (.object members))
    (taken : SearchResource.read (.object members) = .ok r) : ColumnsIn members r.columns := by
  obtain ⟨_, same, record⟩ := recordOf_of_conforms conforms
  cases same
  obtain ⟨-, taken⟩ := Reading.record_eq_ok_iff.mp taken
  simp only [bind_eq_ok, pure_eq_ok, Except.ok.injEq] at taken
  obtain ⟨service, -, most, -, filter, -, idColumn, -, titleColumn, -, columns, readColumns, rfl⟩ :=
    taken
  rcases get?_of_listMember_text readColumns with ⟨absent, rfl⟩ | given
  · exact .leftOut absent
  cases columns with
  | nil =>
      -- The schema asks for at least one column.
      obtain ⟨least, most⟩ := (record.field rfl given).asks.own.size [] rfl
      exact absurd (least 1 rfl) (by decide)
  | cons first rest => exact .listed given

end SearchResource

theorem GenericResource.assured :
    store.Assures genericResource read fun r => r.environment.Bounded := by
  refine Assures.record fun members r wellFormed record readMembers => ?_
  simp only [bind_eq_ok, pure_eq_ok, Except.ok.injEq] at readMembers
  obtain ⟨kind, readKind, identifier, readIdentifier, environment, readEnvironment, rfl⟩ :=
    readMembers
  exact (ExecutionEnvironment.assured.definition rfl).needed wellFormed record rfl readEnvironment

/-- A resource within the bounds of the definition of its type; one for an analyst names exactly one
semantic source. -/
def ToolResource.Bounded : ToolResource → Prop
  | .analyst r =>
    (r.semanticView.isSome ≠ r.semanticModelFile.isSome) ∧ ∀ e ∈ r.environment, e.Bounded
  | .search r => r.Bounded
  | .generic r => r.environment.Bounded

end AgentManifest
