import AgentManifest.Proofs.Agent.Bounds
import AgentManifest.Proofs.Build.Agreement
import AgentManifest.Proofs.Resolution.Service

/-! Built agents are consistent. The facts come from different stages: the bounds of names and
numbers from the document and, for tool resources, from the definition that the type of the tool
selects; the fit of tools and resources from their join. -/

namespace AgentManifest

/-- An agent whose tools and resources fit each other, and whose names and numbers keep to their
bounds. -/
structure Agent.Consistent (policy : MissingResourcePolicy) (a : Agent) : Prop where
  toolNames : (a.tools.map (·.name)).Nodup
  resourceNames : (Keyed.keys a.resources).Nodup
  /-- Each resource is under the name of a tool of its own type, so none is that of a chart. -/
  matched : ∀ name resource, (name, resource) ∈ a.resources →
    ∃ tool ∈ a.tools, tool.name = name ∧ tool.toolType = resource.toolType ∧
      tool.toolType ≠ .chart
  /-- Only tools that take a resource have one. -/
  takers : ∀ name ∈ Keyed.keys a.resources,
    ∃ tool ∈ a.tools, tool.name = name ∧ tool.toolType.takesResource = true
  /-- Under the strict policy these are all tools that take one. -/
  served : policy = .strict → ∀ name, name ∈ Keyed.keys a.resources ↔
    ∃ tool ∈ a.tools, tool.name = name ∧ tool.toolType.takesResource = true
  database : IsIdentifier a.database
  schema : IsIdentifier a.schema
  name : IsIdentifier a.name
  tools : ∀ tool ∈ a.tools, IsIdentifier tool.name
  orchestration : ∀ o ∈ a.orchestration, ∀ b ∈ o.budget, b.Bounded
  resources : ∀ name resource, (name, resource) ∈ a.resources → resource.Bounded

/-- The columns of each search are what its entry in the document gives: left out, or some names. -/
def Agent.ColumnsOf (document : Json) (a : Agent) : Prop :=
  ∀ name search, (name, .search search) ∈ a.resources → ∃ i members,
    document.at? [.field "tool_resources", .index i] = some (.object members) ∧
      Keyed.get? "name" members = some (.string name) ∧
      SearchResource.ColumnsIn members search.columns

namespace AgentSchema

variable {policy : MissingResourcePolicy} {b : Builder} {overrides : Overrides} {filename : String}
  {bytes : List UInt8} {a : Agent}

/-- What a type of tools takes is within the bounds of its definition. -/
theorem bounded_of_takes {payload : Members} {t : ToolType} {resource : ToolResource}
    (wellFormed : (Json.object payload).WellFormed)
    (taken : Resolution.Takes (builder policy).resources payload t resource) :
    resource.Bounded := by
  cases taken with
  | analyst met decoded oneSource =>
      obtain ⟨conforms, rfl⟩ := conforms_of_validate "AnalystToolResource" rfl met
      exact ⟨oneSource, AnalystResource.assured _ _ wellFormed conforms decoded⟩
  | search met decoded =>
      obtain ⟨conforms, rfl⟩ := conforms_of_validate "SearchToolResource" rfl met
      exact SearchResource.assured _ _ wellFormed conforms decoded
  | generic met decoded =>
      obtain ⟨conforms, rfl⟩ := conforms_of_validate "GenericToolResource" rfl met
      exact GenericResource.assured _ _ wellFormed conforms decoded

/-- A request within its bounds, joined without issues, is a consistent agent. -/
theorem consistent_of_resolve {r : CreateRequest} {resources : Keyed ToolResource}
    (bounded : r.Bounded) (payloads : ∀ e ∈ r.resources, (Json.object e.payload).WellFormed)
    (resolved : Resolution.resolve (builder policy).resources policy r.tools r.resources =
      .ok resources) : (Agent.ofRequest r resources).Consistent policy := by
  have taken : ∀ name resource, (name, resource) ∈ resources →
      ∃ e ∈ r.resources, e.name = name ∧ ∃ tool ∈ r.tools, tool.name = name ∧
        Resolution.Takes (builder policy).resources e.payload tool.toolType resource :=
    fun name resource => Resolution.taken_of_resolve resolved
  have keys := Resolution.keys_of_resolve resolved
  have takers : ∀ name ∈ Keyed.keys resources,
      ∃ tool ∈ r.tools, tool.name = name ∧ tool.toolType.takesResource = true := by
    intro name inside
    obtain ⟨⟨_, resource⟩, listed, rfl⟩ := List.mem_map.mp inside
    obtain ⟨e, given, -, tool, declared, named, takes⟩ := taken _ resource listed
    exact ⟨tool, declared, named, (Resolution.toolType_of_takes takes).2⟩
  constructor
  case toolNames => exact Resolution.nodup_of_resolve resolved
  case resourceNames =>
    obtain ⟨distinct, -⟩ := Resolution.joined_of_resolve resolved
    exact keys.nodup_iff.mpr distinct
  case matched =>
    intro name resource inside
    obtain ⟨e, given, -, tool, declared, named, takes⟩ := taken name resource inside
    obtain ⟨sameType, accepted⟩ := Resolution.toolType_of_takes takes
    refine ⟨tool, declared, named, sameType.symm, fun chart => ?_⟩
    rw [chart] at accepted
    cases accepted
  case takers => exact takers
  case served =>
    rintro rfl name
    refine ⟨takers name, ?_⟩
    rintro ⟨tool, declared, rfl, takes⟩
    obtain ⟨e, given, named⟩ := Resolution.served_of_resolve resolved declared takes
    exact keys.mem_iff.mpr (List.mem_map.mpr ⟨e, given, named⟩)
  case database => exact bounded.database
  case schema => exact bounded.schema
  case name => exact bounded.name
  case tools => exact bounded.tools
  case orchestration => exact bounded.orchestration
  case resources =>
    intro name resource inside
    obtain ⟨e, given, -, tool, declared, named, takes⟩ := taken name resource inside
    exact bounded_of_takes (payloads e given) takes

theorem columnsOf_of_resolve {members : Members} {r : CreateRequest}
    {resources : Keyed ToolResource}
    (read : CreateRequest.read (.object members) = .ok r)
    (resolved : Resolution.resolve (builder policy).resources policy r.tools r.resources =
      .ok resources) : (Agent.ofRequest r resources).ColumnsOf (.object members) := by
  intro name search inside
  obtain ⟨e, given, rfl, tool, -, -, takes⟩ := Resolution.taken_of_resolve resolved inside
  have columns : SearchResource.ColumnsIn e.payload search.columns := by
    generalize tool.toolType = type at takes
    cases takes with
    | search met decoded =>
        obtain ⟨conforms, rfl⟩ := conforms_of_validate "SearchToolResource" rfl met
        exact SearchResource.columnsIn_of_conforms conforms decoded
  obtain ⟨i, listed⟩ := List.mem_iff_getElem?.mp given
  obtain ⟨element, placed, readEntry⟩ := CreateRequest.entry_of_read read listed
  obtain ⟨written, rfl, named, kept⟩ := ResourceEntry.read_eq_ok readEntry
  refine ⟨i, written, placed, named, ?_⟩
  -- The payload has the members of the entry but for the name.
  have same : Keyed.get? "columns" e.payload = Keyed.get? "columns" written := by
    rw [kept, Keyed.get?_erase, if_neg (by decide)]
  generalize search.columns = names at columns ⊢
  cases columns with
  | leftOut absent => exact .leftOut (same ▸ absent)
  | listed given => exact .listed (same ▸ given)

theorem consistent_of_buildTree {v : Json} (wellFormed : v.WellFormed)
    (built : ((builder policy).buildTree v).result = .ok a) :
    a.Consistent policy ∧ a.ColumnsOf v := by
  obtain ⟨conforms, r, resources, read, resolved, rfl⟩ := buildTree_eq_ok_iff.mp built
  have accepted : (builder policy).agent.validate v = .ok v :=
    (validate_eq_ok_iff "CortexAgent" rfl).mpr ⟨conforms, rfl⟩
  constructor
  · exact consistent_of_resolve (CreateRequest.assured _ r wellFormed conforms read)
      (payloads_of_accepted wellFormed accepted read) resolved
  · obtain ⟨members, rfl, -⟩ := recordOf_of_conforms conforms
    exact columnsOf_of_resolve read resolved

/-- Every agent that is built from a document, whatever its format and whatever is overridden, is
consistent, and its searches have the columns that the document gives them. -/
theorem built_agents_are_consistent (chosen : Builder.ofStore store policy = .ok b)
    (built : (b.build overrides filename bytes).result = .ok a) :
    a.Consistent policy ∧
      ∃ tree, Document.read filename bytes = .ok tree ∧ a.ColumnsOf (overrides.apply tree) := by
  rw [ofStore_eq_builder] at chosen
  cases chosen
  rw [Builder.build] at built
  split at built
  · cases built
  next tree read =>
    obtain ⟨consistent, columns⟩ := consistent_of_buildTree
      (overrides.apply_wellFormed (Document.wellFormed_of_read read)) built
    exact ⟨consistent, tree, read, columns⟩

/-- A document of one tool with its resource. -/
def servedText : String :=
  "\x7b\"tools\":[\x7b\"tool_spec\":\x7b\"type\":\"cortex_search\",\"name\":\"T\"\x7d\x7d],"
    ++ "\"tool_resources\":[\x7b\"name\":\"T\",\"search_service\":\"X\"\x7d]\x7d"

def servedBytes : List UInt8 := servedText.toUTF8.toList

def servedTree : Json :=
  .object [
    ("tools", .array [
      .object [("tool_spec", .object [("type", .string "cortex_search"), ("name", .string "T")])]]),
    ("tool_resources", .array [.object [("name", .string "T"), ("search_service", .string "X")]])]

theorem read_served : Document.read "a.json" servedBytes = .ok servedTree.canonical :=
  Document.read_chars rfl (spelled_append rfl rfl) rfl

theorem built_agents_are_consistent_served :
    ∃ a, ((builder .strict).build ⟨some "D", some "S", some "A"⟩ "a.json" servedBytes).result =
        .ok a ∧
      Keyed.keys a.resources = ["T"] ∧ a.Consistent .strict ∧
      ∃ tree, Document.read "a.json" servedBytes = .ok tree ∧
        a.ColumnsOf (Overrides.apply ⟨some "D", some "S", some "A"⟩ tree) := by
  have succeeds : ∃ a, ((builder .strict).build ⟨some "D", some "S", some "A"⟩ "a.json"
      servedBytes).result = .ok a ∧ Keyed.keys a.resources = ["T"] := by
    rw [Builder.build, read_served]
    decide
  obtain ⟨a, built, keys⟩ := succeeds
  exact ⟨a, built, keys, built_agents_are_consistent (ofStore_eq_builder .strict) built⟩

end AgentSchema
end AgentManifest
