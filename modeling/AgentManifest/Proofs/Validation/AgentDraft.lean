import Mathlib.Tactic.NormNum
import AgentManifest.Proofs.Validation.DraftAgreement
import AgentManifest.Schema.AgentSchema

/-! The schema of agent documents as it is written, and what checks against it have to do with draft
2020-12. They agree as far as integers are the numbers that are stored as integers. To the draft an
integer is a number without a fractional part however it is written, so that `10.0` is valid where
the check finds a number instead of an integer; nothing else sets the two apart. -/

namespace AgentManifest
namespace WrittenSchema

/-- The path of a definition. -/
def pathOf (name : String) : String := "#/$defs/" ++ name

def definition (name : String) : Json := .object [("$ref", .string (pathOf name))]

def text : Json := .object [("type", .string "string")]

def filledText : Json := .object [("minLength", .ofNat 1), ("type", .string "string")]

def positive : Json := .object [("minimum", .ofNat 1), ("type", .string "integer")]

def positiveTo (most : Nat) : Json :=
  .object [("maximum", .ofNat most), ("minimum", .ofNat 1), ("type", .string "integer")]

def listOf (items : Json) : Json := .object [("items", items), ("type", .string "array")]

def tree : Json := .object [("type", .string "object")]

def oneOf (values : List String) : Json := .object [("enum", .array (values.map .string))]

/-- An object with the given members only, some of them required. -/
def record (required : List String) (properties : Members) : Json :=
  .object ([("additionalProperties", .bool false), ("properties", .object properties)] ++
    (if required = [] then [] else [("required", .array (required.map .string))]) ++
    [("type", .string "object")])

/-- The definitions, in the order of their names. -/
def definitions : Members := [
  ("AgentInstructions", record [] [
    ("orchestration", text),
    ("response", text),
    ("sample_questions", listOf (definition "SampleQuestion")),
    ("system", text)]),
  ("AgentProfile", record [] [("avatar", text), ("color", text), ("display_name", filledText)]),
  ("AnalystToolResource", record [] [
    ("execution_environment", definition "ExecutionEnvironment"),
    ("semantic_model_file", filledText),
    ("semantic_view", definition "Identifier")]),
  ("CortexAgent", record ["database_name", "schema_name", "name"] [
    ("comment", text),
    ("database_name", definition "Identifier"),
    ("instructions", definition "AgentInstructions"),
    ("models", definition "ModelConfig"),
    ("name", definition "Identifier"),
    ("orchestration", definition "OrchestrationConfig"),
    ("profile", definition "AgentProfile"),
    ("schema_name", definition "Identifier"),
    ("tool_resources", listOf (definition "ToolResourceEntry")),
    ("tools", listOf (definition "Tool"))]),
  ("ExecutionEnvironment", record ["type", "warehouse"] [
    ("query_timeout", positive),
    ("type", .object [("const", .string "warehouse")]),
    ("warehouse", definition "Identifier")]),
  ("GenericToolResource", record ["type", "identifier", "execution_environment"] [
    ("execution_environment", definition "ExecutionEnvironment"),
    ("identifier", definition "Identifier"),
    ("type", oneOf ["function", "procedure"])]),
  ("Identifier", .object [
    ("maxLength", .ofNat 255), ("minLength", .ofNat 1), ("type", .string "string")]),
  ("ModelConfig", record ["orchestration"] [("orchestration", filledText)]),
  ("OrchestrationConfig", record [] [
    ("budget", record [] [("seconds", positiveTo 3600), ("tokens", positive)])]),
  ("SampleQuestion", record ["question"] [("answer", text), ("question", filledText)]),
  ("SearchToolResource", record ["search_service"] [
    ("columns", .object [
      ("items", filledText), ("minItems", .ofNat 1), ("type", .string "array")]),
    ("filter", tree),
    ("id_column", filledText),
    ("max_results", positiveTo 100),
    ("search_service", definition "Identifier"),
    ("title_column", filledText)]),
  ("Tool", record ["tool_spec"] [("tool_spec", definition "ToolSpec")]),
  ("ToolResourceEntry", .object [
    ("additionalProperties", .bool true),
    ("description", .string ("Payload fields depend on the matching tool's type and are checked "
      ++ "against the *ToolResource definitions once tools are known.")),
    ("properties", .object [("name", definition "Identifier")]),
    ("required", .array [.string "name"]),
    ("type", .string "object")]),
  ("ToolSpec", record ["type", "name"] [
    ("description", text),
    ("input_schema", tree),
    ("name", definition "Identifier"),
    ("type", oneOf ["cortex_analyst_text_to_sql", "cortex_search", "generic", "data_to_chart"])])]

def members : Members := [
  ("$defs", .object definitions),
  ("$id", .string "https://cortex-intake.local/schema/cortex_agent.schema.json"),
  ("$ref", .string (pathOf "CortexAgent")),
  ("$schema", .string "https://json-schema.org/draft/2020-12/schema"),
  ("title", .string "Cortex agent create document")]

/-- The schema of agent documents as it is written. -/
def document : Json := .object members

theorem read_definitions :
    Schema.ofProperties ["$defs"] definitions = .ok AgentSchema.definitions := by rfl

theorem read_root :
    Schema.ofMembers .root .any (Keyed.erase "$defs" members) = .ok AgentSchema.store.root := by rfl

/-- Reading the document gives the store that checks go by. -/
theorem ofJson_document : SchemaStore.ofJson document = .ok AgentSchema.store := by
  have defined : SchemaStore.Defines members AgentSchema.store.definitions :=
    ⟨definitions, rfl, read_definitions⟩
  exact SchemaStore.ofJson_eq_ok_iff.mpr ⟨defined, read_root, rfl, rfl⟩

theorem plain_document : Draft.plain document = true := by decide

/-- The definitions that documents and their parts are checked against. -/
def checked : List String :=
  ["CortexAgent", "AnalystToolResource", "SearchToolResource", "GenericToolResource"]

/-- For each of the definitions that are checked, a check finds no violation exactly when a value is
valid for what the document has there under draft 2020-12, if integers are taken to be the numbers
stored as integers. So a value without violations is valid to the draft as it stands; and the check
and the draft agree on a value unless one of its numbers has no fractional part and yet is not stored
as an integer. -/
theorem checks_agree_with_draft {name : String} (listed : name ∈ checked) {v : Json}
    (wellFormed : v.WellFormed) : SchemaStore.ofJson document = .ok AgentSchema.store ∧
    ∃ sub d, AgentSchema.store.lookup (pathOf name) = .ok sub ∧
      Draft.definition? document name = some d ∧
      (sub.violations v = [] ↔ Draft.Valid Number.StoredWhole document d v) ∧
      (sub.violations v = [] → Draft.Valid Number.Whole document d v) ∧
      (v.EachNumber (fun n => n.Whole → n.StoredWhole) →
        (sub.violations v = [] ↔ Draft.Valid Number.Whole document d v)) := by
  obtain ⟨sub, chosen, named⟩ : ∃ sub, AgentSchema.store.lookup (pathOf name) = .ok sub ∧
      SchemaStore.segments (pathOf name) = ["$defs", name] := by
    simp only [checked, List.mem_cons, List.not_mem_nil, or_false] at listed
    rcases listed with rfl | rfl | rfl | rfl <;> exact ⟨_, rfl, rfl⟩
  obtain ⟨d, found, verdict⟩ :=
    Draft.violations_eq_nil_iff plain_document ofJson_document chosen named
  have stored := verdict v wellFormed
  have whole (clean : sub.violations v = []) : Draft.Valid Number.Whole document d v :=
    (stored.mp clean).mono (.of_forall (fun _ => Number.StoredWhole.whole) v)
  refine ⟨ofJson_document, sub, d, chosen, found, stored, whole, fun storedIfWhole => ?_⟩
  exact ⟨whole, fun valid => stored.mpr (valid.mono storedIfWhole)⟩

/-- A search tool resource with a number of results. -/
def searchOf (n : Number) : Json :=
  .object [("max_results", .number n), ("search_service", .string "docs")]

theorem wellFormed_searchOf {n : Number} (stored : n.Stored) : (searchOf n).WellFormed := by
  refine .object ?_ ?_
  · simp only [Keyed.ordered_cons, List.forall_mem_cons]
    exact ⟨⟨by decide, by simp⟩, by simp⟩
  · simp only [List.forall_mem_cons]
    exact ⟨.number stored, .string _, by simp⟩

/-- A check finds nothing wrong with ten results, so they are valid. -/
theorem checks_agree_with_draft_search : ∃ d,
    Draft.definition? document "SearchToolResource" = some d ∧
      Draft.Valid Number.Whole document d (searchOf (.integer 10)) := by
  have stored : (Number.integer 10).Stored := show Number.fits 10 = true by decide
  obtain ⟨-, sub, d, chosen, found, -, valid, -⟩ := checks_agree_with_draft
    (by decide : "SearchToolResource" ∈ checked) (wellFormed_searchOf stored)
  cases chosen
  exact ⟨d, found, valid (by decide)⟩

/-- The same integer, stored as a binary64 number. -/
def ten : Binary64 := ⟨false, ⟨0x4024000000000000, by decide⟩⟩

theorem value_ten : ten.value = 10 := by
  have magnitude : ten.magnitude = (0x14000000000000, 0x2000000000000) := by decide
  rw [Binary64.value, magnitude]
  norm_num [ten]

theorem valid_max_results :
    Draft.Valid Number.Whole document (positiveTo 100) (.number (.float ten)) := by
  refine Draft.valid_of_meets ⟨⟨?_, nofun, nofun, nofun, nofun, ?_, ?_, nofun, nofun, nofun⟩, nofun,
    nofun, nofun, nofun⟩
  · rintro t ⟨⟩
    exact ⟨"integer", List.mem_singleton.mpr rfl, 10, by simp [Number.value, value_ten]⟩
  · rintro n ⟨⟩ m ⟨⟩
    norm_num [Number.value, value_ten]
  · rintro n ⟨⟩ m ⟨⟩
    norm_num [Number.value, value_ten]

theorem valid_search_service :
    Draft.Valid Number.Whole document (definition "Identifier") (.string "docs") := by
  refine Draft.valid_of_meets ⟨⟨nofun, nofun, nofun, nofun, nofun, nofun, nofun, nofun, nofun,
    nofun⟩, ?_, nofun, nofun, nofun⟩
  intro name given
  have same : pathOf "Identifier" = "#/$defs/" ++ name := Json.string.inj (Option.some.inj given)
  obtain rfl : "Identifier" = name := String.append_right_inj _ |>.mp same
  have length : "docs".length = 4 := by decide
  refine ⟨_, rfl, Draft.valid_of_meets ⟨⟨?_, nofun, nofun, ?_, ?_, nofun, nofun, nofun, nofun,
    nofun⟩, nofun, nofun, nofun, nofun⟩⟩
  · rintro t ⟨⟩
    exact ⟨"string", List.mem_singleton.mpr rfl, trivial⟩
  · rintro n ⟨⟩ content ⟨⟩
    norm_num [Number.value, length]
  · rintro n ⟨⟩ content ⟨⟩
    norm_num [Number.value, length]

/-- Ten results are valid to the draft when they are written `10.0` too, and the check refuses them. -/
theorem draft_accepts_whole_float : ∃ sub d,
    AgentSchema.store.lookup (pathOf "SearchToolResource") = .ok sub ∧
      Draft.definition? document "SearchToolResource" = some d ∧ (searchOf (.float ten)).WellFormed ∧
      Draft.Valid Number.Whole document d (searchOf (.float ten)) ∧
      sub.violations (searchOf (.float ten)) =
        [⟨[.field "max_results"], .typeMismatch, "expected integer, found number"⟩] := by
  refine ⟨_, _, rfl, rfl, wellFormed_searchOf trivial, ?_, by decide⟩
  refine Draft.valid_of_meets ⟨⟨?_, nofun, nofun, nofun, nofun, nofun, nofun, nofun, nofun, ?_⟩,
    nofun, nofun, ?_, ?_⟩
  · rintro t ⟨⟩
    exact ⟨"object", List.mem_singleton.mpr rfl, trivial⟩
  · rintro names ⟨⟩ given ⟨⟩ name listed
    cases List.mem_singleton.mp listed
    exact ⟨_, .tail _ (.head _)⟩
  · rintro listed ⟨⟩ given ⟨⟩ key member inside s found
    rcases List.mem_cons.mp inside with same | inside
    · cases same
      cases found
      exact valid_max_results
    · cases List.mem_singleton.mp inside
      cases found
      exact valid_search_service
  · rintro s ⟨⟩ given ⟨⟩ key member inside unlisted
    rcases List.mem_cons.mp inside with same | inside
    · cases same
      exact absurd (by decide) unlisted
    · cases List.mem_singleton.mp inside
      exact absurd (by decide) unlisted

end WrittenSchema
end AgentManifest
