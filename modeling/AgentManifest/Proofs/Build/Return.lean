import AgentManifest.Proofs.Agent.Restatement
import AgentManifest.Proofs.Build.RequestBody
import AgentManifest.Proofs.Resolution.Order

/-! What a built agent says when it is created can be made a document again: its place is added, and
its tool resources are listed, in any order. That document says what the document of the agent said,
so the same agent is built from it. -/

namespace AgentManifest

open AgentSchema

namespace Delivery

/-- The tool resource entry with a name and a payload. -/
def entry (name : String) (payload : Json) : Json :=
  match payload with
  | .object members => .object (Keyed.insert "name" (.string name) members)
  | v => v

/-- An entry for each tool resource of a body. -/
def entries : Json → List Json
  | .object body =>
    match Keyed.get? "tool_resources" body with
    | some (.object resources) => resources.map fun resource => entry resource.1 resource.2
    | _ => []
  | _ => []

/-- What becomes of a member of a body in a document with the given entries. -/
def listed (elements : List Json) (key : String) (v : Json) : Option Json :=
  some (if key = "tool_resources" then .array elements else v)

example : entries (.object [("name", .string "A"), ("tool_resources",
      .object [("T", .object [("search_service", .string "S")])])]) =
    [.object [("name", .string "T"), ("search_service", .string "S")]] := by
  rfl

/-- An entry is its payload under its name. -/
theorem entry_of_conforms {v : Json} (wellFormed : v.WellFormed)
    (conforms : store.Conforms AgentSchema.resourceEntry v) :
    entry (entryName v) (entryPayload v) = v := by
  obtain ⟨members, name, rfl, given⟩ := ResourceEntry.named_of_conforms conforms
  rw [entryName, given, entryPayload, entry, wellFormed.ordered.insert_erase given]

/-- The entries of a document can be had from what is delivered of it, but for their order. -/
theorem entries_perm {body : Members} {elements : List Json}
    (wellFormed : ∀ v ∈ elements, v.WellFormed)
    (conforms : ∀ v ∈ elements, store.Conforms AgentSchema.resourceEntry v)
    (distinct : (elements.map entryName).Nodup)
    (given : Keyed.get? "tool_resources" body = some (byName elements)) :
    (entries (.object body)).Perm elements := by
  have restored : (elements.map fun v => entry (entryName v) (entryPayload v)) = elements :=
    (List.map_congr_left fun v inside =>
      entry_of_conforms (wellFormed v inside) (conforms v inside)).trans (List.map_id elements)
  have names : ((elements.map fun v => (entryName v, entryPayload v)).map (·.1)).Nodup := by
    rwa [List.map_map]
  have perm := (Keyed.ofList_perm names).map fun resource => entry resource.1 resource.2
  rw [List.map_map] at perm
  simp only [entries, given, byName]
  exact perm.trans (.of_eq restored)

theorem member_eq_some {key : String} {v : Json}
    (plain : key ∉ ["database_name", "schema_name", "tools", "tool_resources", "instructions"]) :
    member key v = some v := by
  unfold member
  split <;> first | rfl | simp at plain

end Delivery

/-- The document of an agent: what the agent says when it is created, with its place and with tool
resource entries for its tool resources. -/
def Agent.document (a : Agent) (elements : List Json) : Json :=
  Overrides.apply ⟨some a.database, some a.schema, none⟩
    (a.requestBody.edited (Delivery.listed elements))

namespace Delivery

/-- What the document of an agent has under a key, by what the document it was built from has. -/
theorem get?_document {a : Agent} {members : Members} (elements : List Json)
    (ordered : Keyed.Ordered members) (body : a.requestBody = ofDocument (.object members)) :
    ∃ members', a.document elements = .object members' ∧ Keyed.Ordered members' ∧
      ∀ key, Keyed.get? key members' =
        if key = "schema_name" then some (.string a.schema)
        else if key = "database_name" then some (.string a.database)
        else ((Keyed.get? key members).bind (member key)).bind (listed elements key) := by
  refine ⟨_, by rw [Agent.document, body]; rfl, ?_, fun key => ?_⟩
  · exact ordered.edited.edited.insert.insert
  · simp only [Overrides.set, Keyed.get?_insert, ordered.edited.get?_edited, ordered.get?_edited]

end Delivery

namespace AgentSchema

variable {policy : MissingResourcePolicy} {b : Builder} {overrides : Overrides} {filename : String}
  {bytes : List UInt8} {a : Agent} {members : Members} {elements : List Json}

/-- What a document has under a key, delivered and listed again, is still said. -/
theorem restated_of_record {key : String} (wellFormed : (Json.object members).WellFormed)
    (record : RecordOf store ["database_name", "schema_name", "name"] agent.properties members)
    (distinct : ∀ given, Keyed.get? "tool_resources" members = some (.array given) →
      (given.map Delivery.entryName).Nodup)
    (perm : elements.Perm (Delivery.entries (Delivery.ofDocument (.object members))))
    (elsewhere : key ∉ ["database_name", "schema_name"]) :
    Restated key (Keyed.get? key members)
      (((Keyed.get? key members).bind (Delivery.member key)).bind
        (Delivery.listed elements key)) := by
  cases given : Keyed.get? key members with
  | none => exact .same none
  | some v =>
      by_cases edited : key ∈ ["tools", "tool_resources", "instructions"]
      · simp only [List.mem_cons, List.not_mem_nil, or_false] at edited
        rcases edited with rfl | rfl | rfl
        · obtain ⟨tools, rfl, -⟩ := (record.field rfl given).listOf
          cases tools with
          | nil => exact .empty (by decide)
          | cons => exact .same _
        · obtain ⟨resources, rfl, each⟩ := (record.field rfl given).listOf
          cases resources with
          | nil => exact .empty (by decide)
          | cons first rest =>
              refine .reordered (perm.trans ?_)
              refine Delivery.entries_perm (fun v => (wellFormed.member given).of_array v)
                (fun v inside => (each v inside).definition rfl) (distinct _ given) ?_
              rw [wellFormed.ordered.get?_edited, given]
              rfl
        · obtain ⟨instructions, rfl, -⟩ :=
            recordOf_of_conforms ((record.field rfl given).definition rfl)
          exact .instructions instructions
      · have plain : key ∉ ["database_name", "schema_name", "tools", "tool_resources",
            "instructions"] := by
          simp only [List.mem_cons, List.not_mem_nil, or_false, not_or] at elsewhere edited ⊢
          exact ⟨elsewhere.1, elsewhere.2, edited⟩
        have unlisted : key ≠ "tool_resources" := by
          rintro rfl
          exact plain (by decide)
        rw [Option.bind_some, Delivery.member_eq_some plain, Option.bind_some, Delivery.listed,
          if_neg unlisted]
        exact .same _

/-- The document of an agent says what the document it was built from says. -/
theorem restates_of_buildTree {v : Json} (wellFormed : v.WellFormed)
    (built : ((builder policy).buildTree v).result = .ok a)
    (perm : elements.Perm (Delivery.entries a.requestBody)) :
    ∃ members members', v = .object members ∧ a.document elements = .object members' ∧
      Restates members members' := by
  obtain ⟨body, distinct⟩ := requestBody_of_buildTree wellFormed built
  obtain ⟨conforms, r, resources, read, -, rfl⟩ := buildTree_eq_ok_iff.mp built
  obtain ⟨members, rfl, record⟩ := recordOf_of_conforms conforms
  obtain ⟨database, schema, -⟩ := CreateRequest.identity_of_read read
  obtain ⟨members', written, ordered, lookup⟩ :=
    Delivery.get?_document elements wellFormed.ordered body
  refine ⟨members, members', rfl, written, ordered, fun key => ?_⟩
  rw [lookup]
  split
  next same =>
    rw [same, schema]
    exact .same _
  next otherSchema =>
    split
    next same =>
      rw [same, database]
      exact .same _
    next otherDatabase =>
      rw [body] at perm
      exact restated_of_record wellFormed record (fun given => distinct members given rfl) perm
        (by simp [otherSchema, otherDatabase])

theorem rebuilds_of_buildTree {v : Json} (wellFormed : v.WellFormed)
    (built : ((builder policy).buildTree v).result = .ok a)
    (perm : elements.Perm (Delivery.entries a.requestBody)) :
    ((builder policy).buildTree (a.document elements)).result = .ok a := by
  obtain ⟨members, members', rfl, written, restates⟩ := restates_of_buildTree wellFormed built perm
  obtain ⟨conforms, r, resources, read, resolved, rfl⟩ := buildTree_eq_ok_iff.mp built
  obtain ⟨entries, reordered, readAgain⟩ := restates.read wellFormed conforms read
  rw [written]
  exact buildTree_eq_ok_iff.mpr ⟨restates.conforms wellFormed conforms,
    { r with resources := entries }, resources, readAgain,
    Resolution.resolve_perm (.refl _) reordered resolved, rfl⟩

/-- An agent is built again from its own document: from the body of the call that creates it, with
its place added and with its tool resources listed as entries, in any order. -/
theorem rebuilt_from_own_document (chosen : Builder.ofStore store policy = .ok b)
    (built : (b.build overrides filename bytes).result = .ok a)
    (perm : elements.Perm (Delivery.entries a.requestBody)) :
    (b.buildTree (a.document elements)).result = .ok a := by
  rw [ofStore_eq_builder] at chosen
  cases chosen
  rw [Builder.build] at built
  split at built
  · cases built
  next v read =>
    have wellFormed := overrides.apply_wellFormed (Document.wellFormed_of_read read)
    exact rebuilds_of_buildTree wellFormed built perm

/-- A document of two tools with their resources. -/
def pairedText : String :=
  "\x7b\"tools\":["
    ++ "\x7b\"tool_spec\":\x7b\"type\":\"cortex_search\",\"name\":\"T\"\x7d\x7d,"
    ++ "\x7b\"tool_spec\":\x7b\"type\":\"cortex_search\",\"name\":\"U\"\x7d\x7d],"
    ++ "\"tool_resources\":[\x7b\"name\":\"T\",\"search_service\":\"X\"\x7d,"
    ++ "\x7b\"name\":\"U\",\"search_service\":\"Y\"\x7d]\x7d"

def pairedBytes : List UInt8 := pairedText.toUTF8.toList

def pairedTree : Json :=
  .object [
    ("tools", .array [
      .object [("tool_spec", .object [("type", .string "cortex_search"), ("name", .string "T")])],
      .object [("tool_spec", .object [("type", .string "cortex_search"), ("name", .string "U")])]]),
    ("tool_resources", .array [
      .object [("name", .string "T"), ("search_service", .string "X")],
      .object [("name", .string "U"), ("search_service", .string "Y")]])]

set_option maxRecDepth 4000 in
theorem read_paired : Document.read "a.json" pairedBytes = .ok pairedTree.canonical := by
  have spelled : pairedText = String.ofList _ :=
    spelled_append (spelled_append (spelled_append (spelled_append rfl rfl) rfl) rfl) rfl
  exact Document.read_chars rfl spelled rfl

theorem rebuilt_from_own_document_reversed :
    ∃ a, ((builder .strict).build ⟨some "D", some "S", some "A"⟩ "a.json" pairedBytes).result =
        .ok a ∧
      Keyed.keys a.resources = ["T", "U"] ∧
      ((builder .strict).buildTree
        (a.document (Delivery.entries a.requestBody).reverse)).result = .ok a := by
  have succeeds : ∃ a, ((builder .strict).build ⟨some "D", some "S", some "A"⟩ "a.json"
      pairedBytes).result = .ok a ∧ Keyed.keys a.resources = ["T", "U"] := by
    rw [Builder.build, read_paired]
    decide
  obtain ⟨a, built, keys⟩ := succeeds
  have rebuilt := rebuilt_from_own_document (ofStore_eq_builder .strict) built
    (List.reverse_perm _)
  exact ⟨a, built, keys, rebuilt⟩

end AgentSchema
end AgentManifest
