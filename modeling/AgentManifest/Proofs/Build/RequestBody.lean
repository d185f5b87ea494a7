import AgentManifest.Proofs.Build.Agreement
import AgentManifest.Proofs.Resolution.Issues

/-! What a built agent says when it is created is its document, edited: nothing that a document says
is lost on the way through the records and the join, and nothing is added. -/

namespace AgentManifest

open SchemaStore

namespace AgentSchema

variable {policy : MissingResourcePolicy}

/-- A resource writes the payload it was read from. -/
theorem written_of_takes {payload : Members} {t : ToolType} {resource : ToolResource}
    (wellFormed : (Json.object payload).WellFormed)
    (takes : Resolution.Takes (builder policy).resources payload t resource) :
    resource.toJson.canonical = .object payload := by
  cases takes with
  | analyst met decoded oneSource =>
      obtain ⟨conforms, rfl⟩ := conforms_of_validate "AnalystToolResource" rfl met
      obtain ⟨-, r, read, written⟩ := AnalystResource.restored _ wellFormed conforms
      rw [decoded] at read
      cases read
      exact written
  | search met decoded =>
      obtain ⟨conforms, rfl⟩ := conforms_of_validate "SearchToolResource" rfl met
      obtain ⟨-, r, read, written⟩ := SearchResource.restored _ wellFormed conforms
      rw [decoded] at read
      cases read
      exact written
  | generic met decoded =>
      obtain ⟨conforms, rfl⟩ := conforms_of_validate "GenericToolResource" rfl met
      obtain ⟨-, r, read, written⟩ := GenericResource.restored _ wellFormed conforms
      rw [decoded] at read
      cases read
      exact written

theorem written_of_joined {tools : List Tool} {entries : List ResourceEntry}
    {listed : List (String × ToolResource)}
    (payloads : ∀ e ∈ entries, (Json.object e.payload).WellFormed)
    (joined : List.Forall₂ (Resolution.Joined (builder policy).resources tools) entries listed) :
    (listed.map fun item => (item.1, item.2.toJson.canonical)) =
      entries.map fun e => (e.name, .object e.payload) := by
  induction joined with
  | nil => rfl
  | cons head tail ih =>
      obtain ⟨payload, payloads⟩ := List.forall_mem_cons.mp payloads
      obtain ⟨named, tool, found, taken⟩ := head
      rw [List.map_cons, List.map_cons, ih payloads, named, written_of_takes payload taken]

end AgentSchema

theorem Agent.canonical_resourcesJson {a : Agent} {listed : List (String × ToolResource)}
    (joined : a.resources = Keyed.ofList listed) :
    a.resourcesJson.canonical =
      .object (Keyed.ofList (listed.map fun item => (item.1, item.2.toJson.canonical))) := by
  have ordered := Keyed.ordered_ofList (listed.map fun item => (item.1, item.2.toJson.canonical))
  rw [Keyed.ofList_map fun resource : ToolResource => resource.toJson.canonical] at ordered ⊢
  rw [Agent.resourcesJson, Json.canonical, Json.canonicalMembers_eq_map, joined, List.map_map]
  exact congrArg Json.object (Keyed.ofList_of_ordered ordered)

/-- A request that keeps the members of a document, joined with the resources of its entries, says
what the document says. -/
theorem Agent.requestBody_of_keeps {r : CreateRequest} {members : Members}
    {resources : Keyed ToolResource} {listed : List (String × ToolResource)}
    (wellFormed : (Json.object members).WellFormed) (keeps : r.Keeps members)
    (distinct : (r.resources.map (·.name)).Nodup) (joined : resources = Keyed.ofList listed)
    (written : (listed.map fun item => (item.1, item.2.toJson.canonical)) =
      r.resources.map fun e => (e.name, .object e.payload)) :
    (Agent.ofRequest r resources).requestBody = Delivery.ofDocument (.object members) := by
  have names : listed.map (·.1) = r.resources.map (·.name) := by
    have both := congrArg (List.map Prod.fst) written
    rwa [List.map_map, List.map_map] at both
  have empty : resources.isEmpty = r.resources.isEmpty := by
    rw [joined, (Keyed.ofList_perm (names ▸ distinct)).isEmpty_eq, ← List.isEmpty_map, names,
      List.isEmpty_map]
  have resourcesJson := Agent.canonical_resourcesJson (a := .ofRequest r resources) joined
  rw [written] at resourcesJson
  refine Json.canonical_eq_edited ["name", "comment", "profile", "models", "instructions",
    "orchestration", "tools", "tool_resources"] wellFormed (by decide) keeps.known ?_
  have laid : (if resources.isEmpty then []
      else [("tool_resources", (Agent.ofRequest r resources).resourcesJson)]).map
        (fun m => (m.1, m.2.canonical)) =
      Keyed.piece Delivery.member "tool_resources" members := by
    rw [keeps.resources, empty]
    split
    · rfl
    · rw [List.map_singleton, resourcesJson]
  simp only [List.flatMap_cons, List.flatMap_nil, keeps.name, keeps.comment, keeps.profile,
    keeps.models, keeps.instructions, keeps.orchestration, keeps.tools, ← laid]
  simp only [Agent.behaviour, List.map_append, List.append_assoc, List.append_nil]
  rfl

namespace AgentSchema

variable {policy : MissingResourcePolicy} {b : Builder} {overrides : Overrides} {filename : String}
  {bytes : List UInt8} {a : Agent}

theorem requestBody_of_buildTree {v : Json} (wellFormed : v.WellFormed)
    (built : ((builder policy).buildTree v).result = .ok a) :
    a.requestBody = Delivery.ofDocument v ∧
      ∀ members entries, v = .object members →
        Keyed.get? "tool_resources" members = some (.array entries) →
          (entries.map Delivery.entryName).Nodup := by
  obtain ⟨conforms, r, resources, read, resolved, rfl⟩ := buildTree_eq_ok_iff.mp built
  obtain ⟨members, r', rfl, read', keeps⟩ := CreateRequest.read_of_conforms wellFormed conforms
  cases read.symm.trans read'
  obtain ⟨distinct, listed, joined, same⟩ := Resolution.joined_of_resolve resolved
  refine ⟨Agent.requestBody_of_keeps wellFormed keeps distinct same
    (written_of_joined keeps.payloads joined), ?_⟩
  rintro _ entries ⟨⟩ given
  rw [← keeps.entries entries given]
  exact distinct

/-- The body of the call that creates an agent is the document of the agent, once its members have
been overridden and with the edit of `Delivery` alone: whatever else the document says is said as it
stands. No two of its tool resource entries have one name, so giving them by name loses none. -/
theorem requestBody_eq_document (chosen : Builder.ofStore store policy = .ok b)
    (built : (b.build overrides filename bytes).result = .ok a) :
    ∃ v, Document.read filename bytes = .ok v ∧
      a.requestBody = Delivery.ofDocument (overrides.apply v) ∧
      ∀ members entries, overrides.apply v = .object members →
        Keyed.get? "tool_resources" members = some (.array entries) →
          (entries.map Delivery.entryName).Nodup := by
  rw [ofStore_eq_builder] at chosen
  cases chosen
  rw [Builder.build] at built
  split at built
  · cases built
  next v read =>
    have wellFormed := overrides.apply_wellFormed (Document.wellFormed_of_read read)
    exact ⟨v, read, requestBody_of_buildTree wellFormed built⟩

/-- A document that leaves its place and name to the overrides. -/
def unnamedText : String := "\x7b\"comment\":\"\",\"tools\":[],\"profile\":\x7b\x7d\x7d"

def unnamedBytes : List UInt8 := unnamedText.toUTF8.toList

theorem read_unnamed : Document.read "a.json" unnamedBytes =
    .ok (.object [("comment", .string ""), ("profile", .object []), ("tools", .array [])]) :=
  Document.read_chars (v := .object [("comment", .string ""), ("tools", .array []),
    ("profile", .object [])]) rfl rfl rfl

/-- The empty comment and the empty profile are delivered, the empty list of tools is not. -/
theorem requestBody_eq_document_unnamed :
    ∃ a, ((builder .strict).build ⟨some "D", some "S", some "A"⟩ "a.json" unnamedBytes).result =
        .ok a ∧
      a.requestBody =
        .object [("comment", .string ""), ("name", .string "A"), ("profile", .object [])] := by
  have succeeds : ∃ a, ((builder .strict).build ⟨some "D", some "S", some "A"⟩ "a.json"
      unnamedBytes).result = .ok a := by
    rw [Builder.build, read_unnamed]
    decide
  obtain ⟨a, built⟩ := succeeds
  obtain ⟨v, read, delivered, -⟩ := requestBody_eq_document (ofStore_eq_builder .strict) built
  rw [read_unnamed] at read
  cases read
  exact ⟨a, built, delivered⟩

end AgentSchema
end AgentManifest
