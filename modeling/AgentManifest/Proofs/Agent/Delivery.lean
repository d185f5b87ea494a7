import AgentManifest.Proofs.Agent.Request

/-! What of an agent document reaches the service. `Delivery.ofDocument` edits the members of the
document one by one; the record of a request keeps what is needed to write them so. -/

namespace AgentManifest

namespace Delivery

/-- The name that a tool resource entry gives. -/
def entryName : Json → String
  | .object members =>
    match Keyed.get? "name" members with
    | some (.string name) => name
    | _ => ""
  | _ => ""

/-- A tool resource entry without its name. -/
def entryPayload : Json → Json
  | .object members => .object (Keyed.erase "name" members)
  | v => v

/-- Tool resource entries without their names, each under its name. -/
def byName (entries : List Json) : Json :=
  .object (Keyed.ofList (entries.map fun entry => (entryName entry, entryPayload entry)))

/-- What becomes of a member of a document. Where the agent lives is said elsewhere, and empty lists
are left out; tool resources are given by name, and all else as it stands. -/
def member (key : String) (v : Json) : Option Json :=
  match key, v with
  | "database_name", _ => none
  | "schema_name", _ => none
  | "tools", .array [] => none
  | "tool_resources", .array [] => none
  | "tool_resources", .array entries => some (byName entries)
  | "instructions", v => some (v.edited Instructions.keep)
  | _, v => some v

theorem member_noResources : member "tool_resources" (.array []) = none := rfl

theorem member_resources (first : Json) (rest : List Json) :
    member "tool_resources" (.array (first :: rest)) = some (byName (first :: rest)) := rfl

/-- What of a document the service is told. -/
def ofDocument (v : Json) : Json := v.edited member

example : ofDocument (.object [("name", .string "A"), ("tool_resources", .array [
    .object [("name", .string "T"), ("search_service", .string "S")]]), ("tools", .array [])]) =
    .object [("name", .string "A"), ("tool_resources",
      .object [("T", .object [("search_service", .string "S")])])] := by
  rfl

end Delivery

open SchemaStore AgentSchema

namespace ResourceEntry

/-- What conforms to the schema of entries is an object with a text as its name. -/
theorem named_of_conforms {v : Json} (conforms : store.Conforms resourceEntry v) :
    ∃ members name, v = .object members ∧ Keyed.get? "name" members = some (.string name) := by
  obtain ⟨members, rfl⟩ := JsonType.object_of_admits (conforms.ofType rfl)
  have asked := conforms.asks
  obtain ⟨v, given⟩ := Option.isSome_iff_exists.mp
    (Keyed.contains_iff.mpr (asked.required members rfl "name" (by decide)))
  have met := asked.properties members rfl "name" v (Keyed.mem_of_get? given) _ rfl
  obtain ⟨name, rfl, bounds⟩ := (met.definition rfl).identifier
  exact ⟨members, name, rfl, given⟩

theorem fits : store.Fits resourceEntry shape := by
  intro v wellFormed conforms
  obtain ⟨members, name, rfl, given⟩ := named_of_conforms conforms
  rw [shape, Shape.check, show List.lookup "name" members = some (.string name) from given]

theorem read_of_conforms {v : Json} (wellFormed : v.WellFormed)
    (conforms : store.Conforms resourceEntry v) :
    ∃ e, read v = .ok e ∧
      (e.name, Json.object e.payload) = (Delivery.entryName v, Delivery.entryPayload v) ∧
      (Json.object e.payload).WellFormed := by
  have checked := fits v wellFormed conforms
  obtain ⟨members, name, rfl, given⟩ := named_of_conforms conforms
  refine ⟨⟨name, Keyed.erase "name" members⟩, Reading.record_eq_ok checked ?_, ?_, wellFormed.erase⟩
  · rw [neededMember, show List.lookup "name" members = some (.string name) from given]
    rfl
  · rw [Delivery.entryName, given, Delivery.entryPayload]

theorem all_of_conforms {elements : List Json} (wellFormed : ∀ v ∈ elements, v.WellFormed)
    (conforms : ∀ v ∈ elements, store.Conforms resourceEntry v) :
    ∃ entries, Reading.all read elements = .ok entries ∧
      (entries.map fun e => (e.name, Json.object e.payload)) =
        elements.map (fun v => (Delivery.entryName v, Delivery.entryPayload v)) ∧
      ∀ e ∈ entries, (Json.object e.payload).WellFormed := by
  induction elements with
  | nil => exact ⟨[], rfl, rfl, by simp⟩
  | cons first rest ih =>
      obtain ⟨wellFormed_first, wellFormed_rest⟩ := List.forall_mem_cons.mp wellFormed
      obtain ⟨conforms_first, conforms_rest⟩ := List.forall_mem_cons.mp conforms
      obtain ⟨e, readFirst, same, payload⟩ := read_of_conforms wellFormed_first conforms_first
      obtain ⟨entries, readRest, sameRest, payloads⟩ := ih wellFormed_rest conforms_rest
      refine ⟨e :: entries, ?_, ?_, List.forall_mem_cons.mpr ⟨payload, payloads⟩⟩
      · simp [Reading.all, readFirst, readRest]
      · rw [List.map_cons, List.map_cons, same, sameRest]

end ResourceEntry

namespace CreateRequest

theorem fits : store.Fits agent shape :=
  .record ⟨⟨_, rfl, .nullable .text⟩, ⟨_, rfl, Fits.identifier.definition rfl⟩,
    ⟨_, rfl, .nullable (Instructions.fits.definition rfl)⟩,
    ⟨_, rfl, .nullable (ModelChoice.fits.definition rfl)⟩,
    ⟨_, rfl, Fits.identifier.definition rfl⟩,
    ⟨_, rfl, .nullable (Orchestration.fits.definition rfl)⟩,
    ⟨_, rfl, .nullable (Profile.fits.definition rfl)⟩,
    ⟨_, rfl, Fits.identifier.definition rfl⟩,
    ⟨_, rfl, .list (ResourceEntry.fits.definition rfl) rfl rfl⟩,
    ⟨_, rfl, .list (Tool.fits.definition rfl) rfl rfl⟩⟩ (by decide)

/-- What a request keeps of the members of its document: each, edited, is what the request
writes. -/
structure Keeps (r : CreateRequest) (members : Members) : Prop where
  name : Keyed.piece Delivery.member "name" members = [("name", .string r.name)]
  comment : Keyed.piece Delivery.member "comment" members =
    (givenMember "comment" .string r.comment).map fun m => (m.1, m.2.canonical)
  profile : Keyed.piece Delivery.member "profile" members =
    (givenMember "profile" Profile.toJson r.profile).map fun m => (m.1, m.2.canonical)
  models : Keyed.piece Delivery.member "models" members =
    (givenMember "models" ModelChoice.toJson r.models).map fun m => (m.1, m.2.canonical)
  instructions : Keyed.piece Delivery.member "instructions" members =
    (givenMember "instructions" Instructions.toJson r.instructions).map
      fun m => (m.1, m.2.canonical)
  orchestration : Keyed.piece Delivery.member "orchestration" members =
    (givenMember "orchestration" Orchestration.toJson r.orchestration).map
      fun m => (m.1, m.2.canonical)
  tools : Keyed.piece Delivery.member "tools" members =
    (filledMember "tools" Tool.toJson r.tools).map fun m => (m.1, m.2.canonical)
  resources : Keyed.piece Delivery.member "tool_resources" members =
    if r.resources.isEmpty then []
    else [("tool_resources",
      .object (Keyed.ofList (r.resources.map fun e => (e.name, .object e.payload))))]
  payloads : ∀ e ∈ r.resources, (Json.object e.payload).WellFormed
  entries : ∀ elements, Keyed.get? "tool_resources" members = some (.array elements) →
    r.resources.map (·.name) = elements.map Delivery.entryName
  known : ∀ key v, Keyed.get? key members = some v → (Delivery.member key v).isSome →
    key ∈ ["name", "comment", "profile", "models", "instructions", "orchestration", "tools",
      "tool_resources"]

theorem known_of_record {members : Members}
    (record : RecordOf store ["database_name", "schema_name", "name"] agent.properties members)
    {key : String} {v : Json} (given : Keyed.get? key members = some v)
    (kept : (Delivery.member key v).isSome) :
    key ∈ ["name", "comment", "profile", "models", "instructions", "orchestration", "tools",
      "tool_resources"] := by
  have listed : key ∈ ["database_name", "schema_name", "name", "comment", "profile", "models",
      "instructions", "orchestration", "tools", "tool_resources"] :=
    record.name_mem given (by decide)
  rcases List.mem_cons.mp listed with rfl | listed
  · cases kept
  rcases List.mem_cons.mp listed with rfl | listed
  · cases kept
  exact listed

theorem resources_of_record {members : Members} (wellFormed : (Json.object members).WellFormed)
    (record : RecordOf store ["database_name", "schema_name", "name"] agent.properties members) :
    ∃ entries, listMember "tool_resources" ResourceEntry.read members = .ok entries ∧
      (Keyed.piece Delivery.member "tool_resources" members =
        if entries.isEmpty then []
        else [("tool_resources",
          .object (Keyed.ofList (entries.map fun e => (e.name, .object e.payload))))]) ∧
      (∀ e ∈ entries, (Json.object e.payload).WellFormed) ∧
      ∀ elements, Keyed.get? "tool_resources" members = some (.array elements) →
        entries.map (·.name) = elements.map Delivery.entryName := by
  cases given : Keyed.get? "tool_resources" members with
  | none =>
      refine ⟨[], ?_, ?_, by simp, by simp⟩
      · rw [listMember, optionalMember,
          show List.lookup "tool_resources" members = none from given]
      · simp [Keyed.piece, given]
  | some v =>
      obtain ⟨elements, rfl, each⟩ := Conforms.listOf (record.field rfl given)
      cases wellFormed.member given with
      | array wellFormed_each =>
          obtain ⟨entries, readAll, same, payloads⟩ := ResourceEntry.all_of_conforms wellFormed_each
            fun element inside => (each element inside).definition rfl
          refine ⟨entries, ?_, ?_, payloads, ?_⟩
          · rw [listMember, optionalMember,
              show List.lookup "tool_resources" members = some (.array elements) from given]
            exact readAll
          · rw [same]
            cases elements with
            | nil =>
                have none : entries = [] := List.map_eq_nil_iff.mp same
                simp [Keyed.piece, given, none, Delivery.member_noResources]
            | cons first rest =>
                have some_ : entries ≠ [] := fun empty => by simp [empty] at same
                simp [Keyed.piece, given, some_, Delivery.member_resources, Delivery.byName]
          · rintro _ ⟨⟩
            have names := congrArg (List.map Prod.fst) same
            rwa [List.map_map, List.map_map] at names

/-- A document that conforms is read as a request that keeps its members. -/
theorem read_of_conforms {v : Json} (wellFormed : v.WellFormed)
    (conforms : store.Conforms agent v) :
    ∃ members r, v = .object members ∧ read v = .ok r ∧ r.Keeps members := by
  have checked := fits v wellFormed conforms
  obtain ⟨members, rfl, record⟩ := recordOf_of_conforms conforms
  obtain ⟨database, readDatabase, -⟩ :=
    (Restores.identifier.definition rfl).needed Keyed.unchanged "database_name" wellFormed record
      (by decide) rfl fun _ => rfl
  obtain ⟨schema, readSchema, -⟩ :=
    (Restores.identifier.definition rfl).needed Keyed.unchanged "schema_name" wellFormed record
      (by decide) rfl fun _ => rfl
  obtain ⟨name, readName, keepsName⟩ :=
    (Restores.identifier.definition rfl).needed Delivery.member "name" wellFormed record (by decide)
      rfl fun _ => rfl
  obtain ⟨comment, readComment, keepsComment⟩ :=
    Restores.text.option Delivery.member "comment" wellFormed record rfl fun _ => rfl
  obtain ⟨profile, readProfile, keepsProfile⟩ :=
    (Profile.restored.definition rfl).option Delivery.member "profile" wellFormed record rfl
      fun _ => rfl
  obtain ⟨models, readModels, keepsModels⟩ :=
    (ModelChoice.restored.definition rfl).option Delivery.member "models" wellFormed record rfl
      fun _ => rfl
  obtain ⟨instructions, readInstructions, keepsInstructions⟩ :=
    (Instructions.restored.definition rfl).option Delivery.member "instructions" wellFormed record
      rfl fun _ => rfl
  obtain ⟨orchestration, readOrchestration, keepsOrchestration⟩ :=
    (Orchestration.restored.definition rfl).option Delivery.member "orchestration" wellFormed record
    rfl fun _ => rfl
  obtain ⟨tools, readTools, keepsTools⟩ :=
    (Tool.restored.definition rfl).list Delivery.member "tools" wellFormed record rfl rfl rfl
      (fun _ => rfl) fun _ _ => rfl
  obtain ⟨resources, readResources, keepsResources, payloads, entries⟩ :=
    resources_of_record wellFormed record
  refine ⟨members, ⟨database, schema, name, comment, profile, models, instructions, orchestration,
    tools, resources⟩, rfl, Reading.record_eq_ok checked ?_, ?_⟩
  · simp only [readDatabase, readSchema, readName, readComment, readProfile, readModels,
      readInstructions, readOrchestration, readTools, readResources, ok_bind, pure_eq_ok]
  · exact ⟨keepsName, keepsComment, keepsProfile, keepsModels, keepsInstructions,
      keepsOrchestration, keepsTools, keepsResources, payloads, entries,
      fun key v => known_of_record record⟩

end CreateRequest
end AgentManifest
