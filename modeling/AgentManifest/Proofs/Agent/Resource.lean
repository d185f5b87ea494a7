import AgentManifest.Proofs.Record.Restored

/-! The tool resources against the schema of agent documents: each definition fits the shape of its
record and restores it, with nothing left out. -/

namespace AgentManifest

open SchemaStore AgentSchema

namespace ExecutionEnvironment

theorem fits : store.Fits AgentSchema.environment shape :=
  .record ⟨⟨_, rfl, .nullable .positive⟩, ⟨_, rfl, .oneOf⟩,
    ⟨_, rfl, Fits.identifier.definition rfl⟩⟩ (by decide)

/-- There is one type of environments, so it is written without having been read. -/
theorem restored : store.Restores AgentSchema.environment read toJson id := by
  rw [← Json.edited_unchanged]
  refine Restores.record ["type", "warehouse", "query_timeout"] fits (by decide) (by decide)
    fun members wellFormed record => ?_
  have kind : Keyed.piece Keyed.unchanged "type" members = [("type", .string "warehouse")] := by
    obtain ⟨v, given⟩ := record.required "type" (by decide)
    obtain ⟨name, inside, rfl⟩ := Conforms.oneOf (record.field rfl given)
    rw [List.mem_singleton.mp inside] at given
    simp [Keyed.piece, given]
  obtain ⟨warehouse, readWarehouse, place⟩ :=
    (Restores.identifier.definition rfl).needed Keyed.unchanged "warehouse" wellFormed record
      (by decide) rfl fun _ => rfl
  obtain ⟨timeout, readTimeout, time⟩ :=
    Restores.positive.option Keyed.unchanged "query_timeout" wellFormed record rfl fun _ => rfl
  refine ⟨⟨warehouse, timeout⟩, _, ?_, rfl, ?_⟩
  · simp only [readWarehouse, readTimeout, ok_bind, pure_eq_ok]
  · simp [kind, place, time, Json.canonical]

end ExecutionEnvironment

namespace AnalystResource

theorem fits : store.Fits AgentSchema.analystResource shape :=
  .record ⟨⟨_, rfl, .nullable (ExecutionEnvironment.fits.definition rfl)⟩,
    ⟨_, rfl, .nullable .filledText⟩, ⟨_, rfl, .nullable (Fits.identifier.definition rfl)⟩⟩
    (by decide)

theorem restored : store.Restores AgentSchema.analystResource read toJson id := by
  rw [← Json.edited_unchanged]
  refine Restores.record ["semantic_view", "semantic_model_file", "execution_environment"] fits
    (by decide) (by decide) fun members wellFormed record => ?_
  obtain ⟨view, readView, shown⟩ :=
    (Restores.identifier.definition rfl).option Keyed.unchanged "semantic_view" wellFormed record
      rfl fun _ => rfl
  obtain ⟨file, readFile, stored⟩ :=
    Restores.filledText.option Keyed.unchanged "semantic_model_file" wellFormed record rfl
      fun _ => rfl
  obtain ⟨environment, readEnvironment, place⟩ :=
    (ExecutionEnvironment.restored.definition rfl).option Keyed.unchanged "execution_environment"
      wellFormed record rfl fun _ => rfl
  refine ⟨⟨view, file, environment⟩, _, ?_, rfl, ?_⟩
  · simp only [readView, readFile, readEnvironment, ok_bind, pure_eq_ok]
  · simp [shown, stored, place]

end AnalystResource

namespace SearchResource

theorem fits : store.Fits AgentSchema.searchResource shape :=
  .record ⟨⟨_, rfl, .list .filledText rfl rfl⟩, ⟨_, rfl, .nullable .tree⟩,
    ⟨_, rfl, .nullable .filledText⟩, ⟨_, rfl, .nullable (.positiveTo (by decide) (by decide))⟩,
    ⟨_, rfl, Fits.identifier.definition rfl⟩, ⟨_, rfl, .nullable .filledText⟩⟩ (by decide)

/-- Columns are never empty, so leaving out empty ones leaves out nothing. -/
theorem restored : store.Restores AgentSchema.searchResource read toJson id := by
  rw [← Json.edited_unchanged]
  refine Restores.record
    ["search_service", "max_results", "filter", "id_column", "title_column", "columns"] fits
    (by decide) (by decide) fun members wellFormed record => ?_
  have filled : Keyed.get? "columns" members ≠ some (.array []) := by
    intro given
    have conforms := record.field rfl given
    obtain ⟨least, most⟩ := conforms.asks.own.size [] rfl
    exact absurd (least 1 rfl) (by decide)
  obtain ⟨service, readService, source⟩ :=
    (Restores.identifier.definition rfl).needed Keyed.unchanged "search_service" wellFormed record
      (by decide) rfl fun _ => rfl
  obtain ⟨maxResults, readMax, most⟩ :=
    (Restores.positiveTo 32 (by decide) (by decide)).option Keyed.unchanged "max_results" wellFormed
      record rfl fun _ => rfl
  obtain ⟨filter, readFilter, kept⟩ :=
    Restores.tree.option Keyed.unchanged "filter" wellFormed record rfl fun _ => rfl
  obtain ⟨idColumn, readId, key⟩ :=
    Restores.filledText.option Keyed.unchanged "id_column" wellFormed record rfl fun _ => rfl
  obtain ⟨titleColumn, readTitle, title⟩ :=
    Restores.filledText.option Keyed.unchanged "title_column" wellFormed record rfl fun _ => rfl
  obtain ⟨columns, readColumns, listed⟩ :=
    Restores.filledText.list Keyed.unchanged "columns" wellFormed record rfl rfl rfl (fun given =>
      absurd given filled) fun _ _ => rfl
  refine ⟨⟨service, maxResults, filter, idColumn, titleColumn, columns⟩, _, ?_, rfl, ?_⟩
  · simp only [readService, readMax, readFilter, readId, readTitle, readColumns, ok_bind,
      pure_eq_ok]
  · simp [source, most, kept, key, title, listed]

end SearchResource

namespace RoutineKind

theorem restored :
    store.Restores (oneOf ["function", "procedure"]) read (fun k => .string k.name) id := by
  refine Restores.oneOf fun given inside => ?_
  rcases List.mem_pair.mp inside with rfl | rfl
  · exact ⟨.function, rfl, rfl⟩
  · exact ⟨.procedure, rfl, rfl⟩

end RoutineKind

namespace GenericResource

theorem fits : store.Fits AgentSchema.genericResource shape :=
  .record ⟨⟨_, rfl, ExecutionEnvironment.fits.definition rfl⟩,
    ⟨_, rfl, Fits.identifier.definition rfl⟩, ⟨_, rfl, .oneOf⟩⟩ (by decide)

theorem restored : store.Restores AgentSchema.genericResource read toJson id := by
  rw [← Json.edited_unchanged]
  refine Restores.record ["type", "identifier", "execution_environment"] fits (by decide)
    (by decide) fun members wellFormed record => ?_
  obtain ⟨kind, readKind, sort⟩ :=
    RoutineKind.restored.needed Keyed.unchanged "type" wellFormed record (by decide) rfl fun _ => rfl
  obtain ⟨identifier, readIdentifier, name⟩ :=
    (Restores.identifier.definition rfl).needed Keyed.unchanged "identifier" wellFormed record
      (by decide) rfl fun _ => rfl
  obtain ⟨environment, readEnvironment, place⟩ :=
    (ExecutionEnvironment.restored.definition rfl).needed Keyed.unchanged "execution_environment"
      wellFormed record (by decide) rfl fun _ => rfl
  refine ⟨⟨kind, identifier, environment⟩, _, ?_, rfl, ?_⟩
  · simp only [readKind, readIdentifier, readEnvironment, ok_bind, pure_eq_ok]
  · simp [sort, name, place]

end GenericResource
end AgentManifest
