import AgentManifest.Agent.Basic
import AgentManifest.Proofs.Record.Restored

/-! The records of an agent document against the schema of agent documents: each definition fits the
shape of its record and restores it. -/

namespace AgentManifest

open SchemaStore AgentSchema

namespace Profile

theorem fits : store.Fits AgentSchema.profile shape :=
  .record ⟨⟨_, rfl, .nullable .text⟩, ⟨_, rfl, .nullable .text⟩, ⟨_, rfl, .nullable .filledText⟩⟩
    (by decide)

theorem restored : store.Restores AgentSchema.profile read toJson id := by
  rw [← Json.edited_unchanged]
  refine Restores.record ["display_name", "avatar", "color"] fits (by decide) (by decide)
    fun members wellFormed record => ?_
  obtain ⟨displayName, readName, name⟩ :=
    Restores.filledText.option Keyed.unchanged "display_name" wellFormed record rfl fun _ => rfl
  obtain ⟨avatar, readAvatar, picture⟩ :=
    Restores.text.option Keyed.unchanged "avatar" wellFormed record rfl fun _ => rfl
  obtain ⟨color, readColor, tint⟩ :=
    Restores.text.option Keyed.unchanged "color" wellFormed record rfl fun _ => rfl
  refine ⟨⟨displayName, avatar, color⟩, _, ?_, rfl, ?_⟩
  · simp only [readName, readAvatar, readColor, ok_bind, pure_eq_ok]
  · simp [name, picture, tint]

end Profile

namespace ModelChoice

theorem fits : store.Fits AgentSchema.models shape := .record ⟨_, rfl, .filledText⟩ (by decide)

theorem restored : store.Restores AgentSchema.models read toJson id := by
  rw [← Json.edited_unchanged]
  refine Restores.record ["orchestration"] fits (by decide) (by decide)
    fun members wellFormed record => ?_
  obtain ⟨orchestration, readModel, model⟩ :=
    Restores.filledText.needed Keyed.unchanged "orchestration" wellFormed record (by decide) rfl
      fun _ => rfl
  refine ⟨⟨orchestration⟩, _, ?_, rfl, ?_⟩
  · simp only [readModel, ok_bind, pure_eq_ok]
  · simp [model]

end ModelChoice

namespace SampleQuestion

theorem fits : store.Fits AgentSchema.sampleQuestion shape :=
  .record ⟨⟨_, rfl, .nullable .text⟩, ⟨_, rfl, .filledText⟩⟩ (by decide)

theorem restored : store.Restores AgentSchema.sampleQuestion read toJson id := by
  rw [← Json.edited_unchanged]
  refine Restores.record ["question", "answer"] fits (by decide) (by decide)
    fun members wellFormed record => ?_
  obtain ⟨question, readQuestion, asked⟩ :=
    Restores.filledText.needed Keyed.unchanged "question" wellFormed record (by decide) rfl
      fun _ => rfl
  obtain ⟨answer, readAnswer, answered⟩ :=
    Restores.text.option Keyed.unchanged "answer" wellFormed record rfl fun _ => rfl
  refine ⟨⟨question, answer⟩, _, ?_, rfl, ?_⟩
  · simp only [readQuestion, readAnswer, ok_bind, pure_eq_ok]
  · simp [asked, answered]

end SampleQuestion

namespace Instructions

/-- Instructions keep every member but an empty list of sample questions. -/
def keep (key : String) (v : Json) : Option Json :=
  match key, v with
  | "sample_questions", .array [] => none
  | _, v => some v

theorem fits : store.Fits AgentSchema.instructions shape :=
  .record ⟨⟨_, rfl, .nullable .text⟩, ⟨_, rfl, .nullable .text⟩,
    ⟨_, rfl, .list (SampleQuestion.fits.definition rfl) rfl rfl⟩, ⟨_, rfl, .nullable .text⟩⟩
    (by decide)

theorem restored : store.Restores AgentSchema.instructions read toJson (Json.edited keep) := by
  refine Restores.record ["response", "orchestration", "system", "sample_questions"] fits
    (by decide) (by decide) fun members wellFormed record => ?_
  obtain ⟨response, readResponse, answer⟩ :=
    Restores.text.option keep "response" wellFormed record rfl fun _ => rfl
  obtain ⟨orchestration, readOrchestration, plan⟩ :=
    Restores.text.option keep "orchestration" wellFormed record rfl fun _ => rfl
  obtain ⟨system, readSystem, lead⟩ :=
    Restores.text.option keep "system" wellFormed record rfl fun _ => rfl
  obtain ⟨questions, readQuestions, samples⟩ :=
    (SampleQuestion.restored.definition rfl).list keep "sample_questions" wellFormed record rfl rfl
      rfl (fun _ => rfl) fun _ _ => rfl
  refine ⟨⟨response, orchestration, system, questions⟩, _, ?_, rfl, ?_⟩
  · simp only [readResponse, readOrchestration, readSystem, readQuestions, ok_bind, pure_eq_ok]
  · simp [answer, plan, lead, samples]

end Instructions

namespace Budget

/-- The schema of a budget. -/
def schema : Schema :=
  AgentSchema.record [] [("seconds", positiveTo 3600), ("tokens", positive)]

theorem fits : store.Fits schema shape :=
  .record ⟨⟨_, rfl, .nullable (.positiveTo (by decide) (by decide))⟩, ⟨_, rfl, .nullable .positive⟩⟩
    (by decide)

theorem restored : store.Restores schema read toJson id := by
  rw [← Json.edited_unchanged]
  refine Restores.record ["seconds", "tokens"] fits (by decide) (by decide)
    fun members wellFormed record => ?_
  obtain ⟨seconds, readSeconds, time⟩ :=
    (Restores.positiveTo 32 (by decide) (by decide)).option Keyed.unchanged "seconds" wellFormed
      record rfl fun _ => rfl
  obtain ⟨tokens, readTokens, size⟩ :=
    Restores.positive.option Keyed.unchanged "tokens" wellFormed record rfl fun _ => rfl
  refine ⟨⟨seconds, tokens⟩, _, ?_, rfl, ?_⟩
  · simp only [readSeconds, readTokens, ok_bind, pure_eq_ok]
  · simp [time, size]

end Budget

namespace Orchestration

theorem fits : store.Fits AgentSchema.orchestration shape :=
  .record ⟨_, rfl, .nullable Budget.fits⟩ (by decide)

theorem restored : store.Restores AgentSchema.orchestration read toJson id := by
  rw [← Json.edited_unchanged]
  refine Restores.record ["budget"] fits (by decide) (by decide) fun members wellFormed record => ?_
  obtain ⟨budget, readBudget, cost⟩ :=
    Budget.restored.option Keyed.unchanged "budget" wellFormed record rfl fun _ => rfl
  refine ⟨⟨budget⟩, _, ?_, rfl, ?_⟩
  · simp only [readBudget, ok_bind, pure_eq_ok]
  · simp [cost]

end Orchestration

namespace ToolType

theorem fits : store.Fits (oneOf (all.map name)) shape := .oneOf

theorem restored : store.Restores (oneOf (all.map name)) read (fun t => .string t.name) id := by
  refine Restores.oneOf fun given inside => ?_
  obtain ⟨t, listed, rfl⟩ := List.mem_map.mp inside
  cases t <;> exact ⟨_, rfl, rfl⟩

end ToolType

namespace Tool

/-- The record inside a tool, written. -/
def specificationJson (t : Tool) : Json :=
  .object ([("type", .string t.toolType.name), ("name", .string t.name)]
    ++ givenMember "description" .string t.description
    ++ givenMember "input_schema" id t.inputSchema)

theorem specification_fits : store.Fits toolSpecification specificationShape :=
  .record ⟨⟨_, rfl, .nullable .text⟩, ⟨_, rfl, .nullable .tree⟩,
    ⟨_, rfl, Fits.identifier.definition rfl⟩, ⟨_, rfl, ToolType.fits⟩⟩ (by decide)

theorem specification_restored :
    store.Restores toolSpecification readSpecification specificationJson id := by
  rw [← Json.edited_unchanged]
  refine Restores.record ["type", "name", "description", "input_schema"] specification_fits
    (by decide) (by decide) fun members wellFormed record => ?_
  obtain ⟨toolType, readType, kind⟩ :=
    ToolType.restored.needed Keyed.unchanged "type" wellFormed record (by decide) rfl fun _ => rfl
  obtain ⟨name, readName, title⟩ :=
    (Restores.identifier.definition rfl).needed Keyed.unchanged "name" wellFormed record (by decide)
      rfl fun _ => rfl
  obtain ⟨description, readDescription, words⟩ :=
    Restores.text.option Keyed.unchanged "description" wellFormed record rfl fun _ => rfl
  obtain ⟨inputSchema, readInput, input⟩ :=
    Restores.tree.option Keyed.unchanged "input_schema" wellFormed record rfl fun _ => rfl
  refine ⟨⟨toolType, name, description, inputSchema⟩, _, ?_, rfl, ?_⟩
  · simp only [readType, readName, readDescription, readInput, ok_bind, pure_eq_ok]
  · simp [kind, title, words, input]

theorem fits : store.Fits tool shape :=
  .record ⟨_, rfl, specification_fits.definition rfl⟩ (by decide)

theorem restored : store.Restores tool read toJson id := by
  rw [← Json.edited_unchanged]
  refine Restores.record ["tool_spec"] fits (by decide) (by decide)
    fun members wellFormed record => ?_
  obtain ⟨t, readTool, written⟩ := (specification_restored.definition rfl).needed Keyed.unchanged
    "tool_spec" wellFormed record (by decide) rfl fun _ => rfl
  refine ⟨t, [("tool_spec", t.specificationJson)], readTool, rfl, ?_⟩
  simp [written]

end Tool
end AgentManifest
