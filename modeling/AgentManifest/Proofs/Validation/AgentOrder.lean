import Mathlib.Data.Finset.Card
import AgentManifest.Proofs.Validation.DocumentOrder
import AgentManifest.Schema.AgentSchema

/-! The agent schema reports in the order of the document. Its building blocks each bound one thing,
so a value breaks one of their rules at most, and its references stand alone. -/

namespace AgentManifest.AgentSchema

open SchemaStore

theorem compatible_of_unbounded {r : Rules} (listed : r.allowed = none)
    (noMost : r.maxLength = none) (noMaximum : r.maximum = none) (noMostItems : r.maxItems = none) :
    r.Compatible where
  listed := .inl listed
  text := by simp [noMost]
  number := by simp [noMaximum]
  size := by simp [noMostItems]

theorem orderly_definition (name : String) : (definition name).Orderly := by
  refine .intro (compatible_of_unbounded rfl rfl rfl rfl) .nil ?_ nofun nofun nofun
  rintro _ ⟨⟩
  rfl

/-- A schema without reference that says nothing of parts is orderly if its rules are compatible. -/
theorem orderly_leaf {r : Rules} (compatible : r.Compatible) (noneRequired : r.required = [])
    (noReference : r.reference = none) : Schema.Orderly { Schema.any with rules := r } := by
  refine .intro compatible ?_ ?_ nofun nofun nofun
  · rw [noneRequired]
    exact .nil
  · intro name reference
    cases noReference.symm.trans reference

theorem orderly_text : text.Orderly :=
  orderly_leaf (compatible_of_unbounded rfl rfl rfl rfl) rfl rfl

theorem orderly_filledText : filledText.Orderly :=
  orderly_leaf (compatible_of_unbounded rfl rfl rfl rfl) rfl rfl

theorem orderly_identifier : identifier.Orderly := by
  refine orderly_leaf ⟨.inl rfl, ?_, nofun, nofun⟩ rfl rfl
  rintro _ _ ⟨⟩ ⟨⟩
  decide

theorem orderly_positive : positive.Orderly :=
  orderly_leaf (compatible_of_unbounded rfl rfl rfl rfl) rfl rfl

theorem orderly_positiveTo {most : Nat}
    (atLeast : (Number.integer 1).toBinary64.key ≤ (Number.integer most).toBinary64.key) :
    (positiveTo most).Orderly := by
  refine orderly_leaf ⟨.inl rfl, nofun, ?_, nofun⟩ rfl rfl
  rintro _ _ ⟨⟩ ⟨⟩
  exact atLeast

theorem orderly_tree : tree.Orderly :=
  orderly_leaf (compatible_of_unbounded rfl rfl rfl rfl) rfl rfl

theorem orderly_oneOf (values : List String) : (oneOf values).Orderly := by
  refine orderly_leaf ⟨.inr fun v => ?_, nofun, nofun, nofun⟩ rfl rfl
  cases v <;> rfl

theorem orderly_listOf {items : Schema} (orderly : items.Orderly) : (listOf items).Orderly := by
  refine .intro (compatible_of_unbounded rfl rfl rfl rfl) .nil nofun ?_ nofun nofun
  rintro _ ⟨⟩
  exact orderly

theorem orderly_record {required : List String} {properties : Keyed Schema}
    (distinct : required.Nodup) (orderly : ∀ entry ∈ properties, entry.2.Orderly) :
    (record required properties).Orderly :=
  .intro (compatible_of_unbounded rfl rfl rfl rfl) distinct nofun nofun orderly nofun

theorem orderly_resourceEntry : resourceEntry.Orderly := by
  refine .intro (compatible_of_unbounded rfl rfl rfl rfl) (by decide) nofun nofun ?_ nofun
  simp [resourceEntry, orderly_definition]

theorem orderly_searchResource : searchResource.Orderly := by
  refine orderly_record (by decide) ?_
  simp only [List.forall_mem_cons, List.not_mem_nil, false_implies, implies_true, and_true]
  refine ⟨?_, orderly_tree, orderly_filledText, orderly_positiveTo (by decide),
    orderly_definition _, orderly_filledText⟩
  refine .intro (compatible_of_unbounded rfl rfl rfl rfl) .nil nofun ?_ nofun nofun
  rintro _ ⟨⟩
  exact orderly_filledText

theorem orderly_orchestration : orchestration.Orderly := by
  refine orderly_record .nil ?_
  simp only [List.forall_mem_singleton]
  refine orderly_record .nil ?_
  simp only [List.forall_mem_cons, List.not_mem_nil, false_implies, implies_true, and_true]
  exact ⟨orderly_positiveTo (by decide), orderly_positive⟩

theorem orderly_store : store.Orderly := by
  refine ⟨orderly_definition _, ?_⟩
  simp only [store, definitions, List.forall_mem_cons, List.not_mem_nil, false_implies,
    implies_true, and_true, orderly_identifier, orderly_orchestration, orderly_resourceEntry,
    orderly_searchResource, true_and]
  refine ⟨?_, ?_, ?_, ?_, ?_, ?_, ?_, ?_, ?_, ?_⟩
  all_goals
    refine orderly_record (by decide) ?_
    simp [orderly_text, orderly_filledText, orderly_positive, orderly_definition, orderly_oneOf,
      orderly_listOf, orderly_tree]

/-- Against every schema of the agent schema, a check reports what a value has in the order of the
document, which is a strict order. So it reports no place twice, the places it reports are the
faulty ones, and there are as many of them as violations. -/
theorem violations_in_document_order {s : Schema} (node : store.Node s) (path : String) {v : Json}
    (wellFormed : v.WellFormed) :
    IsStrictOrder FieldPath (store.Precedes s v) ∧
    (SubSchema.violations ⟨store, s, path⟩ v).Pairwise
      (fun first second => store.Precedes s v first.path second.path) ∧
    ((SubSchema.violations ⟨store, s, path⟩ v).map Violation.path).Nodup ∧
    ∃ faulty : Finset FieldPath, (∀ p, p ∈ faulty ↔ store.Faulty s v p) ∧
      (SubSchema.violations ⟨store, s, path⟩ v).length = faulty.card := by
  have ascending : (store.places s v).Pairwise (store.Precedes s v) :=
    orderly_store.pairwise_places (node.induction_on orderly_store.inherited) wellFormed
  have distinct : (store.places s v).Nodup := ascending.imp Precedes.ne
  refine ⟨isStrictOrder_precedes s v, List.pairwise_map.mp ascending, distinct, ?_⟩
  refine ⟨(store.places s v).toFinset, fun p => ?_, ?_⟩
  · rw [List.mem_toFinset, mem_places_iff_faulty]
  · rw [List.toFinset_card_of_nodup distinct]
    exact (List.length_map _).symm

/-- An agent that lacks two members, has one too many, and two that are wrong. -/
def faultyAgent : Json :=
  .object [("database_name", .string ""), ("extra", .null),
    ("tools", .array [.number (.integer 3)])]

theorem violations_in_document_order_faultyAgent :
    store.Node agent ∧ faultyAgent.WellFormed ∧
      (SubSchema.violations ⟨store, agent, agentPath⟩ faultyAgent).map Violation.path =
        [[.field "schema_name"], [.field "name"], [.field "database_name"], [.field "extra"],
          [.field "tools", .index 0]] ∧
      ∃ faulty : Finset FieldPath, (∀ p, p ∈ faulty ↔ store.Faulty agent faultyAgent p) ∧
        faulty.card = 5 := by
  have found : store.definition? "CortexAgent" = some agent := rfl
  have node : store.Node agent := .definition found
  have wellFormed : faultyAgent.WellFormed := by
    refine .object (by unfold Keyed.Ordered; decide) ?_
    simp only [List.forall_mem_cons, List.not_mem_nil, false_implies, implies_true, and_true]
    refine ⟨.string _, .null, .array ?_⟩
    simp only [List.forall_mem_singleton]
    exact .number rfl
  have paths : (SubSchema.violations ⟨store, agent, agentPath⟩ faultyAgent).map Violation.path =
      [[.field "schema_name"], [.field "name"], [.field "database_name"], [.field "extra"],
        [.field "tools", .index 0]] := by
    decide
  obtain ⟨-, -, -, faulty, places, count⟩ :=
    violations_in_document_order node agentPath wellFormed
  refine ⟨node, wellFormed, paths, faulty, places, ?_⟩
  rw [← count, ← List.length_map (f := Violation.path), paths]
  rfl

end AgentManifest.AgentSchema
