import AgentManifest.Proofs.Text.Lines
import AgentManifest.Proofs.Validation.Places

/-! The sentences on violations. What is said of a breach is on one line, since values are quoted
compactly. The path in front of it shows the names of fields as they are. -/

namespace AgentManifest

open Text

theorem JsonType.oneLine_name (t : JsonType) : OneLine t.name := by
  cases t <;> exact oneLine_ofList (by decide)

theorem JsonType.oneLine_names (types : List JsonType) :
    OneLine (" or ".intercalate (types.map JsonType.name)) := by
  have separator : OneLine " or " := oneLine_ofList (by decide)
  refine (oneLine_intercalate separator).mpr fun name inside => ?_
  obtain ⟨t, -, rfl⟩ := List.mem_map.mp inside
  exact t.oneLine_name

theorem Json.oneLine_listed (values : List Json) :
    OneLine (", ".intercalate (values.map Json.compact)) := by
  have separator : OneLine ", " := oneLine_ofList (by decide)
  refine (oneLine_intercalate separator).mpr fun text inside => ?_
  obtain ⟨v, -, rfl⟩ := List.mem_map.mp inside
  exact v.oneLine_compact

theorem Breach.oneLine_text (b : Breach) : OneLine b.text := by
  have found : OneLine ", found " := oneLine_ofList (by decide)
  cases b with
  | missing =>
      have sentence : OneLine "field is required" := oneLine_ofList (by decide)
      exact sentence
  | unknown =>
      have sentence : OneLine "field is not allowed" := oneLine_ofList (by decide)
      exact sentence
  | wrongType expected actual =>
      have lead : OneLine "expected " := oneLine_ofList (by decide)
      exact oneLine_pair lead (JsonType.oneLine_names expected) found actual.oneLine_name
  | notListed allowed actual =>
      have lead : OneLine "must be " := oneLine_ofList (by decide)
      have several : OneLine "must be one of [" := oneLine_ofList (by decide)
      have close : OneLine "], found " := oneLine_ofList (by decide)
      have listed := Json.oneLine_listed allowed
      unfold text
      dsimp only
      split
      · exact oneLine_pair lead listed found actual.oneLine_compact
      · exact oneLine_pair several listed close actual.oneLine_compact
  | shorter least actual =>
      have empty : OneLine "must not be empty" := oneLine_ofList (by decide)
      have lead : OneLine "must be at least " := oneLine_ofList (by decide)
      have rest : OneLine " characters, found " := oneLine_ofList (by decide)
      unfold text
      dsimp only
      split
      · exact empty
      · exact oneLine_pair lead (oneLine_nat least) rest (oneLine_nat actual)
  | longer most actual =>
      have lead : OneLine "must be at most " := oneLine_ofList (by decide)
      have rest : OneLine " characters, found " := oneLine_ofList (by decide)
      exact oneLine_pair lead (oneLine_nat most) rest (oneLine_nat actual)
  | fewer least actual =>
      have lead : OneLine "must contain at least " := oneLine_ofList (by decide)
      have rest : OneLine " item(s), found " := oneLine_ofList (by decide)
      exact oneLine_pair lead (oneLine_nat least) rest (oneLine_nat actual)
  | more most actual =>
      have lead : OneLine "must contain at most " := oneLine_ofList (by decide)
      have rest : OneLine " item(s), found " := oneLine_ofList (by decide)
      exact oneLine_pair lead (oneLine_nat most) rest (oneLine_nat actual)
  | below least actual =>
      have lead : OneLine "must be >= " := oneLine_ofList (by decide)
      exact oneLine_pair lead (oneLine_write _ least) found (oneLine_write _ actual)
  | above most actual =>
      have lead : OneLine "must be <= " := oneLine_ofList (by decide)
      exact oneLine_pair lead (oneLine_write _ most) found (oneLine_write _ actual)

/-- Whatever a check reports on is a breach. -/
theorem SchemaStore.exists_breach_of_findings {store : SchemaStore} {v : Json} {w : Violation} :
    ∀ s, .violation w ∈ store.findings s .root v → ∃ path b, w = .ofBreach path b := by
  induction v using Json.induction_on_parts generalizing w with
  | step v ih =>
      intro s found
      obtain ⟨t, -, reported⟩ := violation_mem_findings.mp found
      rcases mem_keywordReport.mp reported with ⟨b, -, same⟩ | ⟨-, inner⟩
      · cases same
        exact ⟨_, b, rfl⟩
      cases v with
      | array elements =>
          obtain ⟨items, -, i, element, given, inner⟩ := mem_innerReport_array.mp inner
          obtain ⟨own, within, rfl⟩ := violation_mem_findings_under.mp inner
          obtain ⟨path, b, rfl⟩ := ih element (.element (List.mem_of_getElem? given)) items within
          exact ⟨_, b, rfl⟩
      | object members =>
          rcases mem_innerReport_object.mp inner with ⟨name, -, same⟩ | ⟨member, inside, inner⟩
          · cases same
            exact ⟨_, _, rfl⟩
          unfold memberReport at inner
          split at inner
          · cases inner
          · cases List.mem_singleton.mp inner
            exact ⟨_, _, rfl⟩
          · obtain ⟨own, within, rfl⟩ := violation_mem_findings_under.mp inner
            obtain ⟨path, b, rfl⟩ := ih member.2 (.member inside) _ within
            exact ⟨_, b, rfl⟩
      | null | bool _ | number _ | string _ => cases inner

theorem SubSchema.oneLine_of_violations {sub : SubSchema} {v : Json} {w : Violation}
    (found : w ∈ sub.violations v) : OneLine w.message := by
  obtain ⟨_ | _, inside, same⟩ := List.mem_filterMap.mp found
  · cases same
    obtain ⟨path, b, rfl⟩ := SchemaStore.exists_breach_of_findings _ inside
    exact b.oneLine_text
  · cases same

namespace FieldPath

/-- The names of the fields on a path. -/
def names : FieldPath → List String
  | [] => []
  | .field name :: steps => name :: names steps
  | .index _ :: steps => names steps

theorem oneLine_steps (steps : FieldPath) :
    OneLine (String.join (steps.map stepText)) ↔ ∀ name ∈ names steps, OneLine name := by
  have dot : OneLine "." := oneLine_ofList (by decide)
  rw [oneLine_join]
  induction steps with
  | nil => exact iff_of_true nofun nofun
  | cons step steps ih =>
      rw [List.map_cons, List.forall_mem_cons]
      refine (and_congr_right' ih).trans ?_
      cases step with
      | field name =>
          rw [names, List.forall_mem_cons, stepText, oneLine_append, and_iff_right dot]
      | index position => exact and_iff_right (oneLine_index position)

/-- A path is on one line if the names on it are. -/
theorem oneLine_text (p : FieldPath) : OneLine p.text ↔ ∀ name ∈ p.names, OneLine name := by
  cases p with
  | nil =>
      have root : OneLine "$" := oneLine_ofList (by decide)
      exact iff_of_true root nofun
  | cons step steps =>
      rw [text, oneLine_append, oneLine_steps]
      cases step with
      | field name => rw [names, List.forall_mem_cons, firstText]
      | index position => exact and_iff_right (oneLine_index position)

end FieldPath

theorem Violation.oneLine_text {w : Violation} (plain : OneLine w.message) :
    OneLine w.text ↔ ∀ name ∈ w.path.names, OneLine name := by
  have colon : OneLine ": " := oneLine_ofList (by decide)
  simp [text, colon, plain, FieldPath.oneLine_text]

end AgentManifest
