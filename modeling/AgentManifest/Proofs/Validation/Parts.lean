import Mathlib.Data.List.Basic
import AgentManifest.Proofs.Schema.Compiled
import AgentManifest.Proofs.Schema.LoneReferences
import AgentManifest.Schema.Document

/-! What a value has against a schema, place by place. Where references stand alone, the violations
inside a member or an element are those that it has, taken by itself, against the part of the schema
that a longer path chooses. -/

namespace AgentManifest

/-- The same finding in a tree of which the value is a part. -/
def Finding.under (lead : FieldPath) : Finding → Finding
  | .violation v => .violation (v.under lead)
  | .endlessReference target path => .endlessReference target (path.under lead)

namespace SchemaStore

variable {store : SchemaStore} {s t : Schema} {path lead : FieldPath} {v : Json}
variable {members : List (String × Json)} {elements : List Json} {key : String}

theorem alongReferences_under {report report' : Schema → List Finding}
    (moved : ∀ t, report' t = (report t).map (·.under lead)) :
    store.alongReferences s (path.under lead) report' =
      (store.alongReferences s path report).map (·.under lead) := by
  obtain rfl : report' = fun t => (report t).map (·.under lead) := funext moved
  simp only [alongReferences, List.map_append, List.map_flatMap]
  split <;> rfl

theorem ownFindings_under {r : Rules} :
    ownFindings r (path.under lead) v = (ownFindings r path v).map (·.under lead) := by
  simp only [ownFindings, List.map_map]
  rfl

theorem field_under : (path.under lead).field key = (path.field key).under lead :=
  List.append_assoc ..

theorem index_under {position : Nat} :
    (path.under lead).index position = (path.index position).under lead :=
  List.append_assoc ..

theorem missingFindings_under {r : Rules} : missingFindings r (path.under lead) members =
    (missingFindings r path members).map (·.under lead) := by
  simp only [missingFindings, List.map_map, field_under]
  rfl

mutual

/-- What a value has against a schema does not depend on where it stands. -/
theorem findings_under (lead : FieldPath) : (v : Json) → (s : Schema) → (path : FieldPath) →
    store.findings s (path.under lead) v = (store.findings s path v).map (·.under lead)
  | .array elements, s, path => by
      rw [findings, findings]
      refine alongReferences_under fun t => ?_
      rw [List.map_append, ownFindings_under]
      split
      next items _ _ => rw [elementFindings_under lead elements]
      next => rfl
  | .object members, s, path => by
      rw [findings, findings]
      refine alongReferences_under fun t => ?_
      rw [List.map_append, ownFindings_under]
      split
      · rw [List.map_append, missingFindings_under, memberFindings_under lead members]
      · rfl
  | .null, s, path | .bool _, s, path | .number _, s, path | .string _, s, path => by
      simp only [findings]
      exact alongReferences_under fun t => ownFindings_under

theorem elementFindings_under (lead : FieldPath) : (elements : List Json) → (s : Schema) →
    (path : FieldPath) → (position : Nat) →
    store.elementFindings s (path.under lead) position elements =
      (store.elementFindings s path position elements).map (·.under lead)
  | [], _, _, _ => rfl
  | v :: rest, s, path, position => by
      rw [elementFindings, elementFindings, List.map_append, index_under, findings_under lead v,
        elementFindings_under lead rest]

theorem memberFindings_under (lead : FieldPath) : (members : List (String × Json)) → (s : Schema) →
    (path : FieldPath) →
    store.memberFindings s (path.under lead) members =
      (store.memberFindings s path members).map (·.under lead)
  | [], _, _ => rfl
  | (key, v) :: rest, s, path => by
      rw [memberFindings, memberFindings, List.map_append, memberFindings_under lead rest]
      congr 1
      split
      · rfl
      · rw [field_under]
        rfl
      · rw [field_under, findings_under lead v]

end

end SchemaStore

/-- The violations that lie within a step from the root. -/
def violationsIn (step : PathStep) (found : List Finding) : List Violation :=
  (found.filterMap Finding.violation?).filter (·.path.head? = some step)

@[simp] theorem violationsIn_nil {step : PathStep} : violationsIn step [] = [] := rfl

@[simp] theorem violationsIn_append {step : PathStep} {first second : List Finding} :
    violationsIn step (first ++ second) = violationsIn step first ++ violationsIn step second := by
  simp [violationsIn, List.filterMap_append]

@[simp] theorem violationsIn_violation {step : PathStep} {path : FieldPath} {b : Breach} :
    violationsIn step [.violation (.ofBreach path b)] =
      if path.head? = some step then [.ofBreach path b] else [] := by
  simp [violationsIn, Finding.violation?, Violation.ofBreach, List.filter_singleton]

theorem filterMap_violation?_under {lead : FieldPath} {found : List Finding} :
    (found.map (·.under lead)).filterMap Finding.violation? =
      (found.filterMap Finding.violation?).map (·.under lead) := by
  rw [List.filterMap_map, List.map_filterMap]
  congr 1
  funext finding
  cases finding <;> rfl

/-- All that is found one step below the root lies within this step. -/
theorem violationsIn_under {step here : PathStep} {found : List Finding} :
    violationsIn step (found.map (·.under [here])) =
      if here = step then (found.filterMap Finding.violation?).map (·.under [here]) else [] := by
  rw [violationsIn, filterMap_violation?_under, List.filter_map]
  split
  next same => simp [Function.comp_def, Violation.under, FieldPath.under, same]
  next other => simp [Function.comp_def, Violation.under, FieldPath.under, other]

namespace SchemaStore

variable {store : SchemaStore} {s t : Schema} {v : Json} {step : PathStep}
variable {members : List (String × Json)} {elements : List Json} {key : String}

theorem violationsIn_ownFindings {r : Rules} : violationsIn step (ownFindings r .root v) = [] := by
  simp [violationsIn, ownFindings, List.filterMap_map, Function.comp_def, Finding.violation?,
    Violation.ofBreach, FieldPath.root]

/-- A member that is there is not missed. -/
theorem violationsIn_missingFindings {r : Rules} (given : (key, v) ∈ members) :
    violationsIn (.field key) (missingFindings r .root members) = [] := by
  have present : Keyed.contains key members = true := Keyed.contains_iff.mpr ⟨v, given⟩
  simp only [violationsIn, missingFindings, List.filterMap_map, List.filter_eq_nil_iff]
  intro w inside
  obtain ⟨name, missed, rfl⟩ : ∃ name ∈ r.missing members, w = .ofBreach [.field name] .missing := by
    simpa [Finding.violation?, FieldPath.field, FieldPath.root, eq_comm] using inside
  have different : name ≠ key := by
    rintro rfl
    simp [Rules.missing, present] at missed
  simpa [Violation.ofBreach] using different

theorem violationsIn_findings_field {name : String} :
    violationsIn step (store.findings s (FieldPath.root.field name) v) =
      if .field name = step then
        ((store.findings s .root v).filterMap Finding.violation?).map (·.under [.field name])
      else [] := by
  have below : FieldPath.root.field name = FieldPath.root.under [.field name] := rfl
  rw [below, findings_under, violationsIn_under]

theorem violationsIn_findings_index {position : Nat} :
    violationsIn step (store.findings s (FieldPath.root.index position) v) =
      if .index position = step then
        ((store.findings s .root v).filterMap Finding.violation?).map (·.under [.index position])
      else [] := by
  have below : FieldPath.root.index position = FieldPath.root.under [.index position] := rfl
  rw [below, findings_under, violationsIn_under]

theorem violationsIn_memberFindings_of_absent (absent : key ∉ members.map (·.1)) :
    violationsIn (.field key) (store.memberFindings s .root members) = [] := by
  induction members with
  | nil => rfl
  | cons first rest ih =>
      obtain ⟨name, value⟩ := first
      simp only [List.map_cons, List.mem_cons, not_or] at absent
      have different : PathStep.field name ≠ .field key := by simpa using Ne.symm absent.1
      rw [memberFindings, violationsIn_append, ih absent.2, List.append_nil]
      split
      · rfl
      · simpa [FieldPath.field, FieldPath.root] using Ne.symm absent.1
      · rw [violationsIn_findings_field, if_neg different]

/-- What an object has against a schema within one of its members. -/
theorem violationsIn_memberFindings (distinct : (members.map (·.1)).Nodup)
    (given : (key, v) ∈ members) (rule : s.memberRule key = .schema t) :
    violationsIn (.field key) (store.memberFindings s .root members) =
      ((store.findings t .root v).filterMap Finding.violation?).map (·.under [.field key]) := by
  induction members with
  | nil => cases given
  | cons first rest ih =>
      obtain ⟨name, value⟩ := first
      obtain ⟨fresh, distinct⟩ := List.nodup_cons.mp distinct
      rw [memberFindings, violationsIn_append]
      rcases List.mem_cons.mp given with same | given
      · cases same
        rw [violationsIn_memberFindings_of_absent fresh, List.append_nil]
        simp only [rule]
        rw [violationsIn_findings_field, if_pos rfl]
      · have different : name ≠ key := by
          rintro rfl
          exact fresh (List.mem_map.mpr ⟨_, given, rfl⟩)
        rw [ih distinct given]
        suffices none : violationsIn (.field key) (store.memberFindings s .root [(name, value)]) = [] by
          rw [memberFindings, violationsIn_append] at none
          rw [(List.append_eq_nil_iff.mp none).1, List.nil_append]
        exact violationsIn_memberFindings_of_absent (by simpa using different.symm)

theorem violationsIn_elementFindings_of_earlier {position place : Nat} (earlier : place < position) :
    violationsIn (.index place) (store.elementFindings s .root position elements) = [] := by
  induction elements generalizing position with
  | nil => rfl
  | cons v rest ih =>
      have different : PathStep.index position ≠ .index place := by simp; omega
      rw [elementFindings, violationsIn_append, violationsIn_findings_index, if_neg different,
        ih (by omega), List.nil_append]

/-- What an array has against a schema within one of its places. -/
theorem violationsIn_elementFindings {position place : Nat} (given : elements[place]? = some v) :
    violationsIn (.index (position + place)) (store.elementFindings s .root position elements) =
      ((store.findings s .root v).filterMap Finding.violation?).map
        (·.under [.index (position + place)]) := by
  induction elements generalizing position place with
  | nil => cases given
  | cons first rest ih =>
      rw [elementFindings, violationsIn_append, violationsIn_findings_index]
      cases place with
      | zero =>
          cases given
          rw [violationsIn_elementFindings_of_earlier (by omega), List.append_nil, Nat.add_zero,
            if_pos rfl]
      | succ place =>
          have different : PathStep.index position ≠ .index (position + (place + 1)) := by simp
          rw [if_neg different, List.nil_append, ← Nat.add_assoc, Nat.add_right_comm]
          exact ih given

variable {path : FieldPath}

theorem ownFindings_referring {path : FieldPath} {name : String} :
    ownFindings (Schema.referring name).rules path v = [] := by
  cases v <;> rfl

theorem memberFindings_referring {path : FieldPath} {name : String} :
    store.memberFindings (Schema.referring name) path members = [] := by
  induction members with
  | nil => rfl
  | cons first rest ih => rw [memberFindings, ih]; rfl

/-- Within one of its members, an object of an admitted type has against a schema what the end of
its chain of references has. -/
theorem violationsIn_object (lone : store.LoneReferences) (inside : s.LoneReferences)
    (ends : (store.resolved s).rules.reference = none)
    (admitted : (store.resolved s).rules.admits (.object members) = true)
    (distinct : (members.map (·.1)).Nodup) (given : (key, v) ∈ members)
    (rule : (store.resolved s).memberRule key = .schema t) :
    violationsIn (.field key) (store.findings s .root (.object members)) =
      ((store.findings t .root v).filterMap Finding.violation?).map (·.under [.field key]) := by
  rw [findings, alongReferences_of_ends lone inside ends]
  · rw [if_pos admitted, violationsIn_append, violationsIn_append, violationsIn_ownFindings,
      violationsIn_missingFindings given, List.nil_append, List.nil_append]
    exact violationsIn_memberFindings distinct given rule
  · intro name
    rw [ownFindings_referring, memberFindings_referring]
    rfl

/-- The same of the places of an array. -/
theorem violationsIn_array {index : Nat} (lone : store.LoneReferences) (inside : s.LoneReferences)
    (ends : (store.resolved s).rules.reference = none)
    (admitted : (store.resolved s).rules.admits (.array elements) = true)
    (given : elements[index]? = some v) (items : (store.resolved s).items = some t) :
    violationsIn (.index index) (store.findings s .root (.array elements)) =
      ((store.findings t .root v).filterMap Finding.violation?).map (·.under [.index index]) := by
  rw [findings, alongReferences_of_ends lone inside ends]
  · rw [admitted, items, violationsIn_append, violationsIn_ownFindings, List.nil_append]
    rw [← Nat.zero_add index]
    exact violationsIn_elementFindings given
  · intro name
    rw [ownFindings_referring]
    rfl

end SchemaStore

namespace SubSchema

variable {store : SchemaStore} {path longer : String} {sub part : SubSchema}

/-- How a path goes on into a schema, and what value that is for: a step leads from a value into a
member or an element of it. -/
inductive GoesInto (sub : SubSchema) : List String → PathStep → Json → Json → Prop where
  | property {members : Members} {key : String} {v : Json}
      (distinct : (members.map (·.1)).Nodup) (given : (key, v) ∈ members) :
      GoesInto sub ["properties", key] (.field key) (.object members) v
  | items {elements : List Json} {index : Nat} {v : Json} (given : elements[index]? = some v) :
      GoesInto sub ["items"] (.index index) (.array elements) v
  | additional {members : Members} {key : String} {v : Json}
      (distinct : (members.map (·.1)).Nodup) (given : (key, v) ∈ members)
      (unlisted : Keyed.get? key (sub.store.resolved sub.schema).properties = none) :
      GoesInto sub ["additionalProperties"] (.field key) (.object members) v

/-- Where all references stand alone, looking into a value and looking into a schema come to the
same. If a path goes on from one schema to a part of it, and the first does not refuse a value by
its type, then what it has against the value within a step is what the part has against the value
there, in the same order. No path goes through references that lead in a circle, so nothing is asked
of those. -/
theorem violations_within {segments : List String} {step : PathStep} {w v : Json}
    (lone : store.LoneReferences) (chosen : store.lookup path = .ok sub)
    (chosen' : store.lookup longer = .ok part)
    (further : SchemaStore.segments longer = SchemaStore.segments path ++ segments)
    (into : sub.GoesInto segments step w v)
    (admitted : (store.resolved sub.schema).rules.admits w = true) :
    (sub.violations w).filter (·.path.head? = some step) =
      (part.violations v).map (·.under [step]) := by
  obtain ⟨rfl, inside⟩ := lone.inherited.lookup chosen
  obtain ⟨same, -⟩ := lone.inherited.lookup chosen'
  rw [violations, violations, findings, findings, same]
  cases into with
  | @property members key v distinct given =>
      have reached := SchemaStore.descend?_of_lookup chosen further (by simp) chosen'
      have ends := lone.ends_of_descend inside reached
      rw [SchemaStore.descend?_properties] at reached
      have rule : (sub.store.resolved sub.schema).memberRule key = .schema part.schema := by
        rw [Schema.memberRule, reached]
      exact SchemaStore.violationsIn_object lone inside ends admitted distinct given rule
  | @items elements index v given =>
      have reached := SchemaStore.descend?_of_lookup chosen further (by simp) chosen'
      have ends := lone.ends_of_descend inside reached
      rw [SchemaStore.descend?_items] at reached
      exact SchemaStore.violationsIn_array lone inside ends admitted given reached
  | @additional members key v distinct given unlisted =>
      have reached := SchemaStore.descend?_of_lookup chosen further (by simp) chosen'
      have ends := lone.ends_of_descend inside reached
      rw [SchemaStore.descend?_additional] at reached
      have rule : (sub.store.resolved sub.schema).memberRule key = .schema part.schema := by
        rw [Schema.memberRule, unlisted, reached]
      exact SchemaStore.violationsIn_object lone inside ends admitted distinct given rule

/-- A schema behind a chain of references, whose own part is behind one more. -/
def chainedTree : Json :=
  .object [("$defs", .object [
    ("Entry", .object [("$ref", .string "#/$defs/Record")]),
    ("Name", .object [("minLength", .number (.integer 1))]),
    ("Record", .object [("properties", .object [
      ("name", .object [("$ref", .string "#/$defs/Name")])])])])]

def chainedName : Schema := { Schema.any with rules := { minLength := some 1 } }

def chainedRecord : Schema := { Schema.any with properties := [("name", .referring "Name")] }

def chainedStore : SchemaStore :=
  ⟨.any, [("Entry", .referring "Record"), ("Name", chainedName), ("Record", chainedRecord)]⟩

theorem violations_within_chained :
    SchemaStore.ofJson chainedTree = .ok chainedStore ∧
      (SubSchema.violations ⟨chainedStore, .referring "Record", "#/$defs/Entry"⟩
        (.object [("name", .string ""), ("other", .null)])).filter
          (·.path.head? = some (.field "name")) =
        [⟨[.field "name"], .tooShort, "must not be empty"⟩] := by
  have root : Schema.any.LoneReferences := by
    constructor <;> simp [Schema.any]
  have bounded : chainedName.LoneReferences := by
    constructor <;> simp [chainedName, Schema.any]
  have record : chainedRecord.LoneReferences := by
    constructor <;> simp [chainedRecord, Schema.any, Schema.loneReferences_referring]
  have lone : chainedStore.LoneReferences := by
    refine ⟨root, ?_⟩
    simp only [chainedStore, List.forall_mem_cons, List.not_mem_nil, false_implies, implies_true]
    exact ⟨Schema.loneReferences_referring _, bounded, record, trivial⟩
  have chosen : chainedStore.lookup "#/$defs/Entry" =
      .ok ⟨chainedStore, .referring "Record", "#/$defs/Entry"⟩ := rfl
  have chosen' : chainedStore.lookup ("#/$defs/Entry" ++ "/" ++ "properties" ++ "/" ++ "name") =
      .ok ⟨chainedStore, .referring "Name", "#/$defs/Entry/properties/name"⟩ := rfl
  have further : SchemaStore.segments ("#/$defs/Entry" ++ "/" ++ "properties" ++ "/" ++ "name") =
      SchemaStore.segments "#/$defs/Entry" ++ ["properties", "name"] := by
    rw [SchemaStore.segments_step _ (by decide) (by decide),
      SchemaStore.segments_step _ (by decide) (by decide), List.append_assoc]
    rfl
  have into : GoesInto ⟨chainedStore, .referring "Record", "#/$defs/Entry"⟩ ["properties", "name"]
      (.field "name") (.object [("name", .string ""), ("other", .null)]) (.string "") :=
    .property (by decide) (.head _)
  have compiled : SchemaStore.ofJson chainedTree = .ok chainedStore :=
    SchemaStore.ofJson_eq_ok_iff.mpr ⟨⟨_, rfl, rfl⟩, rfl, rfl, rfl⟩
  exact ⟨compiled, (violations_within lone chosen chosen' further into rfl).trans rfl⟩

end SubSchema
end AgentManifest
