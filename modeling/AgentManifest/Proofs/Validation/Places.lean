import AgentManifest.Proofs.Validation.Reports

/-! Where violations are. A violation of a check names a value that is there, or a member that an
object which is there lacks; and what stands at the place is of the sort that the violation speaks
of. -/

namespace AgentManifest

/-- Whether a kind of violations is about a value such as this one. The two kinds that are about the
members of an object are about no value by itself. -/
def ViolationKind.Concerns (v : Json) : ViolationKind → Prop
  | .typeMismatch | .notAllowed => True
  | .tooShort | .tooLong => ∃ content, v = .string content
  | .tooFew | .tooMany => ∃ elements, v = .array elements
  | .outOfRange => ∃ n, v = .number n
  | .missingField | .unknownField => False

/-- A violation whose path leads, from the root of a tree, to what it speaks of. -/
inductive Violation.Located (tree : Json) (w : Violation) : Prop where
  /-- A member that an object of the tree lacks. -/
  | absent {holder : FieldPath} {name : String} {members : Members}
      (kind : w.kind = .missingField) (path : w.path = holder.field name)
      (found : tree.at? holder = some (.object members)) (lacks : Keyed.get? name members = none) :
      Located tree w
  /-- A member that an object of the tree has. -/
  | member {holder : FieldPath} {name : String} {members : Members} {v : Json}
      (kind : w.kind = .unknownField) (path : w.path = holder.field name)
      (found : tree.at? holder = some (.object members))
      (given : Keyed.get? name members = some v) : Located tree w
  | value {v : Json} (kind : w.kind.Concerns v) (found : tree.at? w.path = some v) : Located tree w

variable {tree part v : Json} {w : Violation} {lead : FieldPath}

/-- What is located in a part of a tree is located, below the place of the part, in the tree. -/
theorem Violation.Located.under (found : tree.at? lead = some part) (located : w.Located part) :
    (w.under lead).Located tree := by
  have below : ∀ path, tree.at? (lead ++ path) = part.at? path := fun path => by
    rw [Json.at?_append, found, Option.bind_some]
  cases located with
  | @absent holder name members kind path held lacks =>
      have moved : (w.under lead).path = FieldPath.field (lead ++ holder) name := by
        simp [Violation.under, FieldPath.under, path, FieldPath.field]
      exact .absent kind moved ((below holder).trans held) lacks
  | @member holder name members v kind path held given =>
      have moved : (w.under lead).path = FieldPath.field (lead ++ holder) name := by
        simp [Violation.under, FieldPath.under, path, FieldPath.field]
      exact .member kind moved ((below holder).trans held) given
  | value kind held => exact .value kind ((below w.path).trans held)

namespace Rules

variable {r : Rules} {b : Breach}

theorem concerns_of_mem_sizeBreaches (broken : b ∈ r.sizeBreaches v) : b.kind.Concerns v := by
  cases v with
  | string content =>
      simp only [sizeBreaches, List.mem_append, List.mem_map] at broken
      obtain ⟨bound, -, rfl⟩ | ⟨bound, -, rfl⟩ := broken <;> exact ⟨content, rfl⟩
  | number n =>
      simp only [sizeBreaches, List.mem_append, List.mem_map] at broken
      obtain ⟨bound, -, rfl⟩ | ⟨bound, -, rfl⟩ := broken <;> exact ⟨n, rfl⟩
  | array elements =>
      simp only [sizeBreaches, List.mem_append, List.mem_map] at broken
      obtain ⟨bound, -, rfl⟩ | ⟨bound, -, rfl⟩ := broken <;> exact ⟨elements, rfl⟩
  | null | bool _ | object _ => cases broken

/-- A rule on the value itself is broken by a value that the rule is about. -/
theorem concerns_of_mem_breaches (broken : b ∈ r.breaches v) : b.kind.Concerns v := by
  unfold breaches at broken
  split at broken
  · rcases List.mem_append.mp broken with listed | sized
    · split at listed
      · cases listed
      · cases List.mem_singleton.mp listed
        trivial
    · exact concerns_of_mem_sizeBreaches sized
  · cases List.mem_singleton.mp broken
    trivial

end Rules

namespace SchemaStore

variable {store : SchemaStore} {s : Schema}

/-- What is found at a place has its path below the place. -/
theorem violation_mem_findings_under :
    .violation w ∈ store.findings s lead v ↔
      ∃ inner, .violation inner ∈ store.findings s .root v ∧ w = inner.under lead := by
  rw [findings_lead, List.mem_map]
  constructor
  · rintro ⟨_ | _, inside, same⟩
    · cases same
      exact ⟨_, inside, rfl⟩
    · cases same
  · rintro ⟨inner, inside, rfl⟩
    exact ⟨_, inside, rfl⟩

/-- The violations that a schema reports are located, if those of the parts of the value are. -/
theorem located_of_keywordReport (wellFormed : v.WellFormed)
    (parts : ∀ part, part.Part v →
      ∀ t w, .violation w ∈ store.findings t .root part → w.Located part)
    (reported : .violation w ∈ keywordReport store.findings s .root v) : w.Located v := by
  rcases mem_keywordReport.mp reported with ⟨b, broken, same⟩ | ⟨-, inner⟩
  · cases same
    exact .value (Rules.concerns_of_mem_breaches broken) rfl
  cases v with
  | array given =>
      obtain ⟨items, -, i, element, found, inner⟩ := mem_innerReport_array.mp inner
      obtain ⟨w, own, rfl⟩ := violation_mem_findings_under.mp inner
      refine (parts element (.element (List.mem_of_getElem? found)) items w own).under ?_
      simp [FieldPath.index, FieldPath.root, Json.at?, found]
  | object given =>
      rcases mem_innerReport_object.mp inner with ⟨name, missed, same⟩ | ⟨⟨key, v⟩, inside, inner⟩
      · cases same
        have lacks : Keyed.get? name given = none := by
          simpa [Rules.missing, Keyed.contains] using (List.mem_filter.mp missed).2
        exact .absent rfl rfl rfl lacks
      · have found : Keyed.get? key given = some v :=
          wellFormed.ordered.get?_eq_some_iff.mpr inside
        unfold memberReport at inner
        split at inner
        · cases inner
        · cases List.mem_singleton.mp inner
          exact .member rfl rfl rfl found
        · obtain ⟨w, own, rfl⟩ := violation_mem_findings_under.mp inner
          refine (parts v (.member inside) _ w own).under ?_
          simp [FieldPath.field, FieldPath.root, Json.at?, found]
  | null | bool _ | number _ | string _ => cases inner

theorem located_of_findings (wellFormed : v.WellFormed) :
    ∀ s w, .violation w ∈ store.findings s .root v → w.Located v := by
  induction v using Json.induction_on_parts with
  | step v ih =>
      intro s w found
      obtain ⟨t, -, reported⟩ := violation_mem_findings.mp found
      exact located_of_keywordReport wellFormed
        (fun part inside => ih part inside (wellFormed.part inside)) reported

end SchemaStore

theorem SubSchema.located_of_violations {sub : SubSchema} (wellFormed : v.WellFormed)
    (found : w ∈ sub.violations v) : w.Located v := by
  obtain ⟨_ | _, inside, same⟩ := List.mem_filterMap.mp found
  · cases same
    exact SchemaStore.located_of_findings wellFormed _ _ inside
  · cases same

end AgentManifest
