import AgentManifest.Proofs.Json.Places
import AgentManifest.Proofs.Schema.References
import AgentManifest.Proofs.Validation.Parts
import AgentManifest.Proofs.Validation.Quiet

/-! What a check reports, taken apart. The keywords of a schema speak for themselves; a check of a
value puts together what the keywords of the schemas on the chain of references report, and what
these report of an array or an object they take from checks of its elements and members. The places
of the violations are those at which the value is faulty and no others, whatever the schema. -/

namespace AgentManifest

/-- A way to check a value that stands at a place. -/
abbrev Check := Schema → FieldPath → Json → List Finding

/-- The paths of the violations among what is found. -/
def pathsOf (found : List Finding) : List FieldPath :=
  (found.filterMap Finding.violation?).map Violation.path

@[simp] theorem pathsOf_nil : pathsOf [] = [] := rfl

@[simp] theorem pathsOf_append (first second : List Finding) :
    pathsOf (first ++ second) = pathsOf first ++ pathsOf second := by
  simp [pathsOf]

@[simp] theorem pathsOf_flatMap {α : Type} (parts : List α) (report : α → List Finding) :
    pathsOf (parts.flatMap report) = parts.flatMap fun part => pathsOf (report part) := by
  induction parts with
  | nil => rfl
  | cons first rest ih => rw [List.flatMap_cons, pathsOf_append, ih, List.flatMap_cons]

@[simp] theorem pathsOf_violation (path : FieldPath) (b : Breach) :
    pathsOf [.violation (.ofBreach path b)] = [path] := rfl

@[simp] theorem pathsOf_endlessReference (target : String) (path : FieldPath) :
    pathsOf [.endlessReference target path] = [] := rfl

theorem mem_pathsOf {found : List Finding} {p : FieldPath} :
    p ∈ pathsOf found ↔ ∃ w, .violation w ∈ found ∧ w.path = p := by
  rw [pathsOf, List.mem_map]
  refine exists_congr fun w => and_congr_left' ?_
  rw [List.mem_filterMap]
  constructor
  · rintro ⟨_ | _, inside, same⟩
    · cases same
      exact inside
    · cases same
  · intro inside
    exact ⟨_, inside, rfl⟩

namespace SchemaStore

variable {store : SchemaStore} {s t : Schema} {path : FieldPath} {v : Json} {w : Violation}
variable {members : Members} {elements : List Json}

/-- What a schema reports of a member, by what it says of its key. -/
def memberReport (check : Check) (s : Schema) (path : FieldPath) (member : String × Json) :
    List Finding :=
  match s.memberRule member.1 with
  | .allowed => []
  | .forbidden => [.violation (.ofBreach (path.field member.1) .unknown)]
  | .schema t => check t (path.field member.1) member.2

/-- What a schema reports of what lies inside a value, if the check is used for the parts. -/
def innerReport (check : Check) (s : Schema) (path : FieldPath) : Json → List Finding
  | .array elements =>
    match s.items with
    | some items => elements.zipIdx.flatMap fun entry => check items (path.index entry.2) entry.1
    | none => []
  | .object members =>
    missingFindings s.rules path members ++ members.flatMap (memberReport check s path)
  | _ => []

/-- What the keywords of a schema report of a value, its reference apart. -/
def keywordReport (check : Check) : Check := fun s path v =>
  ownFindings s.rules path v ++ if s.rules.admits v then innerReport check s path v else []

theorem memberFindings_eq : store.memberFindings s path members =
    members.flatMap (memberReport store.findings s path) := by
  induction members with
  | nil => rfl
  | cons first rest ih =>
      rw [memberFindings, ih, List.flatMap_cons]
      rfl

theorem elementFindings_eq {position : Nat} : store.elementFindings s path position elements =
    (elements.zipIdx position).flatMap fun entry =>
      store.findings s (path.index entry.2) entry.1 := by
  induction elements generalizing position with
  | nil => rfl
  | cons first rest ih => rw [elementFindings, ih, List.zipIdx_cons, List.flatMap_cons]

/-- A check asks the schemas on the chain of references one after the other. -/
theorem findings_eq (s : Schema) (path : FieldPath) (v : Json) : store.findings s path v =
    store.alongReferences s path fun t => keywordReport store.findings t path v := by
  cases v with
  | array elements =>
      rw [findings]
      congr 1
      funext t
      cases admitted : t.rules.admits (.array elements) <;> cases items : t.items <;>
        simp [keywordReport, innerReport, admitted, items, elementFindings_eq]
  | object members =>
      rw [findings]
      congr 1
      funext t
      rw [keywordReport, innerReport, ← memberFindings_eq]
  | null | bool b | number n | string content => simp [findings, keywordReport, innerReport]

theorem findings_lead (s : Schema) (lead : FieldPath) (v : Json) :
    store.findings s lead v = (store.findings s .root v).map (·.under lead) := by
  rw [← findings_under]
  congr 1
  exact (List.append_nil lead).symm

variable {check : Check} {finding : Finding}

theorem mem_innerReport_array : finding ∈ innerReport check s path (.array elements) ↔
    ∃ items, s.items = some items ∧ ∃ i element, elements[i]? = some element ∧
      finding ∈ check items (path.index i) element := by
  rw [innerReport]
  cases s.items with
  | none => simp
  | some items =>
      simp only [List.mem_flatMap, Prod.exists, List.mem_zipIdx_iff_getElem?, Option.some.injEq,
        exists_eq_left']
      exact exists_comm

theorem mem_innerReport_object : finding ∈ innerReport check s path (.object members) ↔
    (∃ name ∈ s.rules.missing members,
      finding = .violation (.ofBreach (path.field name) .missing)) ∨
    ∃ member ∈ members, finding ∈ memberReport check s path member := by
  simp [innerReport, missingFindings, eq_comm]

theorem mem_keywordReport : finding ∈ keywordReport check s path v ↔
    (∃ b ∈ s.rules.breaches v, finding = .violation (.ofBreach path b)) ∨
      s.rules.admits v = true ∧ finding ∈ innerReport check s path v := by
  rw [keywordReport, List.mem_append, ownFindings, List.mem_map]
  refine or_congr (by simp [eq_comm]) ?_
  split
  next admitted => simp [admitted]
  next refused => simp [refused]

theorem mem_findings : finding ∈ store.findings s path v ↔
    (∃ target, (store.follow s).2 = some target ∧ finding = .endlessReference target path) ∨
      ∃ t, store.Leads s t ∧ finding ∈ keywordReport store.findings t path v := by
  rw [findings_eq, alongReferences]
  simp only [List.mem_append, List.mem_flatMap, mem_follow_iff]
  refine or_congr_left ?_
  split
  next target left => simp [left]
  next left => simp [left]

/-- The violations of a value are those that the schemas on the chain report. -/
theorem violation_mem_findings : .violation w ∈ store.findings s path v ↔
    ∃ t, store.Leads s t ∧ .violation w ∈ keywordReport store.findings t path v := by
  simp [mem_findings]

variable {inner : Schema} {p : FieldPath}

/-- The paths of what a value has against a schema, from the value. -/
def places (store : SchemaStore) (s : Schema) (v : Json) : List FieldPath :=
  pathsOf (store.findings s .root v)

theorem pathsOf_findings (s : Schema) (lead : FieldPath) (v : Json) :
    pathsOf (store.findings s lead v) = (store.places s v).map (lead ++ ·) := by
  rw [findings_lead, places, pathsOf, filterMap_violation?_under, pathsOf]
  simp [Violation.under, FieldPath.under]

theorem pathsOf_ownFindings (r : Rules) (path : FieldPath) (v : Json) :
    pathsOf (ownFindings r path v) = (r.breaches v).map fun _ => path := by
  simp [pathsOf, ownFindings, List.filterMap_map, Function.comp_def, Finding.violation?,
    Violation.ofBreach]

theorem pathsOf_missingFindings (r : Rules) (path : FieldPath) (members : Members) :
    pathsOf (missingFindings r path members) = (r.missing members).map path.field := by
  simp [pathsOf, missingFindings, List.filterMap_map, Function.comp_def, Finding.violation?,
    Violation.ofBreach]

/-- A place at which a value is faulty against a schema, which is so if it is faulty against a
schema on the chain of its references. A value of a wrong type is not looked into. -/
inductive Faulty (store : SchemaStore) : Schema → Json → FieldPath → Prop where
  | own {s t : Schema} {v : Json} (leads : store.Leads s t) (broken : ¬ t.rules.Hold v) :
      Faulty store s v []
  | missing {s t : Schema} {members : Members} {name : String} (leads : store.Leads s t)
      (admitted : t.rules.admits (.object members) = true) (needed : name ∈ t.rules.required)
      (absent : Keyed.get? name members = none) : Faulty store s (.object members) [.field name]
  | unknown {s t : Schema} {members : Members} {key : String} {v : Json}
      (leads : store.Leads s t) (admitted : t.rules.admits (.object members) = true)
      (inside : (key, v) ∈ members) (rule : t.memberRule key = .forbidden) :
      Faulty store s (.object members) [.field key]
  | member {s t inner : Schema} {members : Members} {key : String} {v : Json} {p : FieldPath}
      (leads : store.Leads s t) (admitted : t.rules.admits (.object members) = true)
      (inside : (key, v) ∈ members) (rule : t.memberRule key = .schema inner)
      (deeper : Faulty store inner v p) : Faulty store s (.object members) (.field key :: p)
  | element {s t inner : Schema} {elements : List Json} {i : Nat} {v : Json} {p : FieldPath}
      (leads : store.Leads s t) (admitted : t.rules.admits (.array elements) = true)
      (given : elements[i]? = some v) (items : t.items = some inner)
      (deeper : Faulty store inner v p) : Faulty store s (.array elements) (.index i :: p)

theorem mem_places : p ∈ store.places s v ↔
    ∃ t, store.Leads s t ∧ p ∈ pathsOf (keywordReport store.findings t .root v) := by
  simp only [places, mem_pathsOf, violation_mem_findings]
  constructor
  · rintro ⟨w, ⟨t, leads, reported⟩, same⟩
    exact ⟨t, leads, w, reported, same⟩
  · rintro ⟨t, leads, w, reported, same⟩
    exact ⟨w, ⟨t, leads, reported⟩, same⟩

theorem mem_pathsOf_keywordReport : p ∈ pathsOf (keywordReport store.findings t .root v) ↔
    (¬ t.rules.Hold v ∧ p = []) ∨
      t.rules.admits v = true ∧ p ∈ pathsOf (innerReport store.findings t .root v) := by
  rw [keywordReport, pathsOf_append, List.mem_append, pathsOf_ownFindings,
    ← Rules.breaches_eq_nil_iff]
  refine or_congr ?_ ?_
  · cases t.rules.breaches v <;> simp [FieldPath.root]
  · split
    next admitted => simp [admitted]
    next refused => simp [refused]

theorem mem_places_of_inner (leads : store.Leads s t) (admitted : t.rules.admits v = true)
    (reported : p ∈ pathsOf (innerReport store.findings t .root v)) : p ∈ store.places s v :=
  mem_places.mpr ⟨t, leads, mem_pathsOf_keywordReport.mpr (.inr ⟨admitted, reported⟩)⟩

theorem mem_pathsOf_innerReport_array :
    p ∈ pathsOf (innerReport store.findings t .root (.array elements)) ↔
      ∃ items, t.items = some items ∧ ∃ i element, elements[i]? = some element ∧
        ∃ rest ∈ store.places items element, p = .index i :: rest := by
  rw [innerReport]
  cases t.items with
  | none => simp
  | some items =>
      simp only [pathsOf_flatMap, pathsOf_findings, List.mem_flatMap, Prod.exists,
        List.mem_zipIdx_iff_getElem?, List.mem_map, Option.some.injEq, exists_eq_left',
        FieldPath.root, FieldPath.index, List.nil_append, List.cons_append, eq_comm (b := p)]
      exact exists_comm

theorem mem_pathsOf_innerReport_object :
    p ∈ pathsOf (innerReport store.findings t .root (.object members)) ↔
      (∃ name ∈ t.rules.missing members, p = [.field name]) ∨
      ∃ key v, (key, v) ∈ members ∧ (t.memberRule key = .forbidden ∧ p = [.field key] ∨
        ∃ inner, t.memberRule key = .schema inner ∧
          ∃ rest ∈ store.places inner v, p = .field key :: rest) := by
  rw [innerReport, pathsOf_append, List.mem_append, pathsOf_missingFindings, pathsOf_flatMap,
    List.mem_flatMap]
  refine or_congr (by simp [FieldPath.field, FieldPath.root, eq_comm]) ?_
  rw [Prod.exists]
  refine exists_congr fun key => exists_congr fun v => and_congr_right fun _ => ?_
  rw [memberReport]
  cases rule : t.memberRule key with
  | allowed => simp
  | forbidden => simp [FieldPath.field, FieldPath.root]
  | schema inner => simp [pathsOf_findings, FieldPath.field, FieldPath.root, eq_comm]

/-- What a check reports is at the faulty places, and each of them is reported. -/
theorem mem_places_iff_faulty : p ∈ store.places s v ↔ store.Faulty s v p := by
  induction v using Json.induction_on_parts generalizing s p with
  | step v ih =>
      constructor
      · intro reported
        obtain ⟨t, leads, reported⟩ := mem_places.mp reported
        rcases mem_pathsOf_keywordReport.mp reported with ⟨broken, rfl⟩ | ⟨admitted, inner⟩
        · exact .own leads broken
        cases v with
        | array elements =>
            obtain ⟨items, given, i, element, found, rest, deeper, rfl⟩ :=
              mem_pathsOf_innerReport_array.mp inner
            have part := Json.Part.element (List.mem_of_getElem? found)
            exact .element leads admitted found given ((ih element part).mp deeper)
        | object members =>
            rcases mem_pathsOf_innerReport_object.mp inner with ⟨name, missed, rfl⟩ |
              ⟨key, v, inside, ⟨rule, rfl⟩ | ⟨inner, rule, rest, deeper, rfl⟩⟩
            · obtain ⟨needed, absent⟩ := List.mem_filter.mp missed
              exact .missing leads admitted needed (by simpa [Keyed.contains] using absent)
            · exact .unknown leads admitted inside rule
            · exact .member leads admitted inside rule ((ih v (.member inside)).mp deeper)
        | null | bool _ | number _ | string _ => cases inner
      · intro faulty
        cases faulty with
        | @own _ t _ leads broken =>
            exact mem_places.mpr ⟨t, leads, mem_pathsOf_keywordReport.mpr (.inl ⟨broken, rfl⟩)⟩
        | @missing _ t members name leads admitted needed absent =>
            have missed : name ∈ t.rules.missing members :=
              List.mem_filter.mpr ⟨needed, by simp [Keyed.contains, absent]⟩
            refine mem_places_of_inner leads admitted ?_
            exact mem_pathsOf_innerReport_object.mpr (.inl ⟨name, missed, rfl⟩)
        | @unknown _ t members key v leads admitted inside rule =>
            refine mem_places_of_inner leads admitted ?_
            exact mem_pathsOf_innerReport_object.mpr (.inr ⟨key, v, inside, .inl ⟨rule, rfl⟩⟩)
        | @member _ t inner members key v rest leads admitted inside rule deeper =>
            have reported := (ih v (.member inside)).mpr deeper
            refine mem_places_of_inner leads admitted ?_
            exact mem_pathsOf_innerReport_object.mpr
              (.inr ⟨key, v, inside, .inr ⟨inner, rule, rest, reported, rfl⟩⟩)
        | @element _ t inner elements i v rest leads admitted given items deeper =>
            have reported := (ih v (.element (List.mem_of_getElem? given))).mpr deeper
            refine mem_places_of_inner leads admitted ?_
            exact mem_pathsOf_innerReport_array.mpr ⟨inner, items, i, v, given, rest, reported, rfl⟩

end SchemaStore
end AgentManifest
