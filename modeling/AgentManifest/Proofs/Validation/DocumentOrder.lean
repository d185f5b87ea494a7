import AgentManifest.Proofs.Validation.Reports

/-! The order of a document: a value before what lies inside it, the missing members of an object in
the order they are required and before the members it has, members by their keys and elements by
their indices. Against a schema whose references stand alone and whose rules no value breaks twice,
a check reports the violations in this order, so it reports no place twice. -/

namespace AgentManifest

/-- No value breaks two of the rules on the value itself: values are listed only where sizes are not
bounded, and no lower bound is above the upper one. -/
structure Rules.Compatible (r : Rules) : Prop where
  listed : r.allowed = none ∨ ∀ v, r.sizeBreaches v = []
  text : ∀ least most, r.minLength = some least → r.maxLength = some most → least ≤ most
  number : ∀ least most, r.minimum = some least → r.maximum = some most → least.key ≤ most.key
  size : ∀ least most, r.minItems = some least → r.maxItems = some most → least ≤ most

namespace Rules

variable {r : Rules} {v : Json}

/-- Of two bounds that do not both speak against a thing, at most one is reported. -/
theorem length_bounds_le_one {α β : Type} {lower upper : Option α} {below above : α → Bool}
    {f g : α → β} (apart : ∀ least most, lower = some least → upper = some most →
      below least = true → above most = false) :
    ((lower.filter below).toList.map f ++ (upper.filter above).toList.map g).length ≤ 1 := by
  cases lower with
  | none => cases upper <;> simp [Option.filter_some]
  | some least =>
      cases upper with
      | none => simp [Option.filter_some]
      | some most =>
          have one := apart least most rfl rfl
          cases low : below least with
          | false => simp [Option.filter_some, low]
          | true => simp [Option.filter_some, low, one low]

theorem Compatible.sizeBreaches_length (compatible : r.Compatible) (v : Json) :
    (r.sizeBreaches v).length ≤ 1 := by
  cases v with
  | string content =>
      refine length_bounds_le_one fun least most low high small => ?_
      have bounds := compatible.text least most low high
      simp only [decide_eq_true_eq, decide_eq_false_iff_not] at small ⊢
      omega
  | number n =>
      refine length_bounds_le_one fun least most low high small => ?_
      have bounds := compatible.number least most low high
      simp only [Binary64.lt, decide_eq_true_eq, decide_eq_false_iff_not] at small ⊢
      omega
  | array elements =>
      refine length_bounds_le_one fun least most low high small => ?_
      have bounds := compatible.size least most low high
      simp only [decide_eq_true_eq, decide_eq_false_iff_not] at small ⊢
      omega
  | null | bool _ | object _ => simp [sizeBreaches]

theorem Compatible.breaches_length (compatible : r.Compatible) (v : Json) :
    (r.breaches v).length ≤ 1 := by
  unfold breaches
  split
  · rcases compatible.listed with any | unbounded
    · simpa [lists, any] using compatible.sizeBreaches_length v
    · rw [unbounded v, List.append_nil]
      split <;> simp
  · simp

end Rules

namespace Schema

/-- A schema whose report follows the order of the document, and with it all schemas inside: no
value breaks two of its rules, it requires no member twice, and a reference stands alone. -/
inductive Orderly : Schema → Prop where
  | intro {s : Schema} (compatible : s.rules.Compatible) (distinct : s.rules.required.Nodup)
      (reference : ∀ name, s.rules.reference = some name → s = referring name)
      (items : ∀ inner, s.items = some inner → Orderly inner)
      (properties : ∀ member ∈ s.properties, Orderly member.2)
      (additional : ∀ extra, s.additional = .schema extra → Orderly extra) : Orderly s

theorem Orderly.lone {s : Schema} (orderly : s.Orderly) : s.LoneReferences := by
  induction orderly with
  | intro _ _ reference _ _ _ items properties additional =>
      exact .intro reference items properties additional

end Schema

theorem Schema.Orderly.compatible {s : Schema} (orderly : s.Orderly) : s.rules.Compatible := by
  cases orderly
  assumption

namespace SchemaStore

variable {store : SchemaStore} {s t last inner : Schema} {v : Json} {path : FieldPath}
variable {p q r : FieldPath}

structure Orderly (store : SchemaStore) : Prop where
  root : store.root.Orderly
  definitions : ∀ entry ∈ store.definitions, entry.2.Orderly

namespace Orderly

theorem inherited (orderly : store.Orderly) : store.Inherited Schema.Orderly where
  root := orderly.root
  definition found := orderly.definitions _ (Keyed.mem_of_get? found)
  items := fun ⟨_, _, _, items, _, _⟩ given => items _ given
  property := fun ⟨_, _, _, _, properties, _⟩ listed => properties _ (Keyed.mem_of_get? listed)
  additional := fun ⟨_, _, _, _, _, additional⟩ given => additional _ given

theorem lone (orderly : store.Orderly) : store.LoneReferences :=
  ⟨orderly.root.lone, fun entry inside => (orderly.definitions entry inside).lone⟩

end Orderly

theorem keywordReport_referring (check : Check) (name : String) (path : FieldPath) (v : Json) :
    keywordReport check (.referring name) path v = [] := by
  have inner : innerReport check (.referring name) path v = [] := by
    cases v with
    | object members =>
        have none : members.flatMap (memberReport check (.referring name) path) = [] :=
          List.flatMap_eq_nil_iff.mpr fun _ _ => rfl
        rw [innerReport, none]
        rfl
    | _ => rfl
  rw [keywordReport, ownFindings_referring, inner, ite_self, List.append_nil]

theorem Stops.eq_resolved {steps : Nat} (stops : store.Stops s steps last) :
    store.resolved s = last := by
  obtain ⟨few, short, reached⟩ := after?_short stops.reached
  exact Stops.resolveWithin ⟨reached, stops.ends⟩ short

/-- Where references stand alone, all violations are reported by the schema at the end of the chain:
the schemas before it say nothing but which comes next, and on a circle nothing is said at all. -/
theorem places_eq_of_lone (lone : store.LoneReferences) (inside : s.LoneReferences) (v : Json) :
    store.places s v = pathsOf (keywordReport store.findings (store.resolved s) .root v) := by
  rw [places, findings_eq]
  cases left : (store.resolved s).rules.reference with
  | none =>
      rw [alongReferences_of_ends lone inside left]
      exact fun name => keywordReport_referring _ name _ v
  | some name =>
      have silent : ∀ t, store.Leads s t → keywordReport store.findings t .root v = [] := by
        intro t leads
        cases reference : t.rules.reference with
        | some target =>
            have alone := (lone.inherited.leads inside leads).eq_referring reference
            rw [alone, keywordReport_referring]
        | none =>
            obtain ⟨steps, reached⟩ := leads
            have ends : store.next? t = none := by simp [next?, reference]
            rw [Stops.eq_resolved ⟨reached, ends⟩, reference] at left
            cases left
      have nothing : (store.follow s).1.flatMap
          (fun t => keywordReport store.findings t .root v) = [] :=
        List.flatMap_eq_nil_iff.mpr fun t met => silent t (mem_follow_iff.mp met)
      have alone := (lone.inherited.resolved inside).eq_referring left
      rw [alone, keywordReport_referring, alongReferences]
      simp only [nothing, List.append_nil]
      split <;> rfl

/-- One place comes before another in a document that is held to a schema. -/
inductive Precedes (store : SchemaStore) : Schema → Json → FieldPath → FieldPath → Prop where
  | own {s : Schema} {v : Json} {step : PathStep} {rest : FieldPath} :
      Precedes store s v [] (step :: rest)
  | missing {s : Schema} {members : Members} {name later : String}
      (absent : Keyed.get? name members = none) (laterAbsent : Keyed.get? later members = none)
      (order : (store.resolved s).rules.required.idxOf name <
        (store.resolved s).rules.required.idxOf later) :
      Precedes store s (.object members) [.field name] [.field later]
  | missingFirst {s : Schema} {members : Members} {name key : String} {v : Json} {rest : FieldPath}
      (absent : Keyed.get? name members = none) (given : Keyed.get? key members = some v) :
      Precedes store s (.object members) [.field name] (.field key :: rest)
  | members {s : Schema} {members : Members} {key later : String} {v w : Json}
      {rest other : FieldPath} (given : Keyed.get? key members = some v)
      (laterGiven : Keyed.get? later members = some w) (order : key < later) :
      Precedes store s (.object members) (.field key :: rest) (.field later :: other)
  | member {s inner : Schema} {members : Members} {key : String} {v : Json} {p q : FieldPath}
      (given : Keyed.get? key members = some v)
      (rule : (store.resolved s).memberRule key = .schema inner)
      (deeper : Precedes store inner v p q) :
      Precedes store s (.object members) (.field key :: p) (.field key :: q)
  | elements {s : Schema} {elements : List Json} {i j : Nat} {rest other : FieldPath}
      (order : i < j) :
      Precedes store s (.array elements) (.index i :: rest) (.index j :: other)
  | element {s inner : Schema} {elements : List Json} {i : Nat} {v : Json} {p q : FieldPath}
      (given : elements[i]? = some v) (items : (store.resolved s).items = some inner)
      (deeper : Precedes store inner v p q) :
      Precedes store s (.array elements) (.index i :: p) (.index i :: q)

theorem Precedes.ne (before : store.Precedes s v p q) : p ≠ q := by
  induction before with
  | own => exact nofun
  | missing _ _ order =>
      rintro ⟨⟩
      exact Nat.lt_irrefl _ order
  | missingFirst absent given =>
      rintro ⟨⟩
      cases absent.symm.trans given
  | members _ _ order =>
      rintro ⟨⟩
      exact lt_irrefl _ order
  | elements order =>
      rintro ⟨⟩
      exact Nat.lt_irrefl _ order
  | member _ _ _ ih | element _ _ _ ih =>
      rintro ⟨⟩
      exact ih rfl

theorem Precedes.trans (first : store.Precedes s v p q) (second : store.Precedes s v q r) :
    store.Precedes s v p r := by
  induction first generalizing r with
  | own => cases second <;> exact .own
  | missing absent middle order =>
      cases second with
      | missing _ laterAbsent further =>
          exact .missing absent laterAbsent (Nat.lt_trans order further)
      | missingFirst _ given => exact .missingFirst absent given
      | members given => cases middle.symm.trans given
      | member given => cases middle.symm.trans given
  | missingFirst absent given =>
      cases second with
      | missing middle => cases middle.symm.trans given
      | missingFirst middle => cases middle.symm.trans given
      | members _ laterGiven => exact .missingFirst absent laterGiven
      | member => exact .missingFirst absent given
  | members given middle order =>
      cases second with
      | missing absent => cases absent.symm.trans middle
      | missingFirst absent => cases absent.symm.trans middle
      | members _ laterGiven further => exact .members given laterGiven (lt_trans order further)
      | member => exact .members given middle order
  | member given rule deeper ih =>
      cases second with
      | missing absent => cases absent.symm.trans given
      | missingFirst absent => cases absent.symm.trans given
      | members _ laterGiven order => exact .members given laterGiven order
      | member given' rule' deeper' =>
          cases given.symm.trans given'
          cases rule.symm.trans rule'
          exact .member given rule (ih deeper')
  | elements order =>
      cases second with
      | elements further => exact .elements (Nat.lt_trans order further)
      | element => exact .elements order
  | element given items deeper ih =>
      cases second with
      | elements order => exact .elements order
      | element given' items' deeper' =>
          cases given.symm.trans given'
          cases items.symm.trans items'
          exact .element given items (ih deeper')

theorem isStrictOrder_precedes (s : Schema) (v : Json) :
    IsStrictOrder FieldPath (store.Precedes s v) where
  irrefl _ before := before.ne rfl
  trans _ _ _ := .trans

theorem pairwise_own {α : Type} {R : FieldPath → FieldPath → Prop} {broken : List α}
    (one : broken.length ≤ 1) : (broken.map fun _ => path).Pairwise R := by
  match broken with
  | [] => exact .nil
  | [_] => exact List.pairwise_singleton _ _
  | _ :: _ :: _ => simp at one

/-- Elements are reported in order, if what is reported of each of them is. -/
theorem pairwise_elements {elements : List Json} (items : (store.resolved s).items = some inner)
    (each : ∀ element ∈ elements, (store.places inner element).Pairwise
      (store.Precedes inner element)) :
    (pathsOf (innerReport store.findings (store.resolved s) .root (.array elements))).Pairwise
      (store.Precedes s (.array elements)) := by
  simp only [innerReport, items, pathsOf_flatMap, pathsOf_findings]
  rw [List.pairwise_flatMap]
  constructor
  · intro entry inside
    have given := List.mem_zipIdx_iff_getElem?.mp inside
    rw [List.pairwise_map]
    refine (each entry.1 (List.mem_of_getElem? given)).imp fun before => ?_
    exact .element given items before
  · have indices : (elements.zipIdx.map Prod.snd).Pairwise (· < ·) := by
      rw [List.zipIdx_map_snd]
      exact List.pairwise_lt_range'
    refine (List.pairwise_map.mp indices).imp fun order => ?_
    simp only [List.mem_map]
    rintro _ ⟨p, -, rfl⟩ _ ⟨q, -, rfl⟩
    exact .elements order

theorem absent_of_missing {r : Rules} {members : Members} {name : String}
    (missed : name ∈ r.missing members) : Keyed.get? name members = none := by
  simpa [Keyed.contains] using (List.mem_filter.mp missed).2

theorem pairwise_missing {members : Members} (distinct : (store.resolved s).rules.required.Nodup) :
    (((store.resolved s).rules.missing members).map FieldPath.root.field).Pairwise
      (store.Precedes s (.object members)) := by
  have positions : (store.resolved s).rules.required.Pairwise fun name later =>
      (store.resolved s).rules.required.idxOf name <
        (store.resolved s).rules.required.idxOf later := by
    rw [List.pairwise_iff_getElem]
    intro i j iInside jInside order
    rwa [distinct.idxOf_getElem, distinct.idxOf_getElem]
  rw [List.pairwise_map]
  refine (positions.filter _).imp_of_mem fun {name later} missed laterMissed order => ?_
  exact .missing (absent_of_missing missed) (absent_of_missing laterMissed) order

theorem mem_memberReport_path {key : String} (reported : p ∈ pathsOf
    (memberReport store.findings t .root (key, v))) : ∃ rest, p = .field key :: rest := by
  unfold memberReport at reported
  split at reported
  · cases reported
  · exact ⟨[], List.mem_singleton.mp reported⟩
  · rw [pathsOf_findings, List.mem_map] at reported
    obtain ⟨rest, -, rfl⟩ := reported
    exact ⟨rest, rfl⟩

theorem mem_innerReport_path
    (reported : p ∈ pathsOf (innerReport store.findings t .root v)) :
    ∃ step rest, p = step :: rest := by
  cases v with
  | array elements =>
      obtain ⟨_, -, i, _, -, rest, -, rfl⟩ := mem_pathsOf_innerReport_array.mp reported
      exact ⟨_, rest, rfl⟩
  | object members =>
      rcases mem_pathsOf_innerReport_object.mp reported with ⟨name, -, rfl⟩ |
        ⟨key, _, -, ⟨-, rfl⟩ | ⟨_, -, rest, -, rfl⟩⟩ <;> exact ⟨_, _, rfl⟩
  | null | bool _ | number _ | string _ => cases reported

theorem pairwise_members {members : Members} (ordered : Keyed.Ordered members)
    (each : ∀ member ∈ members, ∀ inner,
      (store.resolved s).memberRule member.1 = .schema inner →
        (store.places inner member.2).Pairwise (store.Precedes inner member.2)) :
    (pathsOf (members.flatMap (memberReport store.findings (store.resolved s) .root))).Pairwise
      (store.Precedes s (.object members)) := by
  rw [pathsOf_flatMap, List.pairwise_flatMap]
  constructor
  · rintro ⟨key, v⟩ inside
    have given := ordered.get?_eq_some_iff.mpr inside
    rw [memberReport]
    cases rule : (store.resolved s).memberRule key with
    | allowed => exact .nil
    | forbidden => exact List.pairwise_singleton _ _
    | schema inner =>
        rw [pathsOf_findings, List.pairwise_map]
        exact (each (key, v) inside inner rule).imp fun before => .member given rule before
  · refine ordered.imp_of_mem fun {first second} inside laterInside order => ?_
    intro p reported q laterReported
    obtain ⟨rest, rfl⟩ := mem_memberReport_path reported
    obtain ⟨other, rfl⟩ := mem_memberReport_path laterReported
    exact .members (ordered.get?_eq_some_iff.mpr inside) (ordered.get?_eq_some_iff.mpr laterInside)
      order

theorem pairwise_innerReport (orderly : (store.resolved s).Orderly)
    (wellFormed : v.WellFormed)
    (parts : ∀ part, part.Part v → ∀ {inner : Schema}, inner.Orderly →
      (store.places inner part).Pairwise (store.Precedes inner part)) :
    (pathsOf (innerReport store.findings (store.resolved s) .root v)).Pairwise
      (store.Precedes s v) := by
  obtain ⟨-, distinct, -, items, properties, additional⟩ := orderly
  cases v with
  | array elements =>
      cases given : (store.resolved s).items with
      | none => simp [innerReport, given]
      | some inner =>
          refine pairwise_elements given fun element inside => ?_
          exact parts element (.element inside) (items inner given)
  | object members =>
      rw [innerReport, pathsOf_append, List.pairwise_append, pathsOf_missingFindings]
      refine ⟨pairwise_missing distinct, pairwise_members wellFormed.ordered ?_, ?_⟩
      · intro member inside inner rule
        refine parts member.2 (.member inside) ?_
        unfold Schema.memberRule at rule
        split at rule
        next listed =>
          cases rule
          exact properties _ (Keyed.mem_of_get? listed)
        next => exact additional inner rule
      · intro p early q reported
        obtain ⟨name, missed, rfl⟩ := List.mem_map.mp early
        rw [pathsOf_flatMap] at reported
        obtain ⟨⟨key, v⟩, inside, reported⟩ := List.mem_flatMap.mp reported
        obtain ⟨rest, rfl⟩ := mem_memberReport_path reported
        exact .missingFirst (absent_of_missing missed)
          (wellFormed.ordered.get?_eq_some_iff.mpr inside)
  | null | bool _ | number _ | string _ => exact .nil

/-- The places that a check reports ascend strictly, by induction on the value. -/
theorem Orderly.pairwise_places (orderly : store.Orderly) (inside : s.Orderly)
    (wellFormed : v.WellFormed) : (store.places s v).Pairwise (store.Precedes s v) := by
  induction v using Json.induction_on_parts generalizing s with
  | step v ih =>
      have last := orderly.inherited.resolved inside
      have inner := pairwise_innerReport last wellFormed fun part partOf _ inside =>
        ih part partOf inside (wellFormed.part partOf)
      rw [places_eq_of_lone orderly.lone inside.lone, keywordReport, pathsOf_append,
        List.pairwise_append, pathsOf_ownFindings]
      refine ⟨pairwise_own (last.compatible.breaches_length v), ?_, fun p own q reported => ?_⟩
      · split
        · exact inner
        · exact .nil
      · obtain ⟨-, -, rfl⟩ := List.mem_map.mp own
        split at reported
        · obtain ⟨step, rest, rfl⟩ := mem_innerReport_path reported
          exact .own
        · cases reported

end SchemaStore
end AgentManifest
