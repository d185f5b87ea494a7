import AgentManifest.Proofs.Keyed.Order
import AgentManifest.Proofs.Validation.Conformance

/-! Checks that find no violation. The schema a value is checked against and all schemas its
references lead to are reported one by one, so a check is quiet when each of them is, and that is
conformance. -/

namespace AgentManifest

/-- Nothing in a list of findings is a violation. -/
def Quiet (found : List Finding) : Prop := found.filterMap Finding.violation? = []

@[simp] theorem quiet_nil : Quiet [] := rfl

@[simp] theorem quiet_append {first second : List Finding} :
    Quiet (first ++ second) ↔ Quiet first ∧ Quiet second := by
  simp [Quiet, List.filterMap_append]

@[simp] theorem quiet_violation {v : Violation} {rest : List Finding} :
    ¬ Quiet (.violation v :: rest) := by
  simp [Quiet, Finding.violation?]

@[simp] theorem quiet_endlessReference {target : String} {path : FieldPath} {rest : List Finding} :
    Quiet (.endlessReference target path :: rest) ↔ Quiet rest := by
  simp [Quiet, Finding.violation?]

theorem quiet_flatMap {α : Type} {report : α → List Finding} {parts : List α} :
    Quiet (parts.flatMap report) ↔ ∀ part ∈ parts, Quiet (report part) := by
  induction parts with
  | nil => simp
  | cons first rest ih => simp [ih]

theorem quiet_map_violation {α : Type} {report : α → Violation} {parts : List α} :
    Quiet (parts.map fun part => .violation (report part)) ↔ parts = [] := by
  cases parts <;> simp

namespace Rules

variable {r : Rules} {v : Json}

theorem admits_iff : r.admits v = true ↔
    ∀ types, r.types = some types → ∃ t ∈ types, t.admits (JsonType.ofValue v) = true := by
  cases given : r.types <;> simp [admits, given]

theorem lists_iff : r.lists v = true ↔
    ∀ values, r.allowed = some values → ∃ w ∈ values, w.same v = true := by
  cases given : r.allowed <;> simp [lists, given]

theorem filter_toList_map_eq_nil {α β : Type} {bound : Option α} {broken : α → Bool} {f : α → β} :
    (bound.filter broken).toList.map f = [] ↔ ∀ a, bound = some a → broken a = false := by
  cases bound with
  | none => simp
  | some a => cases h : broken a <;> simp [Option.filter, h]

theorem Hold.admits (holds : r.Hold v) : r.admits v = true := admits_iff.mpr holds.types

/-- A value breaks no rule exactly when all rules on the value itself hold. -/
theorem breaches_eq_nil_iff : r.breaches v = [] ↔ r.Hold v := by
  constructor
  · intro none
    unfold breaches at none
    split at none
    next admitted =>
      obtain ⟨listed, sized⟩ := List.append_eq_nil_iff.mp none
      have listed : r.lists v = true := by
        by_contra unlisted
        simp [unlisted] at listed
      refine ⟨admits_iff.mp admitted, lists_iff.mp listed, ?_, ?_, ?_⟩
      all_goals
        rintro _ rfl
        simpa [sizeBreaches, filter_toList_map_eq_nil, Binary64.lt] using sized
    next => cases none
  · rintro ⟨types, allowed, text, number, size⟩
    simp only [breaches, admits_iff.mpr types, lists_iff.mpr allowed, if_true, List.nil_append]
    cases v with
    | string content =>
        simpa [sizeBreaches, filter_toList_map_eq_nil] using text content rfl
    | number n =>
        simpa [sizeBreaches, filter_toList_map_eq_nil, Binary64.lt] using number n rfl
    | array elements =>
        simpa [sizeBreaches, filter_toList_map_eq_nil] using size elements rfl
    | _ => rfl

end Rules

namespace SchemaStore

variable {store : SchemaStore} {s t : Schema} {v : Json} {path : FieldPath}

theorem quiet_alongReferences {report : Schema → List Finding} :
    Quiet (store.alongReferences s path report) ↔ ∀ t, store.Leads s t → Quiet (report t) := by
  simp only [alongReferences, quiet_append, quiet_flatMap, mem_follow_iff]
  split <;> simp

theorem quiet_ownFindings {r : Rules} : Quiet (ownFindings r path v) ↔ r.Hold v := by
  rw [ownFindings, quiet_map_violation, Rules.breaches_eq_nil_iff]

theorem quiet_missingFindings {r : Rules} {members : Members} :
    Quiet (missingFindings r path members) ↔
      ∀ name ∈ r.required, ∃ member, (name, member) ∈ members := by
  simp [missingFindings, quiet_map_violation, Rules.missing, Keyed.contains_iff]

/-- What a quiet check of an array against one schema comes down to. -/
theorem quiet_array {elements : List Json} :
    Quiet (store.findings s path (.array elements)) ↔ ∀ t, store.Leads s t →
      t.rules.Hold (.array elements) ∧ ∀ items, t.items = some items →
        Quiet (store.elementFindings items path 0 elements) := by
  rw [findings, quiet_alongReferences]
  refine forall_congr' fun t => imp_congr_right fun _ => ?_
  rw [quiet_append, quiet_ownFindings]
  refine and_congr_right fun holds => ?_
  rw [holds.admits]
  cases t.items <;> simp

theorem quiet_object {members : List (String × Json)} :
    Quiet (store.findings s path (.object members)) ↔ ∀ t, store.Leads s t →
      t.rules.Hold (.object members) ∧
        (∀ name ∈ t.rules.required, ∃ member, (name, member) ∈ members) ∧
        Quiet (store.memberFindings t path members) := by
  rw [findings, quiet_alongReferences]
  refine forall_congr' fun t => imp_congr_right fun _ => ?_
  rw [quiet_append, quiet_ownFindings]
  refine and_congr_right fun holds => ?_
  rw [if_pos holds.admits, quiet_append, quiet_missingFindings]

theorem quiet_leaf (leaf : ∀ elements, v ≠ .array elements)
    (leaf' : ∀ members, v ≠ .object members) :
    Quiet (store.findings s path v) ↔ ∀ t, store.Leads s t → t.rules.Hold v := by
  cases v with
  | array elements => exact absurd rfl (leaf elements)
  | object members => exact absurd rfl (leaf' members)
  | _ => simp only [findings, quiet_alongReferences, quiet_ownFindings]

mutual

/-- Checking a value that conforms finds no violation, wherever the value stands. -/
theorem quiet_of_conforms : (v : Json) → ∀ {s : Schema} {path : FieldPath},
    store.Conforms s v → Quiet (store.findings s path v)
  | .array elements, s, path, conforms => by
      rw [quiet_array]
      intro t chain
      have asked := (conforms.leads chain).asks
      exact ⟨asked.own, fun items given =>
        quiet_elements elements (asked.elements elements rfl items given)⟩
  | .object members, s, path, conforms => by
      rw [quiet_object]
      intro t chain
      have asked := (conforms.leads chain).asks
      exact ⟨asked.own, asked.required members rfl,
        quiet_members members (asked.properties members rfl) (asked.additional members rfl)⟩
  | .null, _, _, conforms | .bool _, _, _, conforms | .number _, _, _, conforms
  | .string _, _, _, conforms => by
      refine (quiet_leaf (by simp) (by simp)).mpr ?_
      exact fun t chain => (conforms.leads chain).asks.own

theorem quiet_elements : (elements : List Json) →
    ∀ {s : Schema} {path : FieldPath} {position : Nat},
    (∀ element ∈ elements, store.Conforms s element) →
    Quiet (store.elementFindings s path position elements)
  | [], _, _, _, _ => by simp [elementFindings]
  | first :: rest, s, path, position, all => by
      rw [elementFindings, quiet_append]
      exact ⟨quiet_of_conforms first (all first List.mem_cons_self),
        quiet_elements rest fun element inside => all element (List.mem_cons_of_mem _ inside)⟩

theorem quiet_members : (members : List (String × Json)) → ∀ {s : Schema} {path : FieldPath},
    (∀ key member, (key, member) ∈ members →
      ∀ property, Keyed.get? key s.properties = some property → store.Conforms property member) →
    (∀ key member, (key, member) ∈ members → Keyed.get? key s.properties = none →
      s.additional.Admits store.Conforms member) →
    Quiet (store.memberFindings s path members)
  | [], _, _, _, _ => by simp [memberFindings]
  | (key, member) :: rest, s, path, listed, unlisted => by
      rw [memberFindings, quiet_append]
      refine ⟨?_, quiet_members rest
        (fun key member inside => listed key member (List.mem_cons_of_mem _ inside))
        (fun key member inside => unlisted key member (List.mem_cons_of_mem _ inside))⟩
      unfold Schema.memberRule
      cases found : Keyed.get? key s.properties with
      | some property =>
          exact quiet_of_conforms member (listed key member List.mem_cons_self property found)
      | none =>
          have admitted := unlisted key member List.mem_cons_self found
          cases rule : s.additional with
          | allowed => simp
          | forbidden => simp [rule, Additional.Admits] at admitted
          | schema extra =>
              rw [rule] at admitted
              exact quiet_of_conforms member admitted

end

theorem element_quiet {elements : List Json} {position : Nat} {element : Json}
    (quiet : Quiet (store.elementFindings s path position elements)) (inside : element ∈ elements) :
    ∃ place, Quiet (store.findings s place element) := by
  induction elements generalizing position with
  | nil => cases inside
  | cons first rest ih =>
      rw [elementFindings, quiet_append] at quiet
      rcases List.mem_cons.mp inside with rfl | inside
      · exact ⟨_, quiet.1⟩
      · exact ih quiet.2 inside

theorem member_quiet {members : List (String × Json)} {key : String} {member : Json}
    (quiet : Quiet (store.memberFindings s path members)) (inside : (key, member) ∈ members) :
    (s.memberRule key).Admits (fun t v => ∃ place, Quiet (store.findings t place v)) member := by
  induction members with
  | nil => cases inside
  | cons first rest ih =>
      obtain ⟨name, value⟩ := first
      rw [memberFindings, quiet_append] at quiet
      rcases List.mem_cons.mp inside with same | inside
      · cases same
        cases rule : s.memberRule key with
        | allowed => trivial
        | forbidden => simp [rule] at quiet
        | schema extra =>
            rw [rule] at quiet
            exact ⟨_, quiet.1⟩
      · exact ih quiet.2 inside

/-- Being closed and checked quietly somewhere is kept by all that is asked, so it is a relation
that witnesses conformance. -/
theorem asks_of_quiet (closed : store.Closed) (inside : s.Closed store.definitions)
    (quiet : Quiet (store.findings s path v)) :
    store.Asks (fun t v => t.Closed store.definitions ∧ ∃ place, Quiet (store.findings t place v))
      s v where
  reference name named := by
    obtain ⟨d, found, dClosed⟩ := closed.target inside named
    refine ⟨d, found, dClosed, path, ?_⟩
    -- A check follows references by itself, so it has checked what this one refers to as well.
    have onward : ∀ t, store.Leads d t → store.Leads s t :=
      fun t chain => leads_of_next (by simp [next?, named, found]) chain
    cases v with
    | array elements =>
        rw [quiet_array] at quiet ⊢
        exact fun t chain => quiet t (onward t chain)
    | object members =>
        rw [quiet_object] at quiet ⊢
        exact fun t chain => quiet t (onward t chain)
    | _ =>
        refine (quiet_leaf (by simp) (by simp)).mpr ?_
        exact fun t chain => (quiet_leaf (by simp) (by simp)).mp quiet t (onward t chain)
  own := by
    cases v with
    | array elements => exact (quiet_array.mp quiet s (leads_refl s)).1
    | object members => exact (quiet_object.mp quiet s (leads_refl s)).1
    | _ => exact (quiet_leaf (by simp) (by simp)).mp quiet s (leads_refl s)
  elements elements same items given element member := by
    subst same
    obtain ⟨-, itemsClosed, -, -⟩ := inside
    have found := (quiet_array.mp quiet s (leads_refl s)).2 items given
    exact ⟨itemsClosed items given, element_quiet found member⟩
  required members same := by
    subst same
    exact (quiet_object.mp quiet s (leads_refl s)).2.1
  properties members same key member given property listed := by
    subst same
    have found := member_quiet (quiet_object.mp quiet s (leads_refl s)).2.2 given
    rw [Schema.memberRule, listed] at found
    exact ⟨inside.property listed, found⟩
  additional members same key member given unlisted := by
    subst same
    have found := member_quiet (quiet_object.mp quiet s (leads_refl s)).2.2 given
    rw [Schema.memberRule, unlisted] at found
    cases rule : s.additional with
    | allowed => trivial
    | forbidden => simp [rule, Additional.Admits] at found
    | schema extra =>
        rw [rule] at found
        obtain ⟨-, -, -, additional⟩ := inside
        exact ⟨additional extra rule, found⟩

/-- Against a closed schema a check finds no violation exactly when the value conforms. -/
theorem quiet_iff_conforms (closed : store.Closed) (inside : s.Closed store.definitions) :
    Quiet (store.findings s path v) ↔ store.Conforms s v := by
  constructor
  · intro quiet
    exact ⟨fun t v => t.Closed store.definitions ∧ ∃ place, Quiet (store.findings t place v),
      fun t v ⟨tClosed, place, quiet⟩ => asks_of_quiet closed tClosed quiet, inside, path, quiet⟩
  · exact quiet_of_conforms v

end SchemaStore

namespace SubSchema

variable {sub : SubSchema} {v w : Json} {e : ValidationError}

theorem validate_eq_ok_iff : sub.validate v = .ok w ↔ sub.violations v = [] ∧ w = v := by
  rw [validate]
  split
  next empty => simp [empty, eq_comm]
  next broken =>
    simp only [reduceCtorEq, false_iff]
    exact fun accepted => broken accepted.1

theorem validate_eq_error_iff :
    sub.validate v = .error e ↔ sub.violations v ≠ [] ∧ e = ⟨sub.path, sub.violations v⟩ := by
  rw [validate]
  split
  next empty => simp [empty]
  next broken =>
    simp only [Except.error.injEq]
    exact ⟨fun same => ⟨broken, same.symm⟩, fun refused => refused.2.symm⟩

end SubSchema

end AgentManifest
