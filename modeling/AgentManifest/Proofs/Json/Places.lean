import AgentManifest.Proofs.Json.Distinct
import AgentManifest.Proofs.Json.WellFormed
import AgentManifest.Proofs.Keyed.Edited

/-! Places of value trees. A longer path is followed in two parts, and what holds of a value when it
holds of its elements and members holds of every value. When one member is changed, nothing else in
the tree is different. -/

namespace AgentManifest.Json

variable {v w : Json} {path more : FieldPath} {members : Members} {elements : List Json}

theorem at?_append (path more : FieldPath) (v : Json) :
    v.at? (path ++ more) = (v.at? path).bind (at? more) := by
  induction path generalizing v with
  | nil => rfl
  | cons step path ih =>
      cases step with
      | field name =>
          cases v with
          | object members =>
              simp only [List.cons_append, at?, Option.bind_assoc]
              congr 1
              funext member
              exact ih member
          | _ => rfl
      | index i =>
          cases v with
          | array elements =>
              simp only [List.cons_append, at?, Option.bind_assoc]
              congr 1
              funext element
              exact ih element
          | _ => rfl

theorem at?_field (members : Members) (name : String) :
    (object members).at? [.field name] = Keyed.get? name members := by
  simp [at?]

/-- The values that stand right inside a value. -/
inductive Part : Json → Json → Prop where
  | element {element : Json} {elements : List Json} (inside : element ∈ elements) :
      Part element (.array elements)
  | member {key : String} {v : Json} {members : Members} (inside : (key, v) ∈ members) :
      Part v (.object members)

theorem Part.sizeOf_lt {part : Json} (inside : part.Part v) : sizeOf part < sizeOf v := by
  cases inside with
  | element inside =>
      have smaller := List.sizeOf_lt_of_mem inside
      rw [array.sizeOf_spec]
      omega
  | member inside =>
      have smaller := List.sizeOf_lt_of_mem inside
      rw [object.sizeOf_spec]
      simp only [Prod.mk.sizeOf_spec] at smaller
      omega

theorem WellFormed.part {part : Json} (wellFormed : v.WellFormed) (inside : part.Part v) :
    part.WellFormed := by
  cases inside with
  | element inside => exact wellFormed.of_array _ inside
  | member inside => exact wellFormed.of_object _ inside

/-- Whatever stands somewhere in a well-formed tree is well-formed. -/
theorem WellFormed.at? (wellFormed : v.WellFormed) (found : v.at? path = some w) :
    w.WellFormed := by
  induction path generalizing v with
  | nil => exact Option.some.inj found ▸ wellFormed
  | cons step path ih =>
      cases step with
      | field name =>
          cases v with
          | object members =>
              obtain ⟨member, given, found⟩ := Option.bind_eq_some_iff.mp found
              exact ih (wellFormed.member given) found
          | _ => cases found
      | index i =>
          cases v with
          | array elements =>
              obtain ⟨element, given, found⟩ := Option.bind_eq_some_iff.mp found
              exact ih (wellFormed.of_array element (List.mem_of_getElem? given)) found
          | _ => cases found

theorem sizeOf_le_of_at? (found : v.at? path = some w) : sizeOf w ≤ sizeOf v := by
  induction path generalizing v with
  | nil => exact le_of_eq (congrArg sizeOf (Option.some.inj found).symm)
  | cons step path ih =>
      cases step with
      | field name =>
          cases v with
          | object members =>
              obtain ⟨member, given, found⟩ := Option.bind_eq_some_iff.mp found
              exact (ih found).trans (Part.member (Keyed.mem_of_get? given)).sizeOf_lt.le
          | _ => cases found
      | index i =>
          cases v with
          | array elements =>
              obtain ⟨element, given, found⟩ := Option.bind_eq_some_iff.mp found
              exact (ih found).trans (Part.element (List.mem_of_getElem? given)).sizeOf_lt.le
          | _ => cases found

/-- Under a name stands something smaller. -/
theorem sizeOf_lt_of_at? {name : String} (found : v.at? (.field name :: path) = some w) :
    sizeOf w < sizeOf v := by
  cases v with
  | object members =>
      obtain ⟨member, given, found⟩ := Option.bind_eq_some_iff.mp found
      exact (sizeOf_le_of_at? found).trans_lt (Part.member (Keyed.mem_of_get? given)).sizeOf_lt
  | _ => cases found

@[elab_as_elim]
theorem induction_on_parts {P : Json → Prop} (v : Json)
    (step : ∀ v, (∀ part, part.Part v → P part) → P v) : P v :=
  step v fun part _ => induction_on_parts part step
termination_by sizeOf v
decreasing_by exact Part.sizeOf_lt ‹_›

section Changed

/-- The tree with another value, or none, where the names lead. There is always something at the
root. -/
def changed (w : Option Json) : List String → Json → Json
  | [], v => w.getD v
  | name :: more, .object members =>
    .object (Keyed.edited (fun key v =>
      if key ≠ name then some v else if more = [] then w else some (changed w more v)) members)
  | _ :: _, v => v

variable {tree v : Json} {w : Option Json} {place path more : List String} {name : String}

theorem at?_names_cons : tree.at? ((name :: more).map .field) = some v ↔ ∃ members inner,
    tree = .object members ∧ Keyed.get? name members = some inner ∧
      inner.at? (more.map .field) = some v := by
  cases tree with
  | object members => simp [at?, Option.bind_eq_some_iff]
  | _ => simp [at?]

theorem WellFormed.changed (wellFormed : tree.WellFormed)
    (formed : ∀ given, w = some given → given.WellFormed) (place : List String) :
    (Json.changed w place tree).WellFormed := by
  induction place generalizing tree with
  | nil =>
      cases w with
      | none => exact wellFormed
      | some given => exact formed given rfl
  | cons name more ih =>
      cases tree with
      | object members =>
          refine .object wellFormed.ordered.edited fun ⟨key, v⟩ inside => ?_
          obtain ⟨given, listed, edited⟩ := Keyed.mem_edited.mp inside
          have stands := wellFormed.of_object _ listed
          split at edited
          · exact Option.some.inj edited ▸ stands
          · split at edited
            · exact formed v edited
            · exact Option.some.inj edited ▸ ih stands
      | _ => exact wellFormed

/-- At the place stands what was put there, and nothing of what stood there. -/
theorem at?_changed (wellFormed : tree.WellFormed) (found : tree.at? (place.map .field) = some v)
    (told : place ≠ [] ∨ w ≠ none) :
    (Json.changed w place tree).at? ((place ++ more).map .field) =
      w.bind (at? (more.map .field)) := by
  induction place generalizing tree with
  | nil =>
      obtain ⟨given, rfl⟩ := Option.ne_none_iff_exists'.mp (told.resolve_left (· rfl))
      rfl
  | cons name rest ih =>
      obtain ⟨members, inner, rfl, listed, found⟩ := at?_names_cons.mp found
      simp only [Json.changed, List.cons_append, List.map_cons, at?,
        wellFormed.ordered.get?_edited, listed, Option.bind_some, ne_eq, not_true_eq_false,
        if_false]
      by_cases last : rest = []
      · rw [if_pos last, last, List.nil_append]
      · rw [if_neg last, Option.bind_some]
        exact ih (wellFormed.member listed) found (.inl last)

/-- Elsewhere everything is as it was. -/
theorem at?_changed_of_apart (wellFormed : tree.WellFormed) (apart : ¬ place <+: path)
    (apart' : ¬ path <+: place) :
    (Json.changed w place tree).at? (path.map .field) = tree.at? (path.map .field) := by
  induction place generalizing tree path with
  | nil => exact absurd (List.nil_prefix) apart
  | cons name more ih =>
      cases tree with
      | object members =>
          cases path with
          | nil => exact absurd (List.nil_prefix) apart'
          | cons key rest =>
              simp only [Json.changed, List.map_cons, at?, wellFormed.ordered.get?_edited]
              cases listed : Keyed.get? key members with
              | none => rfl
              | some inner =>
                  by_cases same : key = name
                  · subst same
                    rw [List.cons_prefix_cons, and_iff_right rfl] at apart apart'
                    have further : more ≠ [] := fun last => apart (last ▸ List.nil_prefix)
                    simp only [Option.bind_some, ne_eq, not_true_eq_false, if_false, further]
                    exact ih (wellFormed.member listed) apart apart'
                  · simp [same]
      | _ => rfl

end Changed

end AgentManifest.Json
