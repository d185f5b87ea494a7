import AgentManifest.Proofs.Schema.Compiled
import AgentManifest.Proofs.Schema.Descent
import AgentManifest.Proofs.Schema.References

/-! Closed stores. In a store that a text writes every reference, however deep it stands, names a
definition, and so does every reference of a schema that a path chooses from it. -/

namespace AgentManifest

namespace Schema

/-- Every reference in a schema, and in the schemas inside it, names a definition. -/
inductive Closed (definitions : Keyed Schema) : Schema → Prop where
  | intro {s : Schema}
      (reference : ∀ name, s.rules.reference = some name → Keyed.contains name definitions = true)
      (items : ∀ inner, s.items = some inner → Closed definitions inner)
      (properties : ∀ member ∈ s.properties, Closed definitions member.2)
      (additional : ∀ extra, s.additional = .schema extra → Closed definitions extra) :
      Closed definitions s

variable {definitions : Keyed Schema} {at_ : SchemaLocation}

theorem Closed.property {s property : Schema} {key : String} (closed : Closed definitions s)
    (listed : Keyed.get? key s.properties = some property) : Closed definitions property := by
  obtain ⟨-, -, properties, -⟩ := closed
  obtain ⟨before, behind, split, -⟩ := List.lookup_eq_some_iff.mp listed
  exact properties (key, property) (by simp [split])

/-- What a look at the references of a schema looks at. -/
theorem checkReferences_eq_ok_iff {rules : Rules} {items : Option Schema}
    {properties : List (String × Schema)} {additional : Additional Schema} :
    checkReferences definitions at_ ⟨rules, items, properties, additional⟩ = .ok () ↔
    (∀ name, rules.reference = some name → Keyed.contains name definitions = true) ∧
      (∀ inner, items = some inner →
        checkReferences definitions (at_.member "items") inner = .ok ()) ∧
      checkPropertyReferences definitions (at_.member "properties") properties = .ok () ∧
      ∀ extra, additional = .schema extra →
        checkReferences definitions (at_.member "additionalProperties") extra = .ok () := by
  conv_lhs => unfold checkReferences
  cases target : rules.reference with
  | none => cases items <;> cases additional <;> simp [bind_eq_ok]
  | some name =>
      cases known : Keyed.contains name definitions <;> cases items <;> cases additional <;>
        simp [refuse, bind_eq_ok, known]

mutual

theorem closed_of_checkReferences {at_ : SchemaLocation} :
    (s : Schema) → checkReferences definitions at_ s = .ok () → Closed definitions s
  | ⟨rules, items, properties, additional⟩, checked => by
      obtain ⟨reference, inner, members, extra⟩ := checkReferences_eq_ok_iff.mp checked
      refine ⟨reference, ?_, closed_of_checkPropertyReferences properties members, ?_⟩
      · match items with
        | none => exact nofun
        | some s =>
            rintro _ ⟨⟩
            exact closed_of_checkReferences s (inner s rfl)
      · match additional with
        | .allowed | .forbidden => exact nofun
        | .schema s =>
            rintro _ ⟨⟩
            exact closed_of_checkReferences s (extra s rfl)

theorem closed_of_checkPropertyReferences {at_ : SchemaLocation} :
    (properties : List (String × Schema)) →
    checkPropertyReferences definitions at_ properties = .ok () →
    ∀ member ∈ properties, Closed definitions member.2
  | [], _ => by simp
  | (name, s) :: rest, checked => by
      simp only [checkPropertyReferences, bind_eq_ok, exists_and_right, exists_eq_ok_unit]
        at checked
      obtain ⟨first, others⟩ := checked
      intro member inside
      rcases List.mem_cons.mp inside with rfl | inside
      · exact closed_of_checkReferences s first
      · exact closed_of_checkPropertyReferences rest others member inside

end

mutual

/-- Nothing is wrong with the references of a closed schema. -/
theorem checkReferences_of_closed {at_ : SchemaLocation} :
    (s : Schema) → Closed definitions s → checkReferences definitions at_ s = .ok ()
  | ⟨rules, items, properties, additional⟩, .intro reference inner members extra => by
      refine checkReferences_eq_ok_iff.mpr ⟨reference, ?_,
        checkPropertyReferences_of_closed properties members, ?_⟩
      · match items with
        | none => exact nofun
        | some s =>
            rintro _ ⟨⟩
            exact checkReferences_of_closed s (inner s rfl)
      · match additional with
        | .allowed | .forbidden => exact nofun
        | .schema s =>
            rintro _ ⟨⟩
            exact checkReferences_of_closed s (extra s rfl)

theorem checkPropertyReferences_of_closed {at_ : SchemaLocation} :
    (properties : List (String × Schema)) → (∀ member ∈ properties, Closed definitions member.2) →
    checkPropertyReferences definitions at_ properties = .ok ()
  | [], _ => rfl
  | (name, s) :: rest, closed => by
      obtain ⟨first, others⟩ := List.forall_mem_cons.mp closed
      rw [checkPropertyReferences, checkReferences_of_closed s first]
      exact checkPropertyReferences_of_closed rest others

end

end Schema

namespace SchemaStore

variable {store : SchemaStore} {s t : Schema}

/-- The root and all definitions are closed. -/
structure Closed (store : SchemaStore) : Prop where
  root : store.root.Closed store.definitions
  definitions : ∀ entry ∈ store.definitions, entry.2.Closed store.definitions

theorem Closed.definition {name : String} (closed : store.Closed)
    (found : store.definition? name = some s) : s.Closed store.definitions := by
  obtain ⟨before, behind, split, -⟩ := List.lookup_eq_some_iff.mp found
  exact closed.definitions (name, s) (by simp [split])

/-- In a closed store the definition that a reference names is there, and closed. -/
theorem Closed.target {name : String} (closed : store.Closed) (inside : s.Closed store.definitions)
    (reference : s.rules.reference = some name) :
    ∃ d, store.definition? name = some d ∧ d.Closed store.definitions := by
  obtain ⟨named, -, -, -⟩ := inside
  obtain ⟨d, found⟩ := Option.isSome_iff_exists.mp (named name reference)
  exact ⟨d, found, closed.definition found⟩

theorem closed_of_ofJson {tree : Json} (compiled : SchemaStore.ofJson tree = .ok store) :
    store.Closed := by
  cases tree with
  | object members =>
      obtain ⟨-, -, root, definitions⟩ := ofJson_eq_ok_iff.mp compiled
      exact ⟨Schema.closed_of_checkReferences store.root root,
        Schema.closed_of_checkPropertyReferences store.definitions definitions⟩
  | _ => cases compiled

theorem closed_of_ofText {text : String} (compiled : SchemaStore.ofText text = .ok store) :
    store.Closed := by
  unfold SchemaStore.ofText at compiled
  split at compiled
  · exact closed_of_ofJson compiled
  · cases compiled

theorem Closed.inherited (closed : store.Closed) :
    store.Inherited (Schema.Closed store.definitions) where
  root := closed.root
  definition := closed.definition
  items := fun ⟨_, items, _, _⟩ given => items _ given
  property := Schema.Closed.property
  additional := fun ⟨_, _, _, additional⟩ given => additional _ given

/-- A schema that a path chooses from a closed store is closed. -/
theorem Closed.lookup {path : String} {sub : SubSchema} (closed : store.Closed)
    (found : store.lookup path = .ok sub) :
    sub.store = store ∧ sub.schema.Closed store.definitions :=
  closed.inherited.lookup found

end SchemaStore
end AgentManifest
