import Mathlib.Order.Bounds.Basic
import AgentManifest.Proofs.Schema.Closed
import AgentManifest.Validation.Findings

/-! What it means for a value to meet a schema, said without following any reference: `Conforms` is
the greatest relation that holds of a schema and a value exactly when the schema's own rules, the
definition its reference names and the schemas inside it are met. Checking a value finds no
violation exactly when it conforms, also where references lead in a circle. -/

namespace AgentManifest

/-- The rules of a schema that look at the value itself. -/
structure Rules.Hold (r : Rules) (v : Json) : Prop where
  types : ∀ types, r.types = some types → ∃ t ∈ types, t.admits (JsonType.ofValue v) = true
  allowed : ∀ values, r.allowed = some values → ∃ w ∈ values, w.same v = true
  text : ∀ content, v = .string content →
    (∀ least, r.minLength = some least → least ≤ content.length) ∧
      ∀ most, r.maxLength = some most → content.length ≤ most
  number : ∀ n, v = .number n →
    (∀ least, r.minimum = some least → least.key ≤ n.toBinary64.key) ∧
      ∀ most, r.maximum = some most → n.toBinary64.key ≤ most.key
  size : ∀ elements, v = .array elements →
    (∀ least, r.minItems = some least → least ≤ elements.length) ∧
      ∀ most, r.maxItems = some most → elements.length ≤ most

/-- What a schema says of a member that it does not list. -/
def Additional.Admits (R : Schema → Json → Prop) (v : Json) : Additional Schema → Prop
  | .allowed => True
  | .forbidden => False
  | .schema extra => R extra v

namespace SchemaStore

/-- What a schema asks of a value, if `R` tells which values meet which schemas. -/
structure Asks (store : SchemaStore) (R : Schema → Json → Prop) (s : Schema) (v : Json) : Prop where
  reference : ∀ name, s.rules.reference = some name → ∃ d, store.definition? name = some d ∧ R d v
  own : s.rules.Hold v
  elements : ∀ elements, v = .array elements → ∀ items, s.items = some items →
    ∀ element ∈ elements, R items element
  required : ∀ members, v = .object members → ∀ name ∈ s.rules.required,
    ∃ member, (name, member) ∈ members
  properties : ∀ members, v = .object members → ∀ key member, (key, member) ∈ members →
    ∀ property, Keyed.get? key s.properties = some property → R property member
  additional : ∀ members, v = .object members → ∀ key member, (key, member) ∈ members →
    Keyed.get? key s.properties = none → s.additional.Admits R member

/-- A value conforms to a schema if some relation of schemas and values, which never holds unless
all that is asked holds, holds of the two. -/
def Conforms (store : SchemaStore) (s : Schema) (v : Json) : Prop :=
  ∃ R : Schema → Json → Prop, (∀ s v, R s v → store.Asks R s v) ∧ R s v

variable {store : SchemaStore} {s t : Schema} {v : Json} {path : FieldPath}

theorem Asks.mono {R R' : Schema → Json → Prop} (weaker : ∀ s v, R s v → R' s v)
    (asked : store.Asks R s v) : store.Asks R' s v where
  reference name named := by
    obtain ⟨d, found, met⟩ := asked.reference name named
    exact ⟨d, found, weaker d v met⟩
  own := asked.own
  elements elements same items given element inside :=
    weaker items element (asked.elements elements same items given element inside)
  required := asked.required
  properties members same key member inside property listed :=
    weaker property member (asked.properties members same key member inside property listed)
  additional members same key member inside unlisted := by
    have admitted := asked.additional members same key member inside unlisted
    cases rule : s.additional with
    | allowed => trivial
    | forbidden => simp [rule, Additional.Admits] at admitted
    | schema extra =>
        rw [rule] at admitted
        exact weaker extra member admitted

theorem Conforms.asks (conforms : store.Conforms s v) : store.Asks store.Conforms s v := by
  obtain ⟨R, kept, holds⟩ := conforms
  exact (kept s v holds).mono fun s v holds => ⟨R, kept, holds⟩

theorem conforms_of_asks (asked : store.Asks store.Conforms s v) : store.Conforms s v :=
  ⟨store.Asks store.Conforms, fun _ _ asked => asked.mono fun _ _ => Conforms.asks, asked⟩

/-- Conformance is the greatest of the relations that hold exactly when all that is asked holds. -/
theorem conforms_isGreatest (store : SchemaStore) :
    IsGreatest {R : Schema → Json → Prop | ∀ s v, R s v ↔ store.Asks R s v} store.Conforms := by
  constructor
  · exact fun s v => ⟨Conforms.asks, conforms_of_asks⟩
  · exact fun R exact_ s v holds => ⟨R, fun s v => (exact_ s v).mp, holds⟩

theorem Conforms.leads (conforms : store.Conforms s v) (chain : store.Leads s t) :
    store.Conforms t v := by
  obtain ⟨steps, reached⟩ := chain
  induction steps generalizing s with
  | zero => exact (Option.some.inj reached) ▸ conforms
  | succ steps ih =>
      obtain ⟨next, one, reached⟩ := Option.bind_eq_some_iff.mp reached
      obtain ⟨name, named, found⟩ := Option.bind_eq_some_iff.mp one
      obtain ⟨d, sameName, met⟩ := conforms.asks.reference name named
      rw [found] at sameName
      cases sameName
      exact ih met reached

end SchemaStore
end AgentManifest
