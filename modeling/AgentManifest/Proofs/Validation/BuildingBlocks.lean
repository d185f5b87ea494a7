import AgentManifest.Proofs.Decimal.Integers
import AgentManifest.Proofs.Keyed.Edited
import AgentManifest.Proofs.Validation.Conformance
import AgentManifest.Schema.AgentSchema

/-! What the values look like that conform to the building blocks of the agent schema: which of them
are texts, integers, lists or records, and what is known of their parts. -/

namespace AgentManifest

namespace JsonType

variable {v : Json}

theorem string_of_admits (typed : JsonType.string.admits (ofValue v) = true) :
    ∃ content, v = .string content := by
  cases v with
  | string content => exact ⟨content, rfl⟩
  | number n => cases n <;> simp [admits, ofValue] at typed
  | null | bool b | array elements | object members => simp [admits, ofValue] at typed

theorem integer_of_admits (typed : JsonType.integer.admits (ofValue v) = true) :
    ∃ i, v = .number (.integer i) := by
  cases v with
  | number n =>
      cases n with
      | integer i => exact ⟨i, rfl⟩
      | float x => simp [admits, ofValue] at typed
  | null | bool b | string s | array elements | object members => simp [admits, ofValue] at typed

theorem array_of_admits (typed : JsonType.array.admits (ofValue v) = true) :
    ∃ elements, v = .array elements := by
  cases v with
  | array elements => exact ⟨elements, rfl⟩
  | number n => cases n <;> simp [admits, ofValue] at typed
  | null | bool b | string s | object members => simp [admits, ofValue] at typed

theorem object_of_admits (typed : JsonType.object.admits (ofValue v) = true) :
    ∃ members, v = .object members := by
  cases v with
  | object members => exact ⟨members, rfl⟩
  | number n => cases n <;> simp [admits, ofValue] at typed
  | null | bool b | string s | array elements => simp [admits, ofValue] at typed

end JsonType

namespace SchemaStore.Conforms

variable {store : SchemaStore} {s : Schema} {v : Json}

theorem ofType {t : JsonType} (conforms : store.Conforms s v) (asked : s.rules.types = some [t]) :
    t.admits (JsonType.ofValue v) = true := by
  obtain ⟨u, listed, admitted⟩ := conforms.asks.own.types [t] asked
  rwa [List.mem_singleton.mp listed] at admitted

theorem definition {name : String} (conforms : store.Conforms (AgentSchema.definition name) v)
    (found : store.definition? name = some s) : store.Conforms s v := by
  obtain ⟨d, found', met⟩ := conforms.asks.reference name rfl
  rw [found] at found'
  cases found'
  exact met

theorem text (conforms : store.Conforms AgentSchema.text v) : ∃ content, v = .string content :=
  JsonType.string_of_admits (conforms.ofType rfl)

theorem filledText (conforms : store.Conforms AgentSchema.filledText v) :
    ∃ content, v = .string content ∧ 1 ≤ content.length := by
  obtain ⟨content, rfl⟩ := JsonType.string_of_admits (conforms.ofType rfl)
  obtain ⟨least, most⟩ := conforms.asks.own.text content rfl
  exact ⟨content, rfl, least 1 rfl⟩

theorem identifier (conforms : store.Conforms AgentSchema.identifier v) :
    ∃ content, v = .string content ∧ 1 ≤ content.length ∧ content.length ≤ 255 := by
  obtain ⟨content, rfl⟩ := JsonType.string_of_admits (conforms.ofType rfl)
  obtain ⟨least, most⟩ := conforms.asks.own.text content rfl
  exact ⟨content, rfl, least 1 rfl, most 255 rfl⟩

theorem positive (wellFormed : v.WellFormed) (conforms : store.Conforms AgentSchema.positive v) :
    ∃ n : Nat, v = Json.ofNat n ∧ 1 ≤ n ∧ n < 2 ^ 64 := by
  obtain ⟨i, rfl⟩ := JsonType.integer_of_admits (conforms.ofType rfl)
  cases wellFormed with
  | number stored =>
      obtain ⟨least, most⟩ := conforms.asks.own.number (.integer i) rfl
      have atLeast := (Number.le_key_integer_iff 1 stored (by decide)).mp (least _ rfl)
      have range := Number.fits_iff.mp stored
      lift i to Nat using by omega
      exact ⟨i, rfl, by omega, by omega⟩

theorem positiveTo {bound : Nat} (wellFormed : v.WellFormed) (exact_ : bound < 2 ^ 53)
    (conforms : store.Conforms (AgentSchema.positiveTo bound) v) :
    ∃ n : Nat, v = Json.ofNat n ∧ 1 ≤ n ∧ n ≤ bound := by
  obtain ⟨i, rfl⟩ := JsonType.integer_of_admits (conforms.ofType rfl)
  cases wellFormed with
  | number stored =>
      obtain ⟨least, most⟩ := conforms.asks.own.number (.integer i) rfl
      have atLeast := (Number.le_key_integer_iff 1 stored (by decide)).mp (least _ rfl)
      have atMost := (Number.key_integer_le_iff bound stored exact_).mp (most _ rfl)
      lift i to Nat using by omega
      exact ⟨i, rfl, by omega, by omega⟩

theorem oneOf {names : List String} (conforms : store.Conforms (AgentSchema.oneOf names) v) :
    ∃ name ∈ names, v = .string name := by
  obtain ⟨w, listed, same⟩ := conforms.asks.own.allowed _ rfl
  obtain ⟨name, inside, rfl⟩ := List.mem_map.mp listed
  cases v with
  | string content =>
      simp only [Json.same, beq_iff_eq] at same
      exact ⟨name, inside, by rw [same]⟩
  | null | bool b | number n | array elements | object members => simp [Json.same] at same

theorem listOf {items : Schema} (conforms : store.Conforms (AgentSchema.listOf items) v) :
    ∃ elements, v = .array elements ∧ ∀ element ∈ elements, store.Conforms items element := by
  obtain ⟨elements, rfl⟩ := JsonType.array_of_admits (conforms.ofType rfl)
  exact ⟨elements, rfl, conforms.asks.elements elements rfl items rfl⟩

theorem of_definition {name : String} (found : store.definition? name = some s)
    (conforms : store.Conforms s v) : store.Conforms (AgentSchema.definition name) v := by
  refine conforms_of_asks ⟨?_, ⟨nofun, nofun, ?_, ?_, ?_⟩, nofun, nofun, nofun, ?_⟩
  · rintro _ ⟨⟩
    exact ⟨s, found, conforms⟩
  all_goals simp [AgentSchema.definition, Schema.any, Additional.Admits]

theorem of_listOf {items : Schema} {elements : List Json}
    (each : ∀ element ∈ elements, store.Conforms items element) :
    store.Conforms (AgentSchema.listOf items) (.array elements) := by
  refine conforms_of_asks ⟨nofun, ⟨?_, nofun, nofun, nofun, ?_⟩, ?_, nofun, nofun, nofun⟩
  · rintro types ⟨⟩
    exact ⟨.array, List.mem_singleton_self _, rfl⟩
  · rintro _ ⟨⟩
    exact ⟨nofun, nofun⟩
  · rintro _ ⟨⟩ _ ⟨⟩
    exact each

theorem tree (conforms : store.Conforms AgentSchema.tree v) : ∃ members, v = .object members :=
  JsonType.object_of_admits (conforms.ofType rfl)

end SchemaStore.Conforms

namespace AgentSchema

/-- What is known of the members of a record: those it requires are there, and each of them is
listed and conforms to its schema. -/
structure RecordOf (store : SchemaStore) (required : List String) (properties : Keyed Schema)
    (members : Members) : Prop where
  required : ∀ name ∈ required, ∃ v, Keyed.get? name members = some v
  listed : ∀ name v, (name, v) ∈ members →
    ∃ property, Keyed.get? name properties = some property ∧ store.Conforms property v

variable {store : SchemaStore} {required : List String} {properties : Keyed Schema}

theorem recordOf_of_conforms {v : Json}
    (conforms : store.Conforms (record required properties) v) :
    ∃ members, v = .object members ∧ RecordOf store required properties members := by
  obtain ⟨members, rfl⟩ := JsonType.object_of_admits (conforms.ofType rfl)
  have asked := conforms.asks
  refine ⟨members, rfl, fun name needed => ?_, fun name v inside => ?_⟩
  · have given := Keyed.contains_iff.mpr (asked.required members rfl name needed)
    exact Option.isSome_iff_exists.mp given
  · cases listed : Keyed.get? name properties with
    | none => exact (asked.additional members rfl name v inside listed).elim
    | some property =>
        exact ⟨property, rfl, asked.properties members rfl name v inside property listed⟩

/-- An object that is a record conforms. -/
theorem RecordOf.conforms {members : Members}
    (of : RecordOf store required properties members) :
    store.Conforms (record required properties) (.object members) := by
  refine SchemaStore.conforms_of_asks ⟨nofun, ⟨?_, nofun, nofun, nofun, nofun⟩, nofun, ?_, ?_, ?_⟩
  · rintro types ⟨⟩
    exact ⟨.object, List.mem_singleton_self _, rfl⟩
  · rintro _ ⟨⟩ name needed
    obtain ⟨v, given⟩ := of.required name needed
    exact ⟨v, Keyed.mem_of_get? given⟩
  · rintro _ ⟨⟩ key v inside property listed
    obtain ⟨property', listed', conforms⟩ := of.listed key v inside
    exact Option.some.inj (listed.symm.trans listed') ▸ conforms
  · rintro _ ⟨⟩ key v inside unlisted
    obtain ⟨property, listed, conforms⟩ := of.listed key v inside
    cases unlisted.symm.trans listed

/-- A record stays one when members that need not be there are left out. -/
theorem RecordOf.edited {members : Members} {edit : String → Json → Option Json}
    (of : RecordOf store required properties members) (ordered : Keyed.Ordered members)
    (unchanged : ∀ key v v', edit key v = some v' → v' = v)
    (kept : ∀ key ∈ required, ∀ v, edit key v = some v) :
    RecordOf store required properties (Keyed.edited edit members) where
  required name needed := by
    obtain ⟨v, given⟩ := of.required name needed
    exact ⟨v, by rw [ordered.get?_edited, given, Option.bind_some, kept name needed]⟩
  listed name v inside := by
    obtain ⟨given, inside, changed⟩ := Keyed.mem_edited.mp inside
    obtain rfl := unchanged name given v changed
    exact of.listed name v inside

theorem RecordOf.name_mem {members : Members} {names : List String} {name : String} {v : Json}
    (record : RecordOf store required properties members)
    (given : Keyed.get? name members = some v) (known : properties.map (·.1) ⊆ names) :
    name ∈ names := by
  obtain ⟨property, listed, conforms⟩ := record.listed name v (Keyed.mem_of_get? given)
  exact known (List.mem_map.mpr ⟨(name, property), Keyed.mem_of_get? listed, rfl⟩)

theorem RecordOf.field {members : Members} {name : String} {property : Schema} {v : Json}
    (record : RecordOf store required properties members)
    (listed : Keyed.get? name properties = some property)
    (given : Keyed.get? name members = some v) : store.Conforms property v := by
  obtain ⟨property', listed', conforms⟩ := record.listed name v (Keyed.mem_of_get? given)
  rw [listed] at listed'
  cases listed'
  exact conforms

end AgentSchema
end AgentManifest
