import AgentManifest.Proofs.Record.Fits
import AgentManifest.Record.Reading

/-! What a schema assures of the values that records are read as: the bounds that it sets to texts
and numbers hold of what is read. A record is assured of a property if reading its members one by
one yields it. -/

namespace AgentManifest

/-- Whatever is read of a value that conforms to the schema has the property. -/
def SchemaStore.Assures {α : Type} (store : SchemaStore) (s : Schema) (read : Reading α)
    (P : α → Prop) : Prop :=
  ∀ v a, v.WellFormed → store.Conforms s v → read v = .ok a → P a

namespace SchemaStore.Assures

variable {α : Type} {store : SchemaStore} {s : Schema} {read : Reading α} {P : α → Prop}

theorem definition {name : String} (assures : store.Assures s read P)
    (found : store.definition? name = some s) :
    store.Assures (AgentSchema.definition name) read P :=
  fun v a wellFormed conforms => assures v a wellFormed (conforms.definition found)

theorem filledText : store.Assures AgentSchema.filledText Reading.text (1 ≤ ·.length) := by
  intro v name wellFormed conforms readText
  obtain ⟨content, rfl, filled⟩ := conforms.filledText
  cases readText
  exact filled

theorem identifier :
    store.Assures AgentSchema.identifier Reading.text fun s => 1 ≤ s.length ∧ s.length ≤ 255 := by
  intro v name wellFormed conforms readText
  obtain ⟨content, rfl, bounds⟩ := conforms.identifier
  cases readText
  exact bounds

theorem natural_ofNat {bits n m : Nat} (readNatural : Reading.natural bits (Json.ofNat n) = .ok m) :
    m = n := by
  simp only [Reading.natural, Json.ofNat] at readNatural
  split at readNatural
  · cases readNatural
    exact Int.toNat_natCast n
  · cases readNatural

theorem positive {bits : Nat} :
    store.Assures AgentSchema.positive (Reading.natural bits) (1 ≤ ·) := by
  intro v m wellFormed conforms readNatural
  obtain ⟨n, rfl, least, most⟩ := conforms.positive wellFormed
  rw [natural_ofNat readNatural]
  exact least

theorem positiveTo {bound bits : Nat} (exact_ : bound < 2 ^ 53) :
    store.Assures (AgentSchema.positiveTo bound) (Reading.natural bits)
      fun n => 1 ≤ n ∧ n ≤ bound := by
  intro v m wellFormed conforms readNatural
  obtain ⟨n, rfl, bounds⟩ := conforms.positiveTo wellFormed exact_
  rw [natural_ofNat readNatural]
  exact bounds

section Members

variable {name : String} {members : Members} {required : List String} {properties : Keyed Schema}

theorem needed {a : α} (assures : store.Assures s read P)
    (wellFormed : (Json.object members).WellFormed)
    (record : AgentSchema.RecordOf store required properties members)
    (listed : Keyed.get? name properties = some s)
    (readMember : neededMember name read members = .ok a) : P a := by
  cases given : Keyed.get? name members with
  | none =>
      rw [neededMember, show List.lookup name members = none from given] at readMember
      cases readMember
  | some v =>
      rw [neededMember, show List.lookup name members = some v from given] at readMember
      exact assures v a (wellFormed.member given) (record.field listed given) readMember

theorem read_of_nullable {v : Json} {a : α} (readValue : Reading.nullable read v = .ok (some a)) :
    read v = .ok a := by
  unfold Reading.nullable at readValue
  split at readValue
  · cases readValue
  · obtain ⟨b, readValue, same⟩ := map_eq_ok.mp readValue
    cases same
    exact readValue

theorem option {o : Option α} (assures : store.Assures s read P)
    (wellFormed : (Json.object members).WellFormed)
    (record : AgentSchema.RecordOf store required properties members)
    (listed : Keyed.get? name properties = some s)
    (readMember : optionMember name read members = .ok o) : ∀ a ∈ o, P a := by
  rintro a ⟨⟩
  cases given : Keyed.get? name members with
  | none =>
      rw [optionMember, optionalMember, show List.lookup name members = none from given]
        at readMember
      cases readMember
  | some v =>
      rw [optionMember, optionalMember, show List.lookup name members = some v from given]
        at readMember
      exact assures v a (wellFormed.member given) (record.field listed given)
        (read_of_nullable readMember)

theorem all {elements : List Json} {as : List α} (assures : store.Assures s read P)
    (wellFormed : ∀ element ∈ elements, element.WellFormed)
    (conforms : ∀ element ∈ elements, store.Conforms s element)
    (readAll : Reading.all read elements = .ok as) : ∀ a ∈ as, P a := by
  induction elements generalizing as with
  | nil =>
      cases readAll
      simp
  | cons first rest ih =>
      simp only [Reading.all, bind_eq_ok] at readAll
      obtain ⟨a, readFirst, later, readRest, same⟩ := readAll
      cases same
      obtain ⟨wellFormed_first, wellFormed_rest⟩ := List.forall_mem_cons.mp wellFormed
      obtain ⟨conforms_first, conforms_rest⟩ := List.forall_mem_cons.mp conforms
      exact List.forall_mem_cons.mpr ⟨assures first a wellFormed_first conforms_first readFirst,
        ih wellFormed_rest conforms_rest readRest⟩

theorem list {items : Schema} {as : List α} (assures : store.Assures items read P)
    (wellFormed : (Json.object members).WellFormed)
    (record : AgentSchema.RecordOf store required properties members)
    (listed : Keyed.get? name properties = some s) (typed : s.rules.types = some [.array])
    (ofItems : s.items = some items) (readMember : listMember name read members = .ok as) :
    ∀ a ∈ as, P a := by
  cases given : Keyed.get? name members with
  | none =>
      rw [listMember, optionalMember, show List.lookup name members = none from given]
        at readMember
      cases readMember
      simp
  | some v =>
      rw [listMember, optionalMember, show List.lookup name members = some v from given]
        at readMember
      have conforms := record.field listed given
      obtain ⟨elements, rfl⟩ := JsonType.array_of_admits (conforms.ofType typed)
      cases wellFormed.member given with
      | array each =>
          exact assures.all each (conforms.asks.elements elements rfl items ofItems) readMember

end Members

theorem record {required : List String} {properties : Keyed Schema} {shape : Shape}
    {ofMembers : List (String × Json) → Except Mismatch α}
    (each : ∀ members a, (Json.object members).WellFormed →
      AgentSchema.RecordOf store required properties members → ofMembers members = .ok a → P a) :
    store.Assures (AgentSchema.record required properties) (Reading.record shape ofMembers) P := by
  intro v a wellFormed conforms readRecord
  obtain ⟨members, rfl, record⟩ := AgentSchema.recordOf_of_conforms conforms
  have same : shape.members (.object members) = members := by
    cases shape <;> rfl
  rw [Reading.record, bind_eq_ok, same] at readRecord
  obtain ⟨checked, -, readMembers⟩ := readRecord
  exact each members a wellFormed record readMembers

end SchemaStore.Assures
end AgentManifest
