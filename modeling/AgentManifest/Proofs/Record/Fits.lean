import AgentManifest.Proofs.Outcome
import AgentManifest.Proofs.Validation.BuildingBlocks
import AgentManifest.Record.Shape

/-! A schema fits a shape if every well-formed value that conforms to the one has the other. Records
fit field by field: each member that the schema lists is that of a field whose shape fits, and the
schema requires every field that has to be given. -/

namespace AgentManifest

namespace Shape

variable {fields : List (Field Shape)} {field : Field Shape} {key : String} {v : Json}

theorem checkMember_of_find {known : List String}
    (found : fields.find? (·.name = key) = some field) (checked : field.shape.check v = .ok ()) :
    checkMember known fields key v = .ok () := by
  induction fields with
  | nil => simp at found
  | cons first rest ih =>
      obtain ⟨name, required, shape⟩ := first
      rw [checkMember]
      by_cases same : name = key
      · rw [List.find?_cons_of_pos (by simpa using same)] at found
        cases found
        rw [if_pos same]
        exact checked
      · rw [List.find?_cons_of_neg (by simpa using same)] at found
        rw [if_neg same]
        exact ih found

theorem checkGiven_eq_ok {given : List String}
    (complete : ∀ field ∈ fields, field.required = true → field.name ∈ given) :
    checkGiven fields given = .ok () := by
  have none_missing : missing given fields = [] := by
    refine List.filter_eq_nil_iff.mpr fun field inside => ?_
    simpa using complete field inside
  rw [checkGiven, none_missing]

theorem check_nullable {inner : Shape} (checked : inner.check v = .ok ()) :
    (Shape.nullable inner).check v = .ok () := by
  cases v with
  | null => rfl
  | bool b | number n | string s | array elements | object members => exact checked

end Shape

/-- What conforms to the schema has the shape. -/
def SchemaStore.Fits (store : SchemaStore) (s : Schema) (σ : Shape) : Prop :=
  ∀ v, v.WellFormed → store.Conforms s v → σ.check v = .ok ()

namespace SchemaStore.Fits

variable {store : SchemaStore} {s : Schema} {σ : Shape}

theorem tree : store.Fits s .tree := fun _ _ _ => rfl

theorem text : store.Fits AgentSchema.text .text := by
  intro v wellFormed conforms
  obtain ⟨content, rfl⟩ := conforms.text
  rfl

theorem filledText : store.Fits AgentSchema.filledText .text := by
  intro v wellFormed conforms
  obtain ⟨content, rfl, filled⟩ := conforms.filledText
  rfl

theorem identifier : store.Fits AgentSchema.identifier .text := by
  intro v wellFormed conforms
  obtain ⟨content, rfl, bounds⟩ := conforms.identifier
  rfl

theorem positive : store.Fits AgentSchema.positive (.natural 64) := by
  intro v wellFormed conforms
  obtain ⟨n, rfl, least, most⟩ := conforms.positive wellFormed
  simpa [Shape.check, Json.ofNat] using most

theorem positiveTo {bound bits : Nat} (exact_ : bound < 2 ^ 53) (small : bound < 2 ^ bits) :
    store.Fits (AgentSchema.positiveTo bound) (.natural bits) := by
  intro v wellFormed conforms
  obtain ⟨n, rfl, least, most⟩ := conforms.positiveTo wellFormed exact_
  simpa [Shape.check, Json.ofNat] using Nat.lt_of_le_of_lt most small

theorem oneOf {names : List String} : store.Fits (AgentSchema.oneOf names) (.choice names) := by
  intro v wellFormed conforms
  obtain ⟨name, inside, rfl⟩ := conforms.oneOf
  simp [Shape.check, Shape.checkVariant, inside]

theorem definition {name : String} (fits : store.Fits s σ)
    (found : store.definition? name = some s) : store.Fits (AgentSchema.definition name) σ :=
  fun v wellFormed conforms => fits v wellFormed (conforms.definition found)

theorem nullable (fits : store.Fits s σ) : store.Fits s (.nullable σ) :=
  fun v wellFormed conforms => Shape.check_nullable (fits v wellFormed conforms)

/-- Lists fit when their elements do, whatever else is asked of them. -/
theorem list {items : Schema} (fits : store.Fits items σ) (typed : s.rules.types = some [.array])
    (given : s.items = some items) : store.Fits s (.list σ) := by
  intro v wellFormed conforms
  obtain ⟨elements, rfl⟩ := JsonType.array_of_admits (conforms.ofType typed)
  cases wellFormed with
  | array each =>
      have checked : ∀ element ∈ elements, σ.check element = .ok () := fun element inside =>
        fits element (each element inside)
          (conforms.asks.elements elements rfl items given element inside)
      rw [Shape.check]
      exact forM_eq_ok.mpr checked

theorem record {name : String} {required : List String} {properties : Keyed Schema}
    {fields : List (Field Shape)}
    (covered : properties.Forall fun property => ∃ field,
      fields.find? (·.name = property.1) = some field ∧ store.Fits property.2 field.shape)
    (needed : ∀ field ∈ fields, field.required = true → field.name ∈ required) :
    store.Fits (AgentSchema.record required properties) (.record name fields) := by
  intro v wellFormed conforms
  obtain ⟨members, rfl, record⟩ := AgentSchema.recordOf_of_conforms conforms
  have each : ∀ member ∈ members,
      Shape.checkMember (fields.map (·.name)) fields member.1 member.2 = .ok () := by
    intro member inside
    obtain ⟨property, listed, met⟩ := record.listed member.1 member.2 inside
    obtain ⟨field, found, fits⟩ :=
      List.forall_iff_forall_mem.mp covered _ (Keyed.mem_of_get? listed)
    cases wellFormed with
    | object ordered each =>
        exact Shape.checkMember_of_find found (fits member.2 (each member inside) met)
  have complete : Shape.checkGiven fields (members.map (·.1)) = .ok () := by
    refine Shape.checkGiven_eq_ok fun field inside asked => ?_
    obtain ⟨v, given⟩ := record.required field.name (needed field inside asked)
    exact List.mem_map.mpr ⟨(field.name, v), Keyed.mem_of_get? given, rfl⟩
  rw [Shape.check, forM_eq_ok.mpr each, ok_bind]
  exact complete

end SchemaStore.Fits
end AgentManifest
