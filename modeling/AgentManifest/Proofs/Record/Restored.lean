import AgentManifest.Agent.Resource
import AgentManifest.Proofs.Json.WellFormed
import AgentManifest.Proofs.Keyed.Edited
import AgentManifest.Proofs.Record.Fits
import AgentManifest.Record.Reading

/-! Reading a record and writing it again. A schema restores a record if each well-formed value that
conforms to it can be read, and what is written then is that value, put into canonical form and
edited where the record leaves something out. -/

namespace AgentManifest

/-- What conforms to the schema can be read and is restored, edited, by writing it. -/
def SchemaStore.Restores {α : Type} (store : SchemaStore) (s : Schema) (read : Reading α)
    (write : α → Json) (kept : Json → Json) : Prop :=
  ∀ v, v.WellFormed → store.Conforms s v →
    v ≠ .null ∧ ∃ a, read v = .ok a ∧ (write a).canonical = kept v

namespace SchemaStore.Restores

variable {α : Type} {store : SchemaStore} {s : Schema} {read : Reading α} {write : α → Json}
  {kept : Json → Json}

theorem definition {name : String} (restores : store.Restores s read write kept)
    (found : store.definition? name = some s) :
    store.Restores (AgentSchema.definition name) read write kept :=
  fun v wellFormed conforms => restores v wellFormed (conforms.definition found)

theorem text : store.Restores AgentSchema.text Reading.text .string id := by
  intro v wellFormed conforms
  obtain ⟨content, rfl⟩ := conforms.text
  exact ⟨nofun, content, rfl, rfl⟩

theorem filledText : store.Restores AgentSchema.filledText Reading.text .string id := by
  intro v wellFormed conforms
  obtain ⟨content, rfl, filled⟩ := conforms.filledText
  exact ⟨nofun, content, rfl, rfl⟩

theorem identifier : store.Restores AgentSchema.identifier Reading.text .string id := by
  intro v wellFormed conforms
  obtain ⟨content, rfl, bounds⟩ := conforms.identifier
  exact ⟨nofun, content, rfl, rfl⟩

theorem positive : store.Restores AgentSchema.positive (Reading.natural 64) Json.ofNat id := by
  intro v wellFormed conforms
  obtain ⟨n, rfl, least, most⟩ := conforms.positive wellFormed
  refine ⟨nofun, n, ?_, rfl⟩
  simpa [Reading.natural, Json.ofNat] using most

theorem positiveTo {bound : Nat} (bits : Nat) (exact_ : bound < 2 ^ 53) (small : bound < 2 ^ bits) :
    store.Restores (AgentSchema.positiveTo bound) (Reading.natural bits) Json.ofNat id := by
  intro v wellFormed conforms
  obtain ⟨n, rfl, least, most⟩ := conforms.positiveTo wellFormed exact_
  refine ⟨nofun, n, ?_, rfl⟩
  simpa [Reading.natural, Json.ofNat] using Nat.lt_of_le_of_lt most small

theorem tree : store.Restores AgentSchema.tree Reading.tree id id := by
  intro v wellFormed conforms
  obtain ⟨members, rfl⟩ := conforms.tree
  exact ⟨nofun, _, rfl, wellFormed.canonical_eq⟩

theorem oneOf {names : List String} {variants : List (String × α)} {name : α → String}
    (known : ∀ given ∈ names, ∃ a, variants.lookup given = some a ∧ name a = given) :
    store.Restores (AgentSchema.oneOf names) (Reading.choice variants) (fun a => .string (name a))
      id := by
  intro v wellFormed conforms
  obtain ⟨given, inside, rfl⟩ := conforms.oneOf
  obtain ⟨a, found, named⟩ := known given inside
  refine ⟨nofun, a, ?_, ?_⟩
  · simp [Reading.choice, Reading.variant, found]
  · simp [Json.canonical, named]

section Members

variable {members : Members} {required : List String} {properties : Keyed Schema}

theorem needed (restores : store.Restores s read write kept)
    (edit : String → Json → Option Json) (name : String)
    (wellFormed : (Json.object members).WellFormed)
    (record : AgentSchema.RecordOf store required properties members) (asked : name ∈ required)
    (listed : Keyed.get? name properties = some s) (keeps : ∀ v, edit name v = some (kept v)) :
    ∃ a, neededMember name read members = .ok a ∧
      Keyed.piece edit name members = [(name, (write a).canonical)] := by
  obtain ⟨v, given⟩ := record.required name asked
  obtain ⟨notNull, a, readValue, written⟩ :=
    restores v (wellFormed.member given) (record.field listed given)
  refine ⟨a, ?_, ?_⟩
  · rw [neededMember, show List.lookup name members = some v from given]
    exact readValue
  · simp [Keyed.piece, given, keeps, written]

theorem option (restores : store.Restores s read write kept)
    (edit : String → Json → Option Json) (name : String)
    (wellFormed : (Json.object members).WellFormed)
    (record : AgentSchema.RecordOf store required properties members)
    (listed : Keyed.get? name properties = some s) (keeps : ∀ v, edit name v = some (kept v)) :
    ∃ o, optionMember name read members = .ok o ∧
      Keyed.piece edit name members =
        (givenMember name write o).map fun member => (member.1, member.2.canonical) := by
  cases given : Keyed.get? name members with
  | none =>
      refine ⟨none, ?_, ?_⟩
      · rw [optionMember, optionalMember, show List.lookup name members = none from given]
      · simp [Keyed.piece, given, givenMember]
  | some v =>
      obtain ⟨notNull, a, readValue, written⟩ :=
        restores v (wellFormed.member given) (record.field listed given)
      have readNullable : Reading.nullable read v = .ok (some a) := by
        rw [Reading.nullable, readValue]
        · rfl
        · exact notNull
      refine ⟨some a, ?_, ?_⟩
      · rw [optionMember, optionalMember, show List.lookup name members = some v from given]
        exact readNullable
      · simp [Keyed.piece, given, keeps, givenMember, written]

/-- Elements are read and written one by one. -/
theorem all (restores : store.Restores s read write id) {elements : List Json}
    (wellFormed : ∀ element ∈ elements, element.WellFormed)
    (conforms : ∀ element ∈ elements, store.Conforms s element) :
    ∃ as, Reading.all read elements = .ok as ∧
      as.map (fun a => (write a).canonical) = elements := by
  induction elements with
  | nil => exact ⟨[], rfl, rfl⟩
  | cons first rest ih =>
      obtain ⟨wellFormed_first, wellFormed_rest⟩ := List.forall_mem_cons.mp wellFormed
      obtain ⟨conforms_first, conforms_rest⟩ := List.forall_mem_cons.mp conforms
      obtain ⟨notNull, a, readFirst, written⟩ := restores first wellFormed_first conforms_first
      obtain ⟨as, readRest, writtenRest⟩ := ih wellFormed_rest conforms_rest
      refine ⟨a :: as, ?_, ?_⟩
      · simp [Reading.all, readFirst, readRest]
      · rw [List.map_cons, written, writtenRest]
        rfl

/-- The elements of a list; where the edit leaves out an empty one, so does the record. -/
theorem list {items : Schema} (restores : store.Restores items read write id)
    (edit : String → Json → Option Json) (name : String)
    (wellFormed : (Json.object members).WellFormed)
    (record : AgentSchema.RecordOf store required properties members)
    (listed : Keyed.get? name properties = some s) (typed : s.rules.types = some [.array])
    (ofItems : s.items = some items)
    (drops : Keyed.get? name members = some (.array []) → edit name (.array []) = none)
    (keeps : ∀ first rest, edit name (.array (first :: rest)) = some (.array (first :: rest))) :
    ∃ as, listMember name read members = .ok as ∧
      Keyed.piece edit name members =
        (filledMember name write as).map fun member => (member.1, member.2.canonical) := by
  cases given : Keyed.get? name members with
  | none =>
      refine ⟨[], ?_, ?_⟩
      · rw [listMember, optionalMember, show List.lookup name members = none from given]
      · simp [Keyed.piece, given, filledMember]
  | some v =>
      have conforms := record.field listed given
      obtain ⟨elements, rfl⟩ := JsonType.array_of_admits (conforms.ofType typed)
      cases wellFormed.member given with
      | array each =>
          obtain ⟨as, readAll, written⟩ :=
            restores.all each (conforms.asks.elements elements rfl items ofItems)
          refine ⟨as, ?_, ?_⟩
          · rw [listMember, optionalMember,
              show List.lookup name members = some (.array elements) from given]
            exact readAll
          · subst written
            cases as with
            | nil => simp [Keyed.piece, given, filledMember, drops given]
            | cons first rest =>
                simp [Keyed.piece, given, filledMember, keeps, Json.canonical, Function.comp_def]

end Members

end SchemaStore.Restores

/-- An object with its members changed or left out. -/
def Json.edited (edit : String → Json → Option Json) : Json → Json
  | .object members => .object (Keyed.edited edit members)
  | v => v

theorem Json.edited_unchanged : Json.edited Keyed.unchanged = id := by
  funext v
  cases v with
  | object members => simp [Json.edited]
  | null | bool b | number n | string s | array elements => rfl

/-- A record that writes the pieces of its members, in any order, writes its members. -/
theorem Json.canonical_eq_edited {members : Members} {edit : String → Json → Option Json}
    {written : List (String × Json)} (names : List String)
    (wellFormed : (Json.object members).WellFormed) (distinct : names.Nodup)
    (known : ∀ key v, Keyed.get? key members = some v → (edit key v).isSome → key ∈ names)
    (laid : (written.map fun member => (member.1, member.2.canonical)) =
      names.flatMap fun name => Keyed.piece edit name members) :
    (Json.object written).canonical = Json.edited edit (.object members) := by
  rw [Json.canonical, Json.canonicalMembers_eq_map, laid,
    Keyed.ofList_pieces wellFormed.ordered distinct known]
  rfl

theorem Reading.record_eq_ok_iff {α : Type} {shape : Shape} {members : Members} {a : α}
    {ofMembers : List (String × Json) → Except Mismatch α} :
    Reading.record shape ofMembers (.object members) = .ok a ↔
      shape.check (.object members) = .ok () ∧ ofMembers members = .ok a := by
  have same : shape.members (.object members) = members := by
    cases shape <;> rfl
  rw [Reading.record, bind_eq_ok, exists_and_right, exists_eq_ok_unit, same]

theorem Reading.record_eq_ok {α : Type} {shape : Shape} {members : Members} {a : α}
    {ofMembers : List (String × Json) → Except Mismatch α}
    (checked : shape.check (.object members) = .ok ()) (read : ofMembers members = .ok a) :
    Reading.record shape ofMembers (.object members) = .ok a :=
  Reading.record_eq_ok_iff.mpr ⟨checked, read⟩

/-- A record is restored if its members can be read and written one by one. -/
theorem SchemaStore.Restores.record {α : Type} {store : SchemaStore} {required : List String}
    {properties : Keyed Schema} {shape : Shape}
    {ofMembers : List (String × Json) → Except Mismatch α} {write : α → Json}
    {edit : String → Json → Option Json} (names : List String)
    (fits : store.Fits (AgentSchema.record required properties) shape)
    (known : properties.map (·.1) ⊆ names) (distinct : names.Nodup)
    (each : ∀ members, (Json.object members).WellFormed →
      AgentSchema.RecordOf store required properties members →
      ∃ a written, ofMembers members = .ok a ∧ write a = .object written ∧
        (written.map fun member => (member.1, member.2.canonical)) =
          names.flatMap fun name => Keyed.piece edit name members) :
    store.Restores (AgentSchema.record required properties) (Reading.record shape ofMembers) write
      (Json.edited edit) := by
  intro v wellFormed conforms
  have checked := fits v wellFormed conforms
  obtain ⟨members, rfl, record⟩ := AgentSchema.recordOf_of_conforms conforms
  obtain ⟨a, written, read, wrote, laid⟩ := each members wellFormed record
  refine ⟨nofun, a, Reading.record_eq_ok checked read, ?_⟩
  rw [wrote]
  exact Json.canonical_eq_edited names wellFormed distinct
    (fun key v given kept => record.name_mem given known) laid

end AgentManifest
