import Mathlib.Data.Rat.Cast.Order
import AgentManifest.Proofs.Decimal.Integers
import AgentManifest.Proofs.Schema.Compiled
import AgentManifest.Proofs.Schema.Values
import AgentManifest.Proofs.Validation.Quiet
import AgentManifest.Proofs.Validation.Draft

/-! Checking against a schema that was read agrees with the draft on the schema as it is written, as
far as integers go by how they are stored. This is shown of plain schemas: those that list only
texts and bound only integers, by bounds that binary64 numbers tell apart. -/

namespace AgentManifest

/-- Every value meets the schema that asks for nothing. -/
theorem SchemaStore.conforms_any (store : SchemaStore) (v : Json) : store.Conforms .any v := by
  refine conforms_of_asks ⟨nofun, ⟨nofun, nofun, ?_, ?_, ?_⟩, nofun, nofun, nofun, ?_⟩
  all_goals simp [Schema.any, Additional.Admits]

namespace Draft

/-- Whether a keyword on a value itself means the same whatever becomes of numbers when they are
stored. -/
def plainOwn (type : Option Json) (key : String) (value : Json) : Bool :=
  match key, value with
  | "$ref", .string target => target.toList.all fun c => c != '~' && c != '%'
  | "enum", .array values => values.all fun w => (text? w).isSome
  | "const", w => (text? w).isSome
  | "minimum", .number (.integer i) | "maximum", .number (.integer i) =>
    0 ≤ i && i < 0x20000000000000 && type.bind text? == some "integer"
  | "minimum", _ | "maximum", _ => false
  | _, _ => true

mutual

def plain : Json → Bool
  | .bool _ => true
  | .object keywords =>
    decide (keywords.map (·.1)).Nodup && plainKeywords (Keyed.get? "type" keywords) keywords
  | _ => false

def plainKeywords (type : Option Json) : List (String × Json) → Bool
  | [] => true
  | (key, value) :: rest =>
    (if key = "items" ∨ key = "additionalProperties" then plain value
      else if key = "properties" ∨ key = "$defs" then plainListed value
      else plainOwn type key value) && plainKeywords type rest

def plainListed : Json → Bool
  | .object listed => plainEach listed
  | _ => false

def plainEach : List (String × Json) → Bool
  | [] => true
  | (_, s) :: rest => plain s && plainEach rest

end

variable {document s v w : Json} {keywords : Members} {key : String} {value : Json}
variable {type : Option Json} {parsed : Schema}

theorem plain_keyword (all : plainKeywords type keywords = true)
    (given : Keyed.get? key keywords = some value) :
    (if key = "items" ∨ key = "additionalProperties" then plain value
      else if key = "properties" ∨ key = "$defs" then plainListed value
      else plainOwn type key value) = true := by
  induction keywords with
  | nil => cases given
  | cons first rest ih =>
      obtain ⟨name, v⟩ := first
      rw [plainKeywords, Bool.and_eq_true] at all
      rw [Keyed.get?_cons] at given
      split at given
      next same =>
        cases given
        exact same ▸ all.1
      next => exact ih all.2 given

theorem plain_of_plainEach {listed : List (String × Json)} (all : plainEach listed = true)
    (given : Keyed.get? key listed = some s) : plain s = true := by
  induction listed with
  | nil => cases given
  | cons first rest ih =>
      obtain ⟨name, v⟩ := first
      rw [plainEach, Bool.and_eq_true] at all
      rw [Keyed.get?_cons] at given
      split at given
      next => exact Option.some.inj given ▸ all.1
      next => exact ih all.2 given

theorem eq_string_of_text? (given : (text? w).isSome = true) : ∃ text, w = .string text := by
  cases w with
  | string text => exact ⟨text, rfl⟩
  | _ => simp [text?] at given

theorem bound_of_plainOwn (named : key = "minimum" ∨ key = "maximum")
    (plainly : plainOwn type key w = true) :
    type = some (.string "integer") ∧ ∃ n < 2 ^ 53, w = Json.ofNat n := by
  obtain ⟨i, rfl, range, typed⟩ : ∃ i : Int, w = .number (.integer i) ∧
      (0 ≤ i ∧ i < 0x20000000000000) ∧ type.bind text? = some "integer" := by
    rcases named with rfl | rfl
    all_goals
      cases w with
      | number n => cases n <;> simp_all [plainOwn]
      | _ => simp [plainOwn] at plainly
  obtain ⟨t, rfl, read⟩ := Option.bind_eq_some_iff.mp typed
  obtain ⟨text, rfl⟩ := eq_string_of_text? (by rw [read]; rfl)
  cases read
  lift i to Nat using range.1
  exact ⟨rfl, i, by omega, rfl⟩

/-- What is known of a plain schema that is an object. -/
structure PlainKeywords (keywords : Members) : Prop where
  distinct : (keywords.map (·.1)).Nodup
  items : ∀ s, Keyed.get? "items" keywords = some s → plain s = true
  additional : ∀ s, Keyed.get? "additionalProperties" keywords = some s → plain s = true
  properties : ∀ listed, Keyed.get? "properties" keywords = some (.object listed) →
    ∀ key s, Keyed.get? key listed = some s → plain s = true
  enum : ∀ values, Keyed.get? "enum" keywords = some (.array values) →
    ∀ w ∈ values, ∃ text, w = .string text
  const : ∀ w, Keyed.get? "const" keywords = some w → ∃ text, w = .string text
  bounds : ∀ key w, key = "minimum" ∨ key = "maximum" → Keyed.get? key keywords = some w →
    Keyed.get? "type" keywords = some (.string "integer") ∧ ∃ n < 2 ^ 53, w = Json.ofNat n

theorem plainKeywords_of_plain (all : plain (.object keywords) = true) :
    PlainKeywords keywords := by
  rw [plain, Bool.and_eq_true, decide_eq_true_iff] at all
  obtain ⟨distinct, each⟩ := all
  refine ⟨distinct, ?_, ?_, ?_, ?_, ?_, ?_⟩
  · intro s given
    simpa using plain_keyword each given
  · intro s given
    simpa using plain_keyword each given
  · intro listed given key s found
    have all : plainEach listed = true := by simpa [plainListed] using plain_keyword each given
    exact plain_of_plainEach all found
  · intro values given w inside
    have texts : ∀ w ∈ values, (text? w).isSome := by
      simpa [plainOwn] using plain_keyword each given
    exact eq_string_of_text? (texts w inside)
  · intro w given
    exact eq_string_of_text? (by simpa [plainOwn] using plain_keyword each given)
  · intro key w named given
    have plainly := plain_keyword each given
    exact bound_of_plainOwn named (by rcases named with rfl | rfl <;> simpa using plainly)

theorem hasType_iff {t : JsonType} {name : String} (named : JsonType.ofName? name = some t) :
    HasType Number.StoredWhole name v ↔ t.admits (JsonType.ofValue v) = true := by
  unfold JsonType.ofName? at named
  split at named
  all_goals
    cases named <;> cases v with
    | number n => cases n <;> simp [HasType, JsonType.admits, JsonType.ofValue, Number.StoredWhole]
    | _ => simp [HasType, JsonType.admits, JsonType.ofValue]

theorem typesNamed_iff {names : List String} {ts : List JsonType}
    (read : Schema.typesNamed names = .ok ts) :
    (∃ t ∈ ts, t.admits (JsonType.ofValue v) = true) ↔
      ∃ name ∈ names, HasType Number.StoredWhole name v := by
  induction names generalizing ts with
  | nil =>
      cases read
      simp
  | cons name rest ih =>
      unfold Schema.typesNamed at read
      split at read
      next t named =>
        obtain ⟨others, readOthers, same⟩ := bind_eq_ok.mp read
        cases same
        simp only [List.exists_mem_cons_iff]
        rw [ih readOthers, hasType_iff named]
      next => cases read

theorem filterMap_text?_of_names? {values : List Json} {names : List String}
    (read : Schema.names? values = some names) : values.filterMap text? = names := by
  obtain rfl := Schema.names?_eq_some_iff.mp read
  simp [List.filterMap_map, Function.comp_def, text?]

theorem types_iff {ts : List JsonType} {t : Json} (read : Schema.types t = .ok ts) :
    (∃ t ∈ ts, t.admits (JsonType.ofValue v) = true) ↔
      ∃ name ∈ typeNames t, HasType Number.StoredWhole name v := by
  unfold Schema.types at read
  split at read
  next name => exact typesNamed_iff read
  next first rest =>
    split at read
    next names named =>
      rw [typeNames, filterMap_text?_of_names? named]
      exact typesNamed_iff read
    next => cases read
  next => cases read

theorem same_iff_equal {s : String} : (Json.string s).same v = true ↔ Equal (.string s) v := by
  constructor
  · intro same
    cases v with
    | string content =>
        rw [Json.same, beq_iff_eq] at same
        exact same ▸ .string s
    | _ => simp [Json.same] at same
  · rintro ⟨⟩
    simp [Json.same]

/-- What a part asks and what the keyword asks that it is read from agree if they do for whatever
can be read. -/
theorem forall_part_iff {α : Type} {read : Json → Except SchemaFault α} {given : Option Json}
    {part : Option α} {P : α → Prop} {Q : Json → Prop}
    (readAs : Schema.ReadAs (Schema.Reads read) none given part)
    (agree : ∀ w a, read w = .ok a → given = some w → (P a ↔ Q w)) :
    (∀ a, part = some a → P a) ↔ ∀ w, given = some w → Q w := by
  cases given with
  | none =>
      cases (readAs : part = none)
      simp
  | some w =>
      obtain ⟨a, readW, rfl⟩ := readAs
      simpa using agree w a readW rfl

/-- The same for a keyword that is a count. -/
theorem forall_count_iff {given : Option Json} {part : Option Nat} {P : Nat → Prop} {Q : ℚ → Prop}
    (readAs : Schema.ReadAs (Schema.Reads Schema.count) none given part)
    (agree : ∀ n : Nat, P n ↔ Q n) :
    (∀ n, part = some n → P n) ↔ ∀ n : Number, given = some (.number n) → Q n.value := by
  rw [forall_part_iff (Q := fun w => ∀ n, w = .number n → Q n.value) readAs]
  · exact ⟨fun all n given => all _ given n rfl, fun all w given n same => all n (same ▸ given)⟩
  · intro w n read _
    rw [Schema.count_eq_ok_iff.mp read, Json.ofNat]
    simp [agree, Number.value]

/-- The same for a keyword that is a bound, which only integers have. -/
theorem forall_bound_iff {part : Option Binary64} {P : Binary64 → Prop} {Q : ℚ → Prop}
    (plainly : PlainKeywords keywords) (named : key = "minimum" ∨ key = "maximum")
    (readAs : Schema.ReadAs (Schema.Reads Schema.bound) none (Keyed.get? key keywords) part)
    (agree : Keyed.get? "type" keywords = some (.string "integer") →
      ∀ n : Nat, n < 2 ^ 53 → (P (Number.integer n).toBinary64 ↔ Q n)) :
    (∀ b, part = some b → P b) ↔
      ∀ n : Number, Keyed.get? key keywords = some (.number n) → Q n.value := by
  rw [forall_part_iff (Q := fun w => ∀ n, w = .number n → Q n.value) readAs]
  · exact ⟨fun all n given => all _ given n rfl, fun all w given n same => all n (same ▸ given)⟩
  · intro w b read given
    obtain ⟨typed, n, exact_, rfl⟩ := plainly.bounds key w named given
    cases read
    simp [agree typed n exact_, Json.ofNat, Number.value]

theorem allowed_iff (read : parsed.ReadFrom keywords) (plainly : PlainKeywords keywords) :
    (∀ values, parsed.rules.allowed = some values → ∃ w ∈ values, w.same v = true) ↔
      (∀ values, Keyed.get? "enum" keywords = some (.array values) → ∃ w ∈ values, Equal w v) ∧
        ∀ w, Keyed.get? "const" keywords = some w → Equal w v := by
  cases enum : Keyed.get? "enum" keywords with
  | none =>
      cases const : Keyed.get? "const" keywords with
      | none => simp [read.free enum const]
      | some w =>
          obtain ⟨text, rfl⟩ := plainly.const w const
          simp [read.const _ const, same_iff_equal]
  | some listed =>
      obtain ⟨values, readValues, allowed⟩ := read.enum listed enum
      obtain ⟨-, rfl⟩ := Schema.enumerated_eq_ok_iff.mp readValues
      have agree : (∃ w ∈ values, w.same v = true) ↔ ∃ w ∈ values, Equal w v := by
        refine exists_congr fun w => and_congr_right fun inside => ?_
        obtain ⟨text, rfl⟩ := plainly.enum values enum w inside
        exact same_iff_equal
      cases const : Keyed.get? "const" keywords with
      | none => simp [allowed, agree]
      | some w =>
          -- A schema with both keywords is not read, but if it were, both would list one value.
          rw [read.const w const, Option.some.injEq] at allowed
          simp [read.const w const, ← allowed] at agree ⊢
          simp [agree]

theorem required_iff {members : Members} (read : parsed.ReadFrom keywords) :
    (∀ name ∈ parsed.rules.required, ∃ member, (name, member) ∈ members) ↔
      ∀ names, Keyed.get? "required" keywords = some (.array names) →
        ∀ name, .string name ∈ names → ∃ member, (name, member) ∈ members := by
  have readAs := read.required
  cases given : Keyed.get? "required" keywords with
  | none =>
      rw [given] at readAs
      have none_required : parsed.rules.required = [] := readAs
      simp [none_required]
  | some w =>
      rw [given] at readAs
      have readNames : Schema.requiredNames w = .ok parsed.rules.required := readAs
      obtain rfl := Schema.requiredNames_eq_ok_iff.mp readNames
      simp

/-- Where only integers are bounded, a value of the type asked for is as large as its bounds say if
and only if it is after rounding. -/
theorem number_iff (read : parsed.ReadFrom keywords) (plainly : PlainKeywords keywords)
    (wellFormed : v.WellFormed)
    (typed : ∀ t, Keyed.get? "type" keywords = some t →
      ∃ name ∈ typeNames t, HasType Number.StoredWhole name v) :
    (∀ m, v = .number m → (∀ least, parsed.rules.minimum = some least →
        least.key ≤ m.toBinary64.key) ∧
      ∀ most, parsed.rules.maximum = some most → m.toBinary64.key ≤ most.key) ↔
    (∀ n : Number, Keyed.get? "minimum" keywords = some (.number n) →
        ∀ m, v = .number m → n.value ≤ m.value) ∧
      ∀ n : Number, Keyed.get? "maximum" keywords = some (.number n) →
        ∀ m, v = .number m → m.value ≤ n.value := by
  have integral : Keyed.get? "type" keywords = some (.string "integer") → ∀ m, v = .number m →
      ∃ i : Int, m = .integer i ∧ Number.fits i = true := by
    rintro given m rfl
    obtain ⟨name, listed, typed⟩ := typed _ given
    obtain rfl := List.mem_singleton.mp listed
    obtain ⟨i, rfl⟩ : m.StoredWhole := typed
    cases wellFormed with
    | number stored => exact ⟨i, rfl, stored⟩
  rw [← forall_bound_iff (P := fun b => ∀ m, v = .number m → b.key ≤ m.toBinary64.key)
      (Q := fun q => ∀ m, v = .number m → q ≤ m.value) plainly (.inl rfl) read.minimum,
    ← forall_bound_iff (P := fun b => ∀ m, v = .number m → m.toBinary64.key ≤ b.key)
      (Q := fun q => ∀ m, v = .number m → m.value ≤ q) plainly (.inr rfl) read.maximum]
  · exact ⟨fun all => ⟨fun b given m same => (all m same).1 b given,
      fun b given m same => (all m same).2 b given⟩,
      fun all m same => ⟨fun b given => all.1 b given m same, fun b given => all.2 b given m same⟩⟩
  · intro given n exact_
    refine forall_congr' fun m => imp_congr_right fun same => ?_
    obtain ⟨i, rfl, stored⟩ := integral given m same
    rw [Number.key_integer_le_iff n stored exact_, Number.value]
    exact_mod_cast Iff.rfl
  · intro given n exact_
    refine forall_congr' fun m => imp_congr_right fun same => ?_
    obtain ⟨i, rfl, stored⟩ := integral given m same
    rw [Number.le_key_integer_iff n stored exact_, Number.value]
    exact_mod_cast Iff.rfl

/-- What the rules of a schema ask of a value itself is what its keywords ask. -/
theorem own_iff (read : parsed.ReadFrom keywords) (plainly : PlainKeywords keywords)
    (wellFormed : v.WellFormed) :
    Own Number.StoredWhole keywords v ↔ parsed.rules.Hold v ∧
      ∀ members, v = .object members → ∀ name ∈ parsed.rules.required,
        ∃ member, (name, member) ∈ members := by
  have types : (∀ types, parsed.rules.types = some types → ∃ t ∈ types,
        t.admits (JsonType.ofValue v) = true) ↔
      ∀ t, Keyed.get? "type" keywords = some t →
        ∃ name ∈ typeNames t, HasType Number.StoredWhole name v :=
    forall_part_iff read.types fun t ts readTypes _ => types_iff readTypes
  have minLength := forall_count_iff (P := fun n => ∀ content, v = .string content →
    n ≤ content.length) (Q := fun q => ∀ content, v = .string content → q ≤ content.length)
    read.minLength (by simp)
  have maxLength := forall_count_iff (P := fun n => ∀ content, v = .string content →
    content.length ≤ n) (Q := fun q => ∀ content, v = .string content → content.length ≤ q)
    read.maxLength (by simp)
  have minItems := forall_count_iff (P := fun n => ∀ elements, v = .array elements →
    n ≤ elements.length) (Q := fun q => ∀ elements, v = .array elements → q ≤ elements.length)
    read.minItems (by simp)
  have maxItems := forall_count_iff (P := fun n => ∀ elements, v = .array elements →
    elements.length ≤ n) (Q := fun q => ∀ elements, v = .array elements → elements.length ≤ q)
    read.maxItems (by simp)
  constructor
  · intro own
    have number := (number_iff read plainly wellFormed own.type).mpr ⟨own.minimum, own.maximum⟩
    refine ⟨⟨types.mpr own.type, (allowed_iff read plainly).mpr ⟨own.enum, own.const⟩, ?_, number,
      ?_⟩, ?_⟩
    · exact fun content same => ⟨fun least given => minLength.mpr own.minLength least given _ same,
        fun most given => maxLength.mpr own.maxLength most given _ same⟩
    · exact fun elements same => ⟨fun least given => minItems.mpr own.minItems least given _ same,
        fun most given => maxItems.mpr own.maxItems most given _ same⟩
    · exact fun members same => (required_iff read).mpr fun names given =>
        own.required names given members same
  · rintro ⟨hold, required⟩
    have typed := types.mp hold.types
    obtain ⟨minimum, maximum⟩ := (number_iff read plainly wellFormed typed).mp hold.number
    obtain ⟨enum, const⟩ := (allowed_iff read plainly).mp hold.allowed
    refine ⟨typed, enum, const, ?_, ?_, minimum, maximum, ?_, ?_, ?_⟩
    · exact minLength.mp fun n given content same => (hold.text content same).1 n given
    · exact maxLength.mp fun n given content same => (hold.text content same).2 n given
    · exact minItems.mp fun n given elements same => (hold.size elements same).1 n given
    · exact maxItems.mp fun n given elements same => (hold.size elements same).2 n given
    · exact fun names given members same => (required_iff read).mp (required members same) names given

/-- A plain schema that was read, and what it was read from. -/
structure Parsed (s : Json) (parsed : Schema) : Prop where
  plainly : plain s = true
  read : ∃ at_, Schema.ofJson at_ s = .ok parsed

/-- Without keywords nothing is asked. -/
theorem asks_nil {whole : Number → Prop} {R : Json → Json → Prop} :
    Asks whole document R [] v where
  own := by constructor <;> simp
  reference := by simp
  items := by simp
  properties := by simp
  additional := by simp

/-- What was read is an object, or asks what an object without keywords does. -/
theorem Parsed.exists_keywords (from_ : Parsed s parsed) :
    ∃ keywords, parsed.ReadFrom keywords ∧ PlainKeywords keywords ∧
      ∀ whole document R v, Meets whole document R s v ↔ Asks whole document R keywords v := by
  obtain ⟨plainly, at_, read⟩ := from_
  cases s with
  | bool b =>
      cases b with
      | false => cases read
      | true =>
          cases read
          have readNothing : Schema.ofMembers [] .any [] = .ok .any := rfl
          exact ⟨[], Schema.readFrom_of_ofMembers List.nodup_nil readNothing,
            by constructor <;> simp, fun _ _ _ _ => ⟨fun _ => asks_nil, fun _ => rfl⟩⟩
  | object keywords =>
      have plainly := plainKeywords_of_plain plainly
      exact ⟨keywords, Schema.readFrom_of_ofJson plainly.distinct read, plainly,
        fun _ _ _ _ => Iff.rfl⟩
  | null | number n | string text | array elements => cases read

section

variable {members : Members} {store : SchemaStore} {name : String}

/-- The definition of a name was read from what the document has under the name. -/
theorem definition_read (compiled : SchemaStore.ofJson (.object members) = .ok store) :
    Schema.ReadAs (fun v part => ∃ at_ inner, Schema.ofJson at_ v = .ok inner ∧ part = some inner)
      none (definition? (.object members) name) (store.definition? name) := by
  have readAs := SchemaStore.readAs_of_ofJson compiled
  unfold definition? SchemaStore.definition?
  dsimp only
  cases given : Keyed.get? "$defs" members with
  | none =>
      rw [given] at readAs
      rw [show store.definitions = [] from readAs]
      rfl
  | some written =>
      rw [given] at readAs
      obtain ⟨at_, definitions, rfl, read⟩ := readAs
      exact Schema.readAs_of_ofProperties read name

/-- A reference was read from the path of the definition it names. -/
theorem reference_iff (read : parsed.ReadFrom keywords) : parsed.rules.reference = some name ↔
    Keyed.get? "$ref" keywords = some (.string ("#/$defs/" ++ name)) := by
  have readAs := read.reference
  cases given : Keyed.get? "$ref" keywords with
  | none =>
      rw [given] at readAs
      rw [show parsed.rules.reference = none from readAs]
      simp
  | some w =>
      rw [given] at readAs
      obtain ⟨target, readTarget, named⟩ := readAs
      rw [named, (Schema.referenceTarget?_eq_some_iff.mp readTarget).2]
      simp

theorem plain_definition (plainly : plain (.object members) = true)
    (found : definition? (.object members) name = some s) : plain s = true := by
  rw [plain, Bool.and_eq_true] at plainly
  unfold definition? at found
  dsimp only at found
  split at found
  next definitions given =>
    have listed : plainEach definitions = true := by
      simpa [plainListed] using plain_keyword plainly.2 given
    exact plain_of_plainEach listed found
  next => cases found

/-- A part was read from what is given if and only if something is. -/
theorem part_parsed {given : Option Json} {part : Option Schema}
    (readAs : Schema.ReadAs (fun v part => ∃ at_ inner, Schema.ofJson at_ v = .ok inner ∧
      part = some inner) none given part)
    (plainly : ∀ s, given = some s → plain s = true) :
    (∀ inner, part = some inner → ∃ s, given = some s ∧ Parsed s inner) ∧
      ∀ s, given = some s → ∃ inner, part = some inner ∧ Parsed s inner := by
  cases given with
  | none =>
      cases (readAs : part = none)
      simp
  | some s =>
      obtain ⟨at_, inner, read, rfl⟩ := readAs
      have parsed : Parsed s inner := ⟨plainly s rfl, at_, read⟩
      constructor
      · rintro _ ⟨⟩
        exact ⟨s, rfl, parsed⟩
      · rintro _ ⟨⟩
        exact ⟨inner, rfl, parsed⟩

theorem property_parsed (read : parsed.ReadFrom keywords) (plainly : PlainKeywords keywords)
    (key : String) :
    (∀ inner, Keyed.get? key parsed.properties = some inner → ∃ listed s,
        Keyed.get? "properties" keywords = some (.object listed) ∧ Keyed.get? key listed = some s ∧
          Parsed s inner) ∧
      ∀ listed s, Keyed.get? "properties" keywords = some (.object listed) →
        Keyed.get? key listed = some s →
          ∃ inner, Keyed.get? key parsed.properties = some inner ∧ Parsed s inner := by
  have readAs := read.properties
  cases given : Keyed.get? "properties" keywords with
  | none =>
      rw [given] at readAs
      rw [show parsed.properties = [] from readAs]
      simp
  | some w =>
      rw [given] at readAs
      obtain ⟨at_, listed, rfl, readEach⟩ := readAs
      obtain ⟨back, forth⟩ := part_parsed (Schema.readAs_of_ofProperties readEach key)
        (plainly.properties listed given key)
      constructor
      · intro inner found
        obtain ⟨s, found, parsed⟩ := back inner found
        exact ⟨listed, s, rfl, found, parsed⟩
      · rintro _ s ⟨⟩ found
        exact forth s found

theorem mem_keys_iff {α : Type} {entries : Keyed α} :
    key ∈ Keyed.keys entries ↔ ∃ a, Keyed.get? key entries = some a := by
  rw [← Option.isSome_iff_exists, ← Keyed.contains, Keyed.contains_iff, Keyed.keys, List.mem_map]
  simp

theorem mem_listedNames_iff : key ∈ listedNames keywords ↔ ∃ listed s,
    Keyed.get? "properties" keywords = some (.object listed) ∧ Keyed.get? key listed = some s := by
  unfold listedNames
  split
  next listed given => simp [given, mem_keys_iff]
  next other =>
    simp only [List.not_mem_nil, false_iff]
    rintro ⟨listed, s, given, -⟩
    exact other listed given

/-- What is not listed where it was read is not listed where it was written, and conversely. -/
theorem unlisted_iff (read : parsed.ReadFrom keywords) (plainly : PlainKeywords keywords) :
    Keyed.get? key parsed.properties = none ↔ key ∉ listedNames keywords := by
  obtain ⟨back, forth⟩ := property_parsed read plainly key
  rw [mem_listedNames_iff]
  constructor
  · rintro unlisted ⟨listed, s, given, found⟩
    obtain ⟨inner, found, -⟩ := forth listed s given found
    rw [unlisted] at found
    cases found
  · intro unlisted
    by_contra some_property
    obtain ⟨inner, found⟩ := Option.ne_none_iff_exists'.mp some_property
    obtain ⟨listed, s, given, found, -⟩ := back inner found
    exact unlisted ⟨listed, s, given, found⟩

variable (plainly : plain (.object members) = true)
variable (compiled : SchemaStore.ofJson (.object members) = .ok store)

include plainly compiled

theorem definition_parsed (name : String) :
    (∀ inner, store.definition? name = some inner → ∃ s,
        definition? (.object members) name = some s ∧ Parsed s inner) ∧
      ∀ s, definition? (.object members) name = some s → ∃ inner,
        store.definition? name = some inner ∧ Parsed s inner :=
  part_parsed (definition_read compiled) fun _ => plain_definition plainly

/-- A valid value meets what was read. -/
theorem conforms_of_valid (from_ : Parsed s parsed) (wellFormed : v.WellFormed)
    (valid : Valid Number.StoredWhole (.object members) s v) : store.Conforms parsed v := by
  refine ⟨fun parsed v => v.WellFormed ∧ ∃ s, Parsed s parsed ∧
    Valid Number.StoredWhole (.object members) s v, ?_, wellFormed, s, from_, valid⟩
  rintro parsed v ⟨wellFormed, s, from_, valid⟩
  obtain ⟨keywords, read, plainKeywords, meets⟩ := from_.exists_keywords
  have asked := (meets _ _ _ _).mp valid.meets
  obtain ⟨hold, required⟩ := (own_iff read plainKeywords wellFormed).mp asked.own
  refine ⟨?_, hold, ?_, required, ?_, ?_⟩
  · intro name given
    obtain ⟨d, found, valid⟩ := asked.reference name ((reference_iff read).mp given)
    obtain ⟨inner, found', from_⟩ := (definition_parsed plainly compiled name).2 d found
    exact ⟨inner, found', wellFormed, d, from_, valid⟩
  · rintro elements rfl items given element inside
    obtain ⟨s, given, from_⟩ := (part_parsed read.items plainKeywords.items).1 items given
    exact ⟨wellFormed.of_array element inside, s, from_,
      asked.items s given elements rfl element inside⟩
  · rintro members' rfl key member inside property listed
    obtain ⟨written, s, given, found, from_⟩ :=
      (property_parsed read plainKeywords key).1 property listed
    exact ⟨wellFormed.of_object _ inside, s, from_,
      asked.properties written given members' rfl key member inside s found⟩
  · rintro members' rfl key member inside unlisted
    have unlisted := (unlisted_iff read plainKeywords).mp unlisted
    have readAs := read.additional
    cases given : Keyed.get? "additionalProperties" keywords with
    | none =>
        rw [given] at readAs
        rw [show parsed.additional = .allowed from readAs]
        trivial
    | some w =>
        rw [given] at readAs
        have valid := asked.additional w given members' rfl key member inside unlisted
        revert readAs
        generalize parsed.additional = additional
        rintro (_ | _ | ⟨tree, readInner⟩)
        · trivial
        · cases valid.meets
        · exact ⟨wellFormed.of_object _ inside, w, ⟨plainKeywords.additional w given, _, readInner⟩,
            valid⟩

/-- A value that meets what was read is valid. -/
theorem valid_of_conforms (from_ : Parsed s parsed) (wellFormed : v.WellFormed)
    (conforms : store.Conforms parsed v) : Valid Number.StoredWhole (.object members) s v := by
  refine ⟨fun s v => v.WellFormed ∧ ∃ parsed, Parsed s parsed ∧ store.Conforms parsed v, ?_,
    wellFormed, parsed, from_, conforms⟩
  rintro s v ⟨wellFormed, parsed, from_, conforms⟩
  obtain ⟨keywords, read, plainKeywords, meets⟩ := from_.exists_keywords
  have asked := conforms.asks
  rw [meets]
  refine ⟨(own_iff read plainKeywords wellFormed).mpr ⟨asked.own, asked.required⟩, ?_, ?_, ?_, ?_⟩
  · intro name given
    obtain ⟨inner, found, conforms⟩ := asked.reference name ((reference_iff read).mpr given)
    obtain ⟨d, found', from_⟩ := (definition_parsed plainly compiled name).1 inner found
    exact ⟨d, found', wellFormed, inner, from_, conforms⟩
  · rintro s given elements rfl element inside
    obtain ⟨inner, given, from_⟩ := (part_parsed read.items plainKeywords.items).2 s given
    exact ⟨wellFormed.of_array element inside, inner, from_,
      asked.elements elements rfl inner given element inside⟩
  · rintro listed given members' rfl key member inside s found
    obtain ⟨inner, found', from_⟩ :=
      (property_parsed read plainKeywords key).2 listed s given found
    exact ⟨wellFormed.of_object _ inside, inner, from_,
      asked.properties members' rfl key member inside inner found'⟩
  · rintro s given members' rfl key member inside unlisted
    have admitted := asked.additional members' rfl key member inside
      ((unlisted_iff read plainKeywords).mpr unlisted)
    have readAs := read.additional
    rw [given] at readAs
    have memberWellFormed : member.WellFormed := wellFormed.of_object _ inside
    revert admitted
    revert readAs
    generalize parsed.additional = additional
    rintro (_ | _ | ⟨tree, readInner⟩) admitted
    · exact ⟨memberWellFormed, .any, ⟨rfl, [], rfl⟩, store.conforms_any member⟩
    · exact admitted.elim
    · exact ⟨memberWellFormed, _, ⟨plainKeywords.additional s given, _, readInner⟩, admitted⟩

/-- Checking against a definition that was read from a plain document finds no violation exactly when
the value is valid for what the document has there, if integers are the numbers that are stored as
such. -/
theorem violations_eq_nil_iff {path : String} {sub : SubSchema}
    (chosen : store.lookup path = .ok sub)
    (named : SchemaStore.segments path = ["$defs", name]) :
    ∃ d, definition? (.object members) name = some d ∧ ∀ v, v.WellFormed →
      (sub.violations v = [] ↔ Valid Number.StoredWhole (.object members) d v) := by
  have closed := SchemaStore.closed_of_ofJson compiled
  obtain ⟨rfl, inside⟩ := closed.lookup chosen
  obtain ⟨-, selected⟩ := SchemaStore.lookup_eq_ok chosen
  have found : sub.store.definition? name = some sub.schema := by
    simpa [named, SchemaStore.select?, SchemaStore.descend?] using selected
  obtain ⟨d, found', from_⟩ := (definition_parsed plainly compiled name).1 _ found
  refine ⟨d, found', fun v wellFormed => ?_⟩
  have verdict : sub.violations v = [] ↔ sub.store.Conforms sub.schema v :=
    SchemaStore.quiet_iff_conforms closed inside
  exact verdict.trans ⟨valid_of_conforms plainly compiled from_ wellFormed,
    conforms_of_valid plainly compiled from_ wellFormed⟩

end

end Draft
end AgentManifest
