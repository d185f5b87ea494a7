import AgentManifest.Proofs.Json.Reading
import AgentManifest.Proofs.Schema.Closed
import AgentManifest.Proofs.Schema.Faults
import AgentManifest.Proofs.Schema.Values

/-! Which trees are read as schemas. `Written` says how a schema is written, keyword by keyword,
without reading it; a tree is read exactly if it is written so and all its references name
definitions, and any other is refused with a place and a fault. -/

namespace AgentManifest

namespace Schema

/-- A keyword that looks at a value itself, with a value that the keyword can have. References can
only lead to what is defined. -/
inductive WrittenRule (defined : String → Prop) : String → Json → Prop where
  | reference {name : String} (filled : name ≠ "") (whole : '/' ∉ name.toList)
      (known : defined name) : WrittenRule defined "$ref" (.string ("#/$defs/" ++ name))
  | type {name : String} (known : name ∈ typeNames) : WrittenRule defined "type" (.string name)
  | types {names : List String} (filled : names ≠ []) (known : ∀ name ∈ names, name ∈ typeNames) :
      WrittenRule defined "type" (.array (names.map .string))
  | enum {values : List Json} (filled : values ≠ []) : WrittenRule defined "enum" (.array values)
  | const (value : Json) : WrittenRule defined "const" value
  | count {key : String} (counts : key ∈ ["minLength", "maxLength", "minItems", "maxItems"])
      (n : Nat) : WrittenRule defined key (Json.ofNat n)
  | bound {key : String} (bounds : key ∈ ["minimum", "maximum"]) (n : Number) :
      WrittenRule defined key (.number n)
  | required (names : List String) :
      WrittenRule defined "required" (.array (names.map .string))
  | unheeded {key : String} (silent : key ∈ ["$schema", "$id", "$comment", "title",
      "description", "examples", "default"]) (value : Json) : WrittenRule defined key value

/-- A tree that is written as a schema, with all schemas inside it. -/
inductive Written (defined : String → Prop) : Json → Prop where
  | any : Written defined (.bool true)
  | object {keywords : Members}
      (supported : ∀ keyword ∈ keywords,
        keyword.1 ∈ ["items", "properties", "additionalProperties"] ∨
          WrittenRule defined keyword.1 keyword.2)
      (oneList : ¬ (Keyed.contains "enum" keywords = true ∧ Keyed.contains "const" keywords = true))
      (items : ∀ value, Keyed.get? "items" keywords = some value → Written defined value)
      (listing : ∀ value, Keyed.get? "properties" keywords = some value →
        ∃ listed, value = .object listed)
      (properties : ∀ listed, Keyed.get? "properties" keywords = some (.object listed) →
        ∀ property ∈ listed, Written defined property.2)
      (additional : ∀ value, Keyed.get? "additionalProperties" keywords = some value →
        value ≠ .bool false → Written defined value) :
      Written defined (.object keywords)

end Schema

namespace SchemaStore

/-- The names under `$defs`. -/
def definedNames (members : Members) : List String :=
  match Keyed.get? "$defs" members with
  | some (.object definitions) => Keyed.keys definitions
  | _ => []

/-- A tree that is written as a schema with definitions, which stand at the root only. -/
inductive Written : Json → Prop where
  | object {members : Members}
      (listing : ∀ value, Keyed.get? "$defs" members = some value →
        ∃ definitions, value = .object definitions)
      (definitions : ∀ definitions, Keyed.get? "$defs" members = some (.object definitions) →
        ∀ definition ∈ definitions, Schema.Written (· ∈ definedNames members) definition.2)
      (root : Schema.Written (· ∈ definedNames members) (.object (Keyed.erase "$defs" members))) :
      Written (.object members)

end SchemaStore

namespace Schema

variable {defined : String → Prop} {at_ : SchemaLocation} {s s' t : Schema} {r r' : Rules}
  {key : String} {v value : Json} {keywords : Members}

theorem writtenRule_of_taken (taken : RuleTaken r key value r')
    (known : ∀ name, key = "$ref" → referenceTarget? value = some name → defined name) :
    WrittenRule defined key value := by
  cases taken with
  | reference read =>
      obtain ⟨⟨filled, whole⟩, rfl⟩ := referenceTarget?_eq_some_iff.mp read
      exact .reference filled whole (known _ rfl read)
  | types read =>
      rcases exists_types_iff.mp ⟨_, read⟩ with ⟨name, listed, rfl⟩ | ⟨names, filled, listed, rfl⟩
      · exact .type listed
      · exact .types filled listed
  | enum fresh read =>
      obtain ⟨filled, rfl⟩ := enumerated_eq_ok_iff.mp read
      exact .enum filled
  | const fresh => exact .const _
  | minLength read | maxLength read | minItems read | maxItems read =>
      obtain rfl := count_eq_ok_iff.mp read
      exact .count (by simp) _
  | minimum read | maximum read =>
      obtain ⟨n, rfl⟩ := exists_bound_iff.mp ⟨_, read⟩
      exact .bound (by simp) n
  | required read =>
      obtain rfl := requiredNames_eq_ok_iff.mp read
      exact .required _
  | unheeded silent => exact .unheeded silent _

theorem WrittenRule.known_of_reference {target : String}
    (written : WrittenRule defined "$ref" value) (read : referenceTarget? value = some target) :
    defined target := by
  generalize named : "$ref" = key at written
  cases written with
  | reference filled whole known =>
      have own := referenceTarget?_eq_some_iff.mpr ⟨⟨filled, whole⟩, rfl⟩
      rw [read, Option.some.injEq] at own
      exact own ▸ known
  | count counts | bound bounds | unheeded silent => simp [← named] at *
  | _ => simp at named

/-- Whether a keyword lists the values allowed. -/
def Lists (key : String) : Prop := key ∈ ["enum", "const"]

/-- A rule that is written as it can be is taken, unless it lists values and others have been. -/
theorem ruleKeyword_of_written (written : WrittenRule defined key value)
    (fresh : Lists key → r.allowed = none) : ∃ r', ruleKeyword key value r = .ok r' := by
  cases written with
  | @reference name filled whole known =>
      have read := referenceTarget?_eq_some_iff.mpr ⟨⟨filled, whole⟩, rfl⟩
      exact ⟨_, by simp only [ruleKeyword, read]; rfl⟩
  | type known =>
      obtain ⟨ts, read⟩ := exists_types_iff.mpr (.inl ⟨_, known, rfl⟩)
      exact ⟨_, by simp only [ruleKeyword, read]; rfl⟩
  | types filled known =>
      obtain ⟨ts, read⟩ := exists_types_iff.mpr (.inr ⟨_, filled, known, rfl⟩)
      exact ⟨_, by simp only [ruleKeyword, read]; rfl⟩
  | enum filled =>
      have read := enumerated_eq_ok_iff.mpr ⟨filled, rfl⟩
      have free := fresh (by simp [Lists])
      exact ⟨_, by simp only [ruleKeyword, free, read]; rfl⟩
  | const =>
      have free := fresh (by simp [Lists])
      exact ⟨_, by simp only [ruleKeyword, free]; rfl⟩
  | count counts n =>
      have read : count (Json.ofNat n) = .ok n := count_eq_ok_iff.mpr rfl
      simp only [List.mem_cons, List.not_mem_nil, or_false] at counts
      rcases counts with rfl | rfl | rfl | rfl <;> exact ⟨_, by simp only [ruleKeyword, read]; rfl⟩
  | bound bounds n =>
      simp only [List.mem_cons, List.not_mem_nil, or_false] at bounds
      rcases bounds with rfl | rfl <;> exact ⟨_, rfl⟩
  | required names =>
      have read : requiredNames (.array (names.map .string)) = .ok names :=
        requiredNames_eq_ok_iff.mpr rfl
      exact ⟨_, by simp only [ruleKeyword, read]; rfl⟩
  | unheeded silent value =>
      simp only [List.mem_cons, List.not_mem_nil, or_false] at silent
      rcases silent with rfl | rfl | rfl | rfl | rfl | rfl | rfl <;> exact ⟨r, rfl⟩

theorem Taken.of_lists (taken : Taken s key value s') (lists : Lists key) :
    s.rules.allowed = none ∧ s'.rules.allowed ≠ none := by
  simp only [Lists, List.mem_cons, List.not_mem_nil, or_false] at lists
  cases taken with
  | rule taken =>
      cases taken with
      | enum fresh read | const fresh => exact ⟨fresh, nofun⟩
      | unheeded silent => rcases lists with rfl | rfl <;> simp [annotations] at silent
      | _ => simp at lists
  | _ => simp at lists

/-- Behind values that are listed no others are. -/
theorem not_lists_of_ofMembers (read : ofMembers at_ s keywords = .ok t)
    (listed : s.rules.allowed ≠ none) : ∀ keyword ∈ keywords, ¬ Lists keyword.1 := by
  induction keywords generalizing s with
  | nil => simp
  | cons first rest ih =>
      obtain ⟨s', taken, onward⟩ := taken_of_ofMembers read
      obtain ⟨values, allowed⟩ := Option.ne_none_iff_exists'.mp listed
      refine List.forall_mem_cons.mpr ⟨fun lists => listed (taken.of_lists lists).1, ?_⟩
      exact ih onward (by simp [taken.allowed_of_allowed allowed])

theorem pairwise_of_ofMembers (read : ofMembers at_ s keywords = .ok t) :
    keywords.Pairwise fun first second => Lists first.1 → ¬ Lists second.1 := by
  induction keywords generalizing s with
  | nil => exact .nil
  | cons first rest ih =>
      obtain ⟨s', taken, onward⟩ := taken_of_ofMembers read
      refine List.pairwise_cons.mpr ⟨fun later inside lists => ?_, ih onward⟩
      exact not_lists_of_ofMembers onward (taken.of_lists lists).2 later inside

theorem taken_of_mem (read : ofMembers at_ s keywords = .ok t) {keyword : String × Json}
    (inside : keyword ∈ keywords) : ∃ s₁ s₂, Taken s₁ keyword.1 keyword.2 s₂ := by
  induction keywords generalizing s with
  | nil => cases inside
  | cons first rest ih =>
      obtain ⟨s', taken, onward⟩ := taken_of_ofMembers read
      rcases List.mem_cons.mp inside with rfl | inside
      · exact ⟨s, s', taken⟩
      · exact ih onward inside

/-- A keyword that can be read behind others, whatever follows it. -/
def Takes (at_ : SchemaLocation) (s : Schema) (keyword : String × Json) : Prop :=
  ∃ s', ∀ rest, ofMembers at_ s (keyword :: rest) = ofMembers at_ s' rest

theorem takes_items {inner : Schema} (read : ofJson (at_.member "items") value = .ok inner) :
    Takes at_ s ("items", value) := by
  refine ⟨{ s with items := some inner }, fun rest => ?_⟩
  conv_lhs => unfold ofMembers
  simp [read]

theorem takes_properties {listed : Members} {properties : Keyed Schema}
    (read : ofProperties (at_.member "properties") listed = .ok properties) :
    Takes at_ s ("properties", .object listed) := by
  refine ⟨{ s with properties }, fun rest => ?_⟩
  conv_lhs => unfold ofMembers
  simp [read]

theorem takes_additional
    (read : value ≠ .bool false →
      ∃ inner, ofJson (at_.member "additionalProperties") value = .ok inner) :
    Takes at_ s ("additionalProperties", value) := by
  by_cases allowed : value = .bool true
  · refine ⟨{ s with additional := .allowed }, fun rest => ?_⟩
    conv_lhs => unfold ofMembers
    simp [allowed]
  by_cases forbidden : value = .bool false
  · refine ⟨{ s with additional := .forbidden }, fun rest => ?_⟩
    conv_lhs => unfold ofMembers
    simp [forbidden]
  · obtain ⟨inner, read⟩ := read forbidden
    refine ⟨{ s with additional := .schema inner }, fun rest => ?_⟩
    conv_lhs => unfold ofMembers
    simp [read]

theorem takes_rule (own : key ∉ ["items", "properties", "additionalProperties"])
    (read : ruleKeyword key value s.rules = .ok r) : Takes at_ s (key, value) := by
  simp only [List.mem_cons, List.not_mem_nil, or_false, not_or] at own
  obtain ⟨notItems, notProperties, notAdditional⟩ := own
  refine ⟨{ s with rules := r }, fun rest => ?_⟩
  conv_lhs => unfold ofMembers
  simp [notItems, notProperties, notAdditional, read]

/-- Keywords are read if each can be, as long as only one of them lists values. -/
theorem exists_ofMembers (each : ∀ keyword ∈ keywords, ∀ s : Schema,
      (Lists keyword.1 → s.rules.allowed = none) → Takes at_ s keyword)
    (apart : keywords.Pairwise fun first second => Lists first.1 → ¬ Lists second.1)
    (free : ∀ keyword ∈ keywords, Lists keyword.1 → s.rules.allowed = none) :
    ∃ t, ofMembers at_ s keywords = .ok t := by
  induction keywords generalizing s with
  | nil => exact ⟨s, by rw [ofMembers]⟩
  | cons first rest ih =>
      obtain ⟨alone, apart⟩ := List.pairwise_cons.mp apart
      obtain ⟨readable, each⟩ := List.forall_mem_cons.mp each
      obtain ⟨unlisted, free⟩ := List.forall_mem_cons.mp free
      obtain ⟨s', onward⟩ := readable s unlisted
      have taken : Taken s first.1 first.2 s' := by
        have last : ofMembers at_ s [first] = .ok s' := by rw [onward, ofMembers]
        obtain ⟨s'', taken, ended⟩ := taken_of_ofMembers last
        rw [ofMembers, Except.ok.injEq] at ended
        exact ended ▸ taken
      rw [onward]
      refine ih each apart fun keyword inside lists => ?_
      have silent : ¬ Lists first.1 := fun other => alone keyword inside other lists
      simp only [Lists, List.mem_cons, List.not_mem_nil, or_false, not_or] at silent
      rw [taken.allowed_eq silent.1 silent.2]
      exact free keyword inside lists

theorem exists_ofProperties {written : Members} (at_ : SchemaLocation)
    (each : ∀ property ∈ written, ∀ at_, ∃ s, ofJson at_ property.2 = .ok s) :
    ∃ properties, ofProperties at_ written = .ok properties := by
  induction written with
  | nil => exact ⟨[], by rw [ofProperties]⟩
  | cons first rest ih =>
      obtain ⟨readable, each⟩ := List.forall_mem_cons.mp each
      obtain ⟨s, read⟩ := readable (at_.member first.1)
      obtain ⟨others, readOthers⟩ := ih each
      exact ⟨Keyed.insert first.1 s others, by simp [ofProperties, read, readOthers]⟩

/-- Keywords with different names list values once if not both names that do are among them. -/
theorem pairwise_of_oneList (ordered : Keyed.Ordered keywords)
    (oneList : ¬ (Keyed.contains "enum" keywords = true ∧ Keyed.contains "const" keywords = true)) :
    keywords.Pairwise fun first second => Lists first.1 → ¬ Lists second.1 := by
  refine ordered.imp_of_mem fun {first second} inside inside' less lists lists' => ?_
  simp only [Lists, List.mem_cons, List.not_mem_nil, or_false] at lists lists'
  have contains : ∀ {keyword : String × Json}, keyword ∈ keywords →
      Keyed.contains keyword.1 keywords = true :=
    fun {keyword} listed => Keyed.contains_iff.mpr ⟨keyword.2, listed⟩
  have here := contains inside
  have there := contains inside'
  rcases lists with named | named <;> rcases lists' with named' | named' <;>
    rw [named] at less here <;> rw [named'] at less there
  · exact lt_irrefl _ less
  · exact oneList ⟨here, there⟩
  · exact oneList ⟨there, here⟩
  · exact lt_irrefl _ less

theorem exists_ofJson_of_written (written : Written defined v) (wellFormed : v.WellFormed) :
    ∀ at_, ∃ s, ofJson at_ v = .ok s := by
  induction written with
  | any => exact fun at_ => ⟨any, by rw [ofJson]⟩
  | @object keywords supported oneList items listing properties additional readItems readProperties
      readAdditional =>
      intro at_
      have get : ∀ {key value}, (key, value) ∈ keywords → Keyed.get? key keywords = some value :=
        fun inside => wellFormed.ordered.get?_eq_some_iff.mpr inside
      rw [ofJson]
      refine exists_ofMembers ?_ (pairwise_of_oneList wellFormed.ordered oneList) fun _ _ _ => rfl
      rintro ⟨key, value⟩ inside s fresh
      by_cases own : key ∈ ["items", "properties", "additionalProperties"]
      · have formed := wellFormed.of_object _ inside
        simp only [List.mem_cons, List.not_mem_nil, or_false] at own
        rcases own with rfl | rfl | rfl
        · obtain ⟨inner, read⟩ := readItems value (get inside) formed (at_.member "items")
          exact takes_items read
        · obtain ⟨listed, rfl⟩ := listing value (get inside)
          obtain ⟨inner, read⟩ := exists_ofProperties (at_.member "properties")
            fun property among =>
              readProperties listed (get inside) property among (formed.of_object property among)
          exact takes_properties read
        · exact takes_additional fun asks =>
            readAdditional value (get inside) asks formed (at_.member "additionalProperties")
      · obtain ⟨r', read⟩ := ruleKeyword_of_written ((supported _ inside).resolve_left own) fresh
        exact takes_rule own read

variable {definitions : Keyed Schema}

theorem ReadAs.given_of_ne {β : Type} {P : Json → β → Prop} {unset part : β} {given : Option Json}
    (readAs : ReadAs P unset given part) (other : part ≠ unset) :
    ∃ value, given = some value ∧ P value part := by
  cases given with
  | none => exact absurd readAs other
  | some value => exact ⟨value, rfl, readAs⟩

/-- Every schema under a name is read from what stands under that name. -/
theorem mem_of_ofProperties {written : Members} {properties : Keyed Schema}
    (read : ofProperties at_ written = .ok properties) {entry : String × Schema}
    (inside : entry ∈ properties) :
    ∃ property ∈ written, ∃ at_, ofJson at_ property.2 = .ok entry.2 := by
  induction written generalizing properties with
  | nil =>
      rw [ofProperties] at read
      cases read
      cases inside
  | cons first rest ih =>
      obtain ⟨name, v⟩ := first
      rw [ofProperties] at read
      obtain ⟨inner, readInner, read⟩ := bind_eq_ok.mp read
      obtain ⟨others, readOthers, same⟩ := bind_eq_ok.mp read
      cases same
      rcases Keyed.mem_insert inside with rfl | inside
      · exact ⟨(name, v), List.mem_cons_self, _, readInner⟩
      · obtain ⟨property, listed, readProperty⟩ := ih readOthers inside
        exact ⟨property, List.mem_cons_of_mem _ listed, readProperty⟩

/-- What is written with references to the definitions only is read as a closed schema. -/
theorem closed_of_written (written : Written defined v) (wellFormed : v.WellFormed)
    (known : ∀ name, defined name → Keyed.contains name definitions = true) :
    ∀ {at_ : SchemaLocation} {s : Schema}, ofJson at_ v = .ok s → s.Closed definitions := by
  induction written with
  | any =>
      intro at_ s read
      rw [ofJson] at read
      cases read
      exact .intro nofun nofun nofun nofun
  | @object keywords supported oneList items listing properties additional closedItems
      closedProperties closedAdditional =>
      intro at_ s read
      have parts := readFrom_of_ofJson wellFormed.ordered.nodup read
      refine .intro (fun name referred => ?_) (fun inner has => ?_) (fun property inside => ?_)
        (fun extra has => ?_)
      · obtain ⟨value, given, target, read, same⟩ :=
          parts.reference.given_of_ne (by simp [referred])
        have rule := (supported _ (Keyed.mem_of_get? given)).resolve_left (by simp)
        obtain rfl : target = name := by simpa [referred] using same.symm
        exact known target (rule.known_of_reference read)
      · obtain ⟨value, given, at_, inner', read, same⟩ := parts.items.given_of_ne (by simp [has])
        obtain rfl : inner' = inner := by simpa [has] using same.symm
        exact closedItems value given (wellFormed.member given) read
      · obtain ⟨value, given, at_, listed, rfl, read⟩ :=
          parts.properties.given_of_ne (List.ne_nil_of_mem inside)
        obtain ⟨among, is_, at_', readProperty⟩ := mem_of_ofProperties read inside
        exact closedProperties listed given among is_
          ((wellFormed.member given).of_object among is_) readProperty
      · obtain ⟨value, given, read⟩ := parts.additional.given_of_ne (by simp [has])
        rw [has] at read
        cases read with
        | schema tree read =>
            exact closedAdditional value given (tree false) (wellFormed.member given) read

/-- Whether a tree is written as a schema if it is read as a closed one. -/
def ClosedIsWritten (defined : String → Prop) (definitions : Keyed Schema) (v : Json) : Prop :=
  ∀ ⦃at_ : SchemaLocation⦄ ⦃s : Schema⦄, ofJson at_ v = .ok s → s.Closed definitions →
    Written defined v

theorem oneList_of_ofMembers (read : ofMembers at_ s keywords = .ok t) :
    ¬ (Keyed.contains "enum" keywords = true ∧ Keyed.contains "const" keywords = true) := by
  rintro ⟨enum, const⟩
  obtain ⟨values, enum⟩ := Keyed.contains_iff.mp enum
  obtain ⟨value, const⟩ := Keyed.contains_iff.mp const
  have symmetric : Std.Symm fun first second : String × Json => Lists first.1 → ¬ Lists second.1 :=
    ⟨fun first second apart lists lists' => apart lists' lists⟩
  exact (pairwise_of_ofMembers read).forall enum const (by simp) (by simp [Lists])
    (by simp [Lists])

theorem written_of_parts (wellFormed : (Json.object keywords).WellFormed)
    (known : ∀ name, Keyed.contains name definitions = true → defined name)
    (inner : ∀ key value, Keyed.get? key keywords = some value →
      ClosedIsWritten defined definitions value)
    (listed : ∀ key listed, Keyed.get? key keywords = some (.object listed) →
      ∀ property ∈ listed, ClosedIsWritten defined definitions property.2) :
    ClosedIsWritten defined definitions (.object keywords) := by
  intro at_ s read closed
  obtain ⟨reference, items, properties, additional⟩ := closed
  have parts := readFrom_of_ofJson wellFormed.ordered.nodup read
  rw [ofJson] at read
  refine .object ?supported (oneList_of_ofMembers read) ?items ?listing ?properties ?additional
  case supported =>
    rintro ⟨key, value⟩ inside
    obtain ⟨s₁, s₂, taken⟩ := taken_of_mem read inside
    cases taken with
    | rule taken =>
        refine .inr (writtenRule_of_taken taken fun name named target => known name ?_)
        have given := wellFormed.ordered.get?_eq_some_iff.mpr inside
        have refers := parts.reference
        rw [← named, given] at refers
        obtain ⟨target', read', refers⟩ := refers
        rw [target, Option.some.injEq] at read'
        exact reference name (read' ▸ refers)
    | _ => simp
  case items =>
    intro value given
    have part := parts.items
    rw [given] at part
    obtain ⟨at_, s', read', has⟩ := part
    exact inner _ _ given read' (items s' has)
  case listing =>
    intro value given
    have part := parts.properties
    rw [given] at part
    obtain ⟨at_, written, same, -⟩ := part
    exact ⟨written, same⟩
  case properties =>
    intro written given property inside
    have part := parts.properties
    rw [given] at part
    obtain ⟨at_, written', same, read'⟩ := part
    cases same
    have under := readAs_of_ofProperties read' property.1
    rw [(wellFormed.member given).ordered.get?_eq_some_iff.mpr inside] at under
    obtain ⟨at_', s', readProperty, found⟩ := under
    exact listed _ _ given property inside readProperty (properties _ (Keyed.mem_of_get? found))
  case additional =>
    intro value given asks
    have part := parts.additional
    rw [given] at part
    generalize has : s.additional = extra at part
    cases part with
    | allowed => exact .any
    | forbidden => exact absurd rfl asks
    | schema tree read' => exact inner _ _ given read' (additional _ has)

/-- What is read as a closed schema is written as one, with references to the definitions only. -/
theorem closedIsWritten (wellFormed : v.WellFormed)
    (known : ∀ name, Keyed.contains name definitions = true → defined name) :
    ClosedIsWritten defined definitions v := by
  -- Under `properties` schemas stand two levels down, so the members of objects are taken along.
  suffices both : ClosedIsWritten defined definitions v ∧ ∀ listed, v = .object listed →
      ∀ property ∈ listed, ClosedIsWritten defined definitions property.2 from both.1
  induction wellFormed with
  | null | number stored | string s | array each =>
      refine ⟨fun at_ s read _ => ?_, nofun⟩
      cases read
  | bool b =>
      refine ⟨fun at_ s read _ => ?_, nofun⟩
      cases b with
      | true => exact .any
      | false => cases read
  | @object keywords ordered each ih =>
      refine ⟨written_of_parts (.object ordered each) known (fun key value given => ?_)
        fun key listed given => ?_, ?_⟩
      · exact (ih _ (Keyed.mem_of_get? given)).1
      · exact (ih _ (Keyed.mem_of_get? given)).2 listed rfl
      · rintro listed ⟨⟩ property inside
        exact (ih property inside).1

end Schema

namespace SchemaStore

variable {tree : Json} {members : Members} {store : SchemaStore}

/-- The definitions of a store have the names that stand under `$defs`. -/
theorem Defines.contains_iff {definitions : Keyed Schema} (defines : Defines members definitions)
    (name : String) :
    Keyed.contains name definitions = true ↔ name ∈ definedNames members := by
  rw [Defines] at defines
  rw [definedNames]
  cases given : Keyed.get? "$defs" members with
  | none =>
      rw [given] at defines
      obtain rfl : definitions = [] := defines
      simp [Keyed.contains]
  | some v =>
      rw [given] at defines
      obtain ⟨written, rfl, read⟩ := defines
      have under := Schema.readAs_of_ofProperties read name
      rw [← Keyed.contains_iff_mem_keys, Keyed.contains, Keyed.contains]
      cases listed : Keyed.get? name written with
      | none =>
          rw [listed] at under
          have absent : Keyed.get? name definitions = none := under
          simp [absent]
      | some s =>
          rw [listed] at under
          obtain ⟨at_, inner, -, found⟩ := under
          simp [found]

theorem exists_defines (listing : ∀ v, Keyed.get? "$defs" members = some v →
      ∃ written, v = .object written)
    (each : ∀ written, Keyed.get? "$defs" members = some (.object written) →
      ∀ definition ∈ written, ∀ at_, ∃ s, Schema.ofJson at_ definition.2 = .ok s) :
    ∃ definitions, Defines members definitions := by
  cases given : Keyed.get? "$defs" members with
  | none => exact ⟨[], by simp [Defines, Schema.ReadAs, given]⟩
  | some v =>
      obtain ⟨written, rfl⟩ := listing v given
      obtain ⟨definitions, read⟩ := Schema.exists_ofProperties ["$defs"] (each written given)
      exact ⟨definitions, by simp [Defines, Schema.ReadAs, given, read]⟩

/-- Each definition of a store is read from one that stands under `$defs`. -/
theorem Defines.mem {definitions : Keyed Schema} (defines : Defines members definitions)
    {entry : String × Schema} (inside : entry ∈ definitions) :
    ∃ written, Keyed.get? "$defs" members = some (.object written) ∧
      ∃ definition ∈ written, ∃ at_, Schema.ofJson at_ definition.2 = .ok entry.2 := by
  obtain ⟨v, given, written, rfl, read⟩ := defines.given_of_ne (List.ne_nil_of_mem inside)
  exact ⟨written, given, Schema.mem_of_ofProperties read inside⟩

theorem written_of_ofJson (wellFormed : (Json.object members).WellFormed)
    (read : SchemaStore.ofJson (.object members) = .ok store) : Written (.object members) := by
  obtain ⟨rootClosed, definitionsClosed⟩ := closed_of_ofJson read
  obtain ⟨defines, root, -, -⟩ := ofJson_eq_ok_iff.mp read
  have known := fun name => (defines.contains_iff name).mp
  refine .object ?listing ?definitions ?root
  case listing =>
    intro v given
    rw [Defines, given] at defines
    obtain ⟨written, same, -⟩ := defines
    exact ⟨written, same⟩
  case definitions =>
    intro written given definition inside
    have formed := wellFormed.member given
    rw [Defines, given] at defines
    obtain ⟨written', same, readDefinitions⟩ := defines
    cases same
    have under := Schema.readAs_of_ofProperties readDefinitions definition.1
    rw [formed.ordered.get?_eq_some_iff.mpr inside] at under
    obtain ⟨at_, inner, readInner, found⟩ := under
    exact Schema.closedIsWritten (formed.of_object _ inside) known readInner
      (definitionsClosed _ (Keyed.mem_of_get? found))
  case root =>
    rw [← Schema.ofJson] at root
    exact Schema.closedIsWritten wellFormed.erase known root rootClosed

theorem exists_ofJson_of_written (wellFormed : tree.WellFormed) (written : Written tree) :
    ∃ store, SchemaStore.ofJson tree = .ok store := by
  cases written with
  | @object members listing written root =>
      have formed : ∀ listed, Keyed.get? "$defs" members = some (.object listed) →
          ∀ definition ∈ listed, definition.2.WellFormed :=
        fun listed given => (wellFormed.member given).of_object
      obtain ⟨definitions, defines⟩ := exists_defines listing fun listed given definition inside =>
        Schema.exists_ofJson_of_written (written listed given definition inside)
          (formed listed given definition inside)
      have known := fun name => (defines.contains_iff name).mpr
      obtain ⟨s, read⟩ := Schema.exists_ofJson_of_written root wellFormed.erase .root
      have rootClosed := Schema.closed_of_written root wellFormed.erase known read
      have definitionsClosed : ∀ entry ∈ definitions, entry.2.Closed definitions := by
        intro entry inside
        obtain ⟨listed, given, definition, among, at_, readInner⟩ := defines.mem inside
        exact Schema.closed_of_written (written listed given definition among)
          (formed listed given definition among) known readInner
      rw [Schema.ofJson] at read
      exact ⟨⟨s, definitions⟩, ofJson_eq_ok_iff.mpr ⟨defines, read,
        Schema.checkReferences_of_closed s rootClosed,
        Schema.checkPropertyReferences_of_closed definitions definitionsClosed⟩⟩

/-- A tree is read exactly if it is written as a schema with definitions. -/
theorem exists_ofJson_iff (wellFormed : tree.WellFormed) :
    (∃ store, SchemaStore.ofJson tree = .ok store) ↔ Written tree := by
  refine ⟨fun ⟨store, read⟩ => ?_, exists_ofJson_of_written wellFormed⟩
  cases tree with
  | object members => exact written_of_ofJson wellFormed read
  | _ => cases read

/-- Exactly the trees that are written as schemas with definitions are read as stores, and no
reference in a store leads nowhere. Any other tree is refused with what is wrong and where. -/
theorem reads_exactly_written (wellFormed : tree.WellFormed) :
    ((∃ store, SchemaStore.ofJson tree = .ok store) ↔ Written tree) ∧
      (¬ Written tree → ∃ at_ fault, SchemaStore.ofJson tree = .error (.malformed at_ fault)) ∧
      ∀ store, SchemaStore.ofJson tree = .ok store → store.Closed := by
  refine ⟨exists_ofJson_iff wellFormed, fun unwritten => ?_, fun store => closed_of_ofJson⟩
  cases read : SchemaStore.ofJson tree with
  | ok store => exact absurd ((exists_ofJson_iff wellFormed).mp ⟨store, read⟩) unwritten
  | error e =>
      obtain ⟨at_, fault, rfl⟩ := placed_ofJson tree e read
      exact ⟨at_, fault, rfl⟩

/-- A schema whose definitions lead to each other. -/
def circular : Json := .object [
  ("$defs", .object [
    ("list", .object [("items", .object [("$ref", .string "#/$defs/tree")]),
      ("type", .array [.string "array", .string "null"])]),
    ("tree", .object [("additionalProperties", .bool false),
      ("properties", .object [("below", .object [("$ref", .string "#/$defs/list")])])])]),
  ("$ref", .string "#/$defs/tree")]

theorem wellFormed_circular : circular.WellFormed := by
  simp only [circular, Json.wellFormed_object_iff, Json.wellFormed_array_iff, Keyed.ordered_cons,
    List.forall_mem_cons, List.not_mem_nil, false_implies, implies_true, Keyed.ordered_nil,
    Json.WellFormed.string, Json.WellFormed.bool, and_true]
  decide

theorem reads_exactly_written_circular : circular.WellFormed ∧ Written circular ∧
    ∃ store, SchemaStore.ofJson circular = .ok store ∧ store.Closed := by
  obtain ⟨exactly, -, closed⟩ := reads_exactly_written wellFormed_circular
  have compiles : ∃ store, SchemaStore.ofJson circular = .ok store := by decide +kernel
  obtain ⟨store, compiled⟩ := compiles
  exact ⟨wellFormed_circular, exactly.mp ⟨store, compiled⟩, store, compiled, closed store compiled⟩

end SchemaStore
end AgentManifest
