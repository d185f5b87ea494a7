import AgentManifest.Proofs.Keyed.Order
import AgentManifest.Proofs.Outcome
import AgentManifest.Schema.Document

/-! What a schema that was read says: each of its parts is read from the keyword of that name, if
the keyword is there, and is as in the schema that every value meets if it is not. -/

namespace AgentManifest
namespace Schema

variable {at_ : SchemaLocation} {s s' t : Schema} {r r' : Rules} {key name : String} {value : Json}
variable {keywords : Members}

/-- The rules that a keyword makes of others. -/
inductive RuleTaken : Rules → String → Json → Rules → Prop where
  | reference {r : Rules} {value : Json} {target : String}
      (read : referenceTarget? value = some target) :
      RuleTaken r "$ref" value { r with reference := some target }
  | types {r : Rules} {value : Json} {ts : List JsonType} (read : types value = .ok ts) :
      RuleTaken r "type" value { r with types := some ts }
  | enum {r : Rules} {value : Json} {values : List Json} (fresh : r.allowed = none)
      (read : enumerated value = .ok values) :
      RuleTaken r "enum" value { r with allowed := some values }
  | const {r : Rules} {value : Json} (fresh : r.allowed = none) :
      RuleTaken r "const" value { r with allowed := some [value] }
  | minLength {r : Rules} {value : Json} {n : Nat} (read : count value = .ok n) :
      RuleTaken r "minLength" value { r with minLength := some n }
  | maxLength {r : Rules} {value : Json} {n : Nat} (read : count value = .ok n) :
      RuleTaken r "maxLength" value { r with maxLength := some n }
  | minItems {r : Rules} {value : Json} {n : Nat} (read : count value = .ok n) :
      RuleTaken r "minItems" value { r with minItems := some n }
  | maxItems {r : Rules} {value : Json} {n : Nat} (read : count value = .ok n) :
      RuleTaken r "maxItems" value { r with maxItems := some n }
  | minimum {r : Rules} {value : Json} {x : Binary64} (read : bound value = .ok x) :
      RuleTaken r "minimum" value { r with minimum := some x }
  | maximum {r : Rules} {value : Json} {x : Binary64} (read : bound value = .ok x) :
      RuleTaken r "maximum" value { r with maximum := some x }
  | required {r : Rules} {value : Json} {names : List String}
      (read : requiredNames value = .ok names) :
      RuleTaken r "required" value { r with required := names }
  | unheeded {r : Rules} {key : String} {value : Json} (silent : key ∈ annotations) :
      RuleTaken r key value r

theorem ruleTaken_of_ruleKeyword (read : ruleKeyword key value r = .ok r') :
    RuleTaken r key value r' := by
  unfold ruleKeyword at read
  split at read
  case h_1 => cases read
  case h_2 =>
    split at read
    next target read' =>
      cases read
      exact .reference read'
    next => cases read
  case h_3 =>
    obtain ⟨ts, read', same⟩ := bind_eq_ok.mp read
    cases same
    exact .types read'
  case h_4 =>
    split at read
    next => cases read
    next fresh =>
      obtain ⟨values, read', same⟩ := bind_eq_ok.mp read
      cases same
      exact .enum (by simpa using fresh) read'
  case h_5 =>
    split at read
    next => cases read
    next fresh =>
      cases read
      exact .const (by simpa using fresh)
  case h_6 =>
    obtain ⟨n, read', same⟩ := bind_eq_ok.mp read
    cases same
    exact .minLength read'
  case h_7 =>
    obtain ⟨n, read', same⟩ := bind_eq_ok.mp read
    cases same
    exact .maxLength read'
  case h_8 =>
    obtain ⟨n, read', same⟩ := bind_eq_ok.mp read
    cases same
    exact .minItems read'
  case h_9 =>
    obtain ⟨n, read', same⟩ := bind_eq_ok.mp read
    cases same
    exact .maxItems read'
  case h_10 =>
    obtain ⟨x, read', same⟩ := bind_eq_ok.mp read
    cases same
    exact .minimum read'
  case h_11 =>
    obtain ⟨x, read', same⟩ := bind_eq_ok.mp read
    cases same
    exact .maximum read'
  case h_12 =>
    obtain ⟨names, read', same⟩ := bind_eq_ok.mp read
    cases same
    exact .required read'
  case h_13 =>
    split at read
    next silent =>
      cases read
      exact .unheeded silent
    next => cases read

/-- What is said of the members that a schema does not list. -/
inductive AdditionalRead : Json → Additional Schema → Prop where
  | allowed : AdditionalRead (.bool true) .allowed
  | forbidden : AdditionalRead (.bool false) .forbidden
  | schema {at_ : SchemaLocation} {value : Json} {s : Schema} (tree : ∀ b, value ≠ .bool b)
      (read : ofJson at_ value = .ok s) : AdditionalRead value (.schema s)

/-- The schema that a keyword makes of another. -/
inductive Taken : Schema → String → Json → Schema → Prop where
  | items {s inner : Schema} {at_ : SchemaLocation} {value : Json}
      (read : ofJson at_ value = .ok inner) : Taken s "items" value { s with items := some inner }
  | additional {s : Schema} {value : Json} {additional : Additional Schema}
      (read : AdditionalRead value additional) :
      Taken s "additionalProperties" value { s with additional }
  | properties {s : Schema} {at_ : SchemaLocation} {written : Members} {properties : Keyed Schema}
      (read : ofProperties at_ written = .ok properties) :
      Taken s "properties" (.object written) { s with properties }
  | rule {s : Schema} {key : String} {value : Json} {rules : Rules}
      (taken : RuleTaken s.rules key value rules) : Taken s key value { s with rules }

theorem taken_of_ofMembers (read : ofMembers at_ s ((key, value) :: keywords) = .ok t) :
    ∃ s', Taken s key value s' ∧ ofMembers at_ s' keywords = .ok t := by
  unfold ofMembers at read
  dsimp only at read
  split at read
  next same =>
    obtain ⟨inner, read, rest⟩ := bind_eq_ok.mp read
    exact ⟨_, same ▸ .items read, rest⟩
  next =>
    split at read
    next same =>
      subst same
      split at read
      next => exact ⟨_, .additional .allowed, read⟩
      next => exact ⟨_, .additional .forbidden, read⟩
      next yes no =>
        obtain ⟨inner, read, rest⟩ := bind_eq_ok.mp read
        refine ⟨_, .additional (.schema ?_ read), rest⟩
        rintro (_ | _) rfl
        · exact no rfl
        · exact yes rfl
    next =>
      split at read
      next same =>
        subst same
        split at read
        next written =>
          obtain ⟨properties, read, rest⟩ := bind_eq_ok.mp read
          exact ⟨_, .properties read, rest⟩
        next => cases read
      next =>
        split at read
        next rules taken => exact ⟨_, .rule (ruleTaken_of_ruleKeyword taken), read⟩
        next => cases read

section

variable {α : Type} {part : Schema → α} {P : Json → α → Prop}

theorem ne_of_get?_eq_none (absent : Keyed.get? name keywords = none)
    (inside : key ∈ keywords.map (·.1)) : key ≠ name := by
  obtain ⟨entry, listed, rfl⟩ := List.mem_map.mp inside
  exact Keyed.get?_eq_none_iff.mp absent entry listed

/-- What a keyword says of a part stays said, if no other keyword takes it back. -/
theorem part_of_ofMembers (set : ∀ {s s' v}, Taken s name v s' → P v (part s'))
    (kept : ∀ {s s' key v w}, key ≠ name → Taken s key v s' → P w (part s) → P w (part s'))
    (distinct : (keywords.map (·.1)).Nodup) (read : ofMembers at_ s keywords = .ok t)
    (given : Keyed.get? name keywords = some value) : P value (part t) := by
  have later : ∀ {rest : Members} {s : Schema} {w : Json}, name ∉ rest.map (·.1) →
      ofMembers at_ s rest = .ok t → P w (part s) → P w (part t) := by
    intro rest
    induction rest with
    | nil =>
        intro s w _ read said
        cases read
        exact said
    | cons first rest ih =>
        intro s w absent read said
        simp only [List.map_cons, List.mem_cons, not_or] at absent
        obtain ⟨s', taken, read⟩ := taken_of_ofMembers read
        exact ih absent.2 read (kept (Ne.symm absent.1) taken said)
  induction keywords generalizing s with
  | nil => cases given
  | cons first rest ih =>
      obtain ⟨key, v⟩ := first
      obtain ⟨fresh, distinct⟩ := List.nodup_cons.mp distinct
      obtain ⟨s', taken, onward⟩ := taken_of_ofMembers read
      rw [Keyed.get?_cons] at given
      split at given
      next same =>
        cases given
        subst same
        exact later fresh onward (set taken)
      next => exact ih distinct onward given

theorem part_of_absent (frame : ∀ {s s' v}, ∀ key ∈ keywords.map (·.1), Taken s key v s' →
      part s' = part s) (read : ofMembers at_ s keywords = .ok t) : part t = part s := by
  induction keywords generalizing s with
  | nil =>
      cases read
      rfl
  | cons first rest ih =>
      obtain ⟨s', taken, read⟩ := taken_of_ofMembers read
      rw [ih (fun key inside => frame key (List.mem_cons_of_mem _ inside)) read]
      exact frame _ List.mem_cons_self taken

end

section

variable {α β : Type}

/-- Whether a part of a schema, given or not, is what is read from a value. -/
def Reads (read : Json → Except SchemaFault α) (v : Json) (part : Option α) : Prop :=
  ∃ a, read v = .ok a ∧ part = some a

/-- What a keyword makes of a part that keywords of one name determine. -/
structure Sets (name : String) (P : Json → β → Prop) (key : String) (value : Json)
    (before after : β) : Prop where
  own : key = name → P value after
  other : key ≠ name → after = before

/-- A part that is read from a keyword if it is there, and has a value of its own if it is not. -/
def ReadAs (P : Json → β → Prop) (unset : β) : Option Json → β → Prop
  | none, part => part = unset
  | some v, part => P v part

variable {P : Json → β → Prop}

theorem readAs_of_ofMembers {part : Schema → β}
    (sets : ∀ {s s' key v}, Taken s key v s' → Sets name P key v (part s) (part s'))
    (distinct : (keywords.map (·.1)).Nodup) (read : ofMembers at_ any keywords = .ok t) :
    ReadAs P (part any) (Keyed.get? name keywords) (part t) := by
  cases given : Keyed.get? name keywords with
  | some value =>
      exact part_of_ofMembers (fun taken => (sets taken).own rfl)
        (fun other taken said => (sets taken).other other ▸ said) distinct read given
  | none =>
      exact part_of_absent
        (fun key inside taken => (sets taken).other (ne_of_get?_eq_none given inside)) read

/-- The keywords for what lies inside a value leave the rules alone. -/
theorem Taken.sets_rules {part : Rules → β}
    (own : name ∉ ["items", "properties", "additionalProperties"])
    (sets : ∀ {r r' key v}, RuleTaken r key v r' → Sets name P key v (part r) (part r'))
    (taken : Taken s key value s') : Sets name P key value (part s.rules) (part s'.rules) := by
  cases taken with
  | rule taken => exact sets taken
  | _ => exact ⟨by rintro rfl; simp at own, fun _ => rfl⟩

end

namespace RuleTaken

theorem sets_reference (taken : RuleTaken r key value r') :
    Sets "$ref" (fun v part => ∃ target, referenceTarget? v = some target ∧ part = some target)
      key value r.reference r'.reference := by
  refine ⟨fun named => ?_, fun other => ?_⟩ <;> cases taken <;> simp_all [annotations]

theorem sets_types (taken : RuleTaken r key value r') :
    Sets "type" (Reads Schema.types) key value r.types r'.types := by
  refine ⟨fun named => ?_, fun other => ?_⟩ <;> cases taken <;> simp_all [annotations, Reads]

theorem sets_minLength (taken : RuleTaken r key value r') :
    Sets "minLength" (Reads count) key value r.minLength r'.minLength := by
  refine ⟨fun named => ?_, fun other => ?_⟩ <;> cases taken <;> simp_all [annotations, Reads]

theorem sets_maxLength (taken : RuleTaken r key value r') :
    Sets "maxLength" (Reads count) key value r.maxLength r'.maxLength := by
  refine ⟨fun named => ?_, fun other => ?_⟩ <;> cases taken <;> simp_all [annotations, Reads]

theorem sets_minItems (taken : RuleTaken r key value r') :
    Sets "minItems" (Reads count) key value r.minItems r'.minItems := by
  refine ⟨fun named => ?_, fun other => ?_⟩ <;> cases taken <;> simp_all [annotations, Reads]

theorem sets_maxItems (taken : RuleTaken r key value r') :
    Sets "maxItems" (Reads count) key value r.maxItems r'.maxItems := by
  refine ⟨fun named => ?_, fun other => ?_⟩ <;> cases taken <;> simp_all [annotations, Reads]

theorem sets_minimum (taken : RuleTaken r key value r') :
    Sets "minimum" (Reads bound) key value r.minimum r'.minimum := by
  refine ⟨fun named => ?_, fun other => ?_⟩ <;> cases taken <;> simp_all [annotations, Reads]

theorem sets_maximum (taken : RuleTaken r key value r') :
    Sets "maximum" (Reads bound) key value r.maximum r'.maximum := by
  refine ⟨fun named => ?_, fun other => ?_⟩ <;> cases taken <;> simp_all [annotations, Reads]

theorem sets_required (taken : RuleTaken r key value r') :
    Sets "required" (fun v names => requiredNames v = .ok names) key value r.required
      r'.required := by
  refine ⟨fun named => ?_, fun other => ?_⟩ <;> cases taken <;> simp_all [annotations]

/-- Values that are listed once are not listed again. -/
theorem allowed_of_allowed {values : List Json} (taken : RuleTaken r key value r')
    (listed : r.allowed = some values) : r'.allowed = some values := by
  cases taken <;> simp_all

end RuleTaken

namespace Taken

/-- The keywords for what lies inside a value are no rules. -/
theorem not_ruleTaken (inner : key ∈ ["items", "properties", "additionalProperties"]) :
    ¬ RuleTaken r key value r' := by
  intro taken
  simp only [List.mem_cons, List.not_mem_nil, or_false] at inner
  rcases inner with named | named | named <;> cases taken <;> simp_all [annotations]

theorem sets_items (taken : Taken s key value s') :
    Sets "items" (fun v part => ∃ at_ inner, ofJson at_ v = .ok inner ∧ part = some inner)
      key value s.items s'.items := by
  constructor
  · intro named
    cases taken with
    | items read => exact ⟨_, _, read, rfl⟩
    | rule taken => exact absurd taken (not_ruleTaken (by simp [named]))
    | _ => simp at named
  · intro other
    cases taken <;> simp_all

theorem sets_properties (taken : Taken s key value s') :
    Sets "properties"
      (fun v part => ∃ at_ written, v = .object written ∧ ofProperties at_ written = .ok part)
      key value s.properties s'.properties := by
  constructor
  · intro named
    cases taken with
    | properties read => exact ⟨_, _, rfl, read⟩
    | rule taken => exact absurd taken (not_ruleTaken (by simp [named]))
    | _ => simp at named
  · intro other
    cases taken <;> simp_all

theorem sets_additional (taken : Taken s key value s') :
    Sets "additionalProperties" AdditionalRead key value s.additional s'.additional := by
  constructor
  · intro named
    cases taken with
    | additional read => exact read
    | rule taken => exact absurd taken (not_ruleTaken (by simp [named]))
    | _ => simp at named
  · intro other
    cases taken <;> simp_all

theorem enum (taken : Taken s "enum" value s') : Reads enumerated value s'.rules.allowed := by
  generalize named : "enum" = key at taken
  cases taken with
  | rule taken =>
      cases taken with
      | enum fresh read => exact ⟨_, read, rfl⟩
      | unheeded silent => simp [← named, annotations] at silent
      | _ => simp at named
  | _ => simp at named

theorem const (taken : Taken s "const" value s') : s'.rules.allowed = some [value] := by
  generalize named : "const" = key at taken
  cases taken with
  | rule taken =>
      cases taken with
      | const fresh => rfl
      | unheeded silent => simp [← named, annotations] at silent
      | _ => simp at named
  | _ => simp at named

theorem allowed_of_allowed {values : List Json} (taken : Taken s key value s')
    (listed : s.rules.allowed = some values) : s'.rules.allowed = some values := by
  cases taken with
  | rule taken => exact taken.allowed_of_allowed listed
  | _ => exact listed

theorem allowed_eq (taken : Taken s key value s') (noEnum : key ≠ "enum") (noConst : key ≠ "const") :
    s'.rules.allowed = s.rules.allowed := by
  cases taken with
  | rule taken => cases taken <;> simp_all
  | _ => rfl

end Taken

/-- What the parts of a schema have to do with the keywords it was read from. -/
structure ReadFrom (s : Schema) (keywords : Members) : Prop where
  reference : ReadAs
    (fun v part => ∃ target, referenceTarget? v = some target ∧ part = some target) none
    (Keyed.get? "$ref" keywords) s.rules.reference
  types : ReadAs (Reads types) none (Keyed.get? "type" keywords) s.rules.types
  enum : ∀ v, Keyed.get? "enum" keywords = some v → Reads enumerated v s.rules.allowed
  const : ∀ v, Keyed.get? "const" keywords = some v → s.rules.allowed = some [v]
  free : Keyed.get? "enum" keywords = none → Keyed.get? "const" keywords = none →
    s.rules.allowed = none
  minLength : ReadAs (Reads count) none (Keyed.get? "minLength" keywords) s.rules.minLength
  maxLength : ReadAs (Reads count) none (Keyed.get? "maxLength" keywords) s.rules.maxLength
  minItems : ReadAs (Reads count) none (Keyed.get? "minItems" keywords) s.rules.minItems
  maxItems : ReadAs (Reads count) none (Keyed.get? "maxItems" keywords) s.rules.maxItems
  minimum : ReadAs (Reads bound) none (Keyed.get? "minimum" keywords) s.rules.minimum
  maximum : ReadAs (Reads bound) none (Keyed.get? "maximum" keywords) s.rules.maximum
  required : ReadAs (fun v names => requiredNames v = .ok names) []
    (Keyed.get? "required" keywords) s.rules.required
  items : ReadAs (fun v part => ∃ at_ inner, ofJson at_ v = .ok inner ∧ part = some inner) none
    (Keyed.get? "items" keywords) s.items
  properties : ReadAs
    (fun v part => ∃ at_ written, v = .object written ∧ ofProperties at_ written = .ok part) []
    (Keyed.get? "properties" keywords) s.properties
  additional : ReadAs AdditionalRead .allowed (Keyed.get? "additionalProperties" keywords)
    s.additional

theorem readFrom_of_ofMembers (distinct : (keywords.map (·.1)).Nodup)
    (read : ofMembers at_ any keywords = .ok t) : t.ReadFrom keywords where
  reference := readAs_of_ofMembers (Taken.sets_rules (by decide) RuleTaken.sets_reference) distinct read
  types := readAs_of_ofMembers (Taken.sets_rules (by decide) RuleTaken.sets_types) distinct read
  minLength := readAs_of_ofMembers (Taken.sets_rules (by decide) RuleTaken.sets_minLength) distinct read
  maxLength := readAs_of_ofMembers (Taken.sets_rules (by decide) RuleTaken.sets_maxLength) distinct read
  minItems := readAs_of_ofMembers (Taken.sets_rules (by decide) RuleTaken.sets_minItems) distinct read
  maxItems := readAs_of_ofMembers (Taken.sets_rules (by decide) RuleTaken.sets_maxItems) distinct read
  minimum := readAs_of_ofMembers (Taken.sets_rules (by decide) RuleTaken.sets_minimum) distinct read
  maximum := readAs_of_ofMembers (Taken.sets_rules (by decide) RuleTaken.sets_maximum) distinct read
  required := readAs_of_ofMembers (Taken.sets_rules (by decide) RuleTaken.sets_required) distinct read
  items := readAs_of_ofMembers Taken.sets_items distinct read
  properties := readAs_of_ofMembers Taken.sets_properties distinct read
  additional := readAs_of_ofMembers Taken.sets_additional distinct read
  enum v given := by
    refine part_of_ofMembers Taken.enum (fun _ taken said => ?_) distinct read given
    obtain ⟨values, read, listed⟩ := said
    exact ⟨values, read, taken.allowed_of_allowed listed⟩
  const v given := by
    exact part_of_ofMembers (P := fun v part => part = some [v]) Taken.const
      (fun _ taken said => taken.allowed_of_allowed said) distinct read given
  free noEnum noConst := by
    exact part_of_absent (fun key inside taken => taken.allowed_eq
      (ne_of_get?_eq_none noEnum inside) (ne_of_get?_eq_none noConst inside)) read

/-- A schema that was read from an object, with its keywords. -/
theorem readFrom_of_ofJson (distinct : (keywords.map (·.1)).Nodup)
    (read : ofJson at_ (.object keywords) = .ok t) : t.ReadFrom keywords := by
  rw [ofJson] at read
  exact readFrom_of_ofMembers distinct read

/-- The schema under a name is read from what is written under the name. -/
theorem readAs_of_ofProperties {written : Members} {properties : Keyed Schema}
    (read : ofProperties at_ written = .ok properties) (name : String) :
    ReadAs (fun v part => ∃ at_ inner, ofJson at_ v = .ok inner ∧ part = some inner) none
      (Keyed.get? name written) (Keyed.get? name properties) := by
  induction written generalizing properties with
  | nil =>
      cases read
      rfl
  | cons first rest ih =>
      obtain ⟨key, v⟩ := first
      rw [ofProperties] at read
      obtain ⟨inner, readInner, read⟩ := bind_eq_ok.mp read
      obtain ⟨others, readOthers, same⟩ := bind_eq_ok.mp read
      cases same
      rw [Keyed.get?_cons, Keyed.get?_insert]
      split
      · exact ⟨_, inner, readInner, rfl⟩
      · exact ih readOthers

end Schema

namespace SchemaStore

variable {members : Members} {store : SchemaStore}

/-- How the definitions of a store come from the members of its root. -/
def Defines (members : Members) (definitions : Keyed Schema) : Prop :=
  Schema.ReadAs (fun v part => ∃ written, v = .object written ∧
    Schema.ofProperties ["$defs"] written = .ok part) [] (Keyed.get? "$defs" members) definitions

/-- The definitions and the root of a store are read one after the other, and its references are
looked up when both have been. -/
theorem ofJson_eq_ok_iff : SchemaStore.ofJson (.object members) = .ok store ↔
    Defines members store.definitions ∧
    Schema.ofMembers .root .any (Keyed.erase "$defs" members) = .ok store.root ∧
    Schema.checkReferences store.definitions .root store.root = .ok () ∧
    Schema.checkPropertyReferences store.definitions ["$defs"] store.definitions = .ok () := by
  obtain ⟨root, definitions⟩ := store
  rw [SchemaStore.ofJson]
  cases given : Keyed.get? "$defs" members with
  | none =>
      simp only [Defines, given, Schema.ReadAs, pure_eq_ok, ok_bind, bind_eq_ok, exists_and_right,
        exists_eq_ok_unit, Except.ok.injEq, SchemaStore.mk.injEq]
      constructor
      · rintro ⟨_, read, checked, checked', rfl, rfl⟩
        exact ⟨rfl, read, checked, checked'⟩
      · rintro ⟨rfl, read, checked, checked'⟩
        exact ⟨_, read, checked, checked', rfl, rfl⟩
  | some v =>
      cases v with
      | object written => simp [Defines, given, Schema.ReadAs]
      | _ => simp [Defines, given, Schema.ReadAs, Schema.refuse]

theorem ofText_of_parse {text : String} (parsed : Json.parse text = .ok (.object members))
    (definitions : Defines members store.definitions)
    (root : Schema.ofMembers .root .any (Keyed.erase "$defs" members) = .ok store.root)
    (inRoot : Schema.checkReferences store.definitions .root store.root = .ok ())
    (inDefinitions :
      Schema.checkPropertyReferences store.definitions ["$defs"] store.definitions = .ok ()) :
    SchemaStore.ofText text = .ok store := by
  have compiled := ofJson_eq_ok_iff.mpr ⟨definitions, root, inRoot, inDefinitions⟩
  rw [SchemaStore.ofText, parsed, ← compiled]

/-- The definitions of a store are read from what is written under `$defs`. -/
theorem readAs_of_ofJson (compiled : SchemaStore.ofJson (.object members) = .ok store) :
    Schema.ReadAs (fun v part => ∃ at_ written, v = .object written ∧
      Schema.ofProperties at_ written = .ok part) [] (Keyed.get? "$defs" members)
      store.definitions := by
  have defines := (ofJson_eq_ok_iff.mp compiled).1
  rw [Defines] at defines
  cases given : Keyed.get? "$defs" members with
  | none => rwa [given] at defines
  | some v =>
      rw [given] at defines
      exact ⟨_, defines⟩

end SchemaStore
end AgentManifest
