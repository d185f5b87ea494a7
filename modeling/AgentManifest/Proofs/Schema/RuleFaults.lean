import AgentManifest.Proofs.Json.Places
import AgentManifest.Proofs.Schema.Subset

/-! What can be wrong with one keyword of a schema. Each fault says what the value of its keyword is
not, and nothing is wrong with a keyword that is written as it can be. -/

namespace AgentManifest

/-- A value that can stand where a value was found to be wrong. Where a keyword is wrong whatever
its value, or a reference is, there is none. -/
def SchemaFault.remedy? : SchemaFault → Option Json
  | .rootNotObject | .notObject => some (.object [])
  | .notSchema => some (.bool true)
  | .notNonEmptyArray => some (.array [.null])
  | .notCount => some (.number (.integer 0))
  | .notNumber => some (.number (.integer 0))
  | .notNames => some (.array [])
  | .notTypes | .typeNotString | .unknownType _ => some (.string "null")
  | .nestedDefinitions | .unsupportedReference | .enumWithConst | .unsupportedKeyword _
  | .unresolvedReference _ => none

theorem SchemaFault.wellFormed_remedy {fault : SchemaFault} {w : Json}
    (remedied : fault.remedy? = some w) : w.WellFormed := by
  cases fault <;> cases remedied
  · exact .object (by simp) (by simp)
  · exact .bool true
  · exact .array (by simpa using .null)
  · exact .number (show Number.fits 0 = true by decide)
  · exact .number (show Number.fits 0 = true by decide)
  · exact .object (by simp) (by simp)
  · exact .array (by simp)
  · exact .string _
  · exact .string _
  · exact .string _

/-- Nothing stands inside a remedy. -/
theorem SchemaFault.at?_remedy {fault : SchemaFault} {w : Json} {name : String} {path : FieldPath}
    (remedied : fault.remedy? = some w) : w.at? (.field name :: path) = none := by
  cases fault <;> cases remedied <;> rfl

namespace Schema

/-- The keywords that look into a value. -/
def innerKeywords : List String := ["items", "properties", "additionalProperties"]

/-- The keywords that look at a value itself, and the name that only the root can have. -/
def ruleKeywords : List String :=
  ["$defs", "$ref", "type", "enum", "const", "minLength", "maxLength", "minItems", "maxItems",
    "minimum", "maximum", "required"]

/-- What is wrong with a keyword that looks at a value itself. It may come `second`, behind another
that has listed the values allowed. -/
inductive RuleFault (second : Prop) : String → Json → SchemaFault → Prop where
  | nestedDefinitions (v : Json) : RuleFault second "$defs" v .nestedDefinitions
  | unsupportedReference {v : Json}
      (unfit : ∀ name : String, name ≠ "" → '/' ∉ name.toList → v ≠ .string ("#/$defs/" ++ name)) :
      RuleFault second "$ref" v .unsupportedReference
  | enumWithConst {key : String} (lists : Lists key) (behind : second) (v : Json) :
      RuleFault second key v .enumWithConst
  | notNonEmptyArray {v : Json} (alone : ¬ second)
      (unfit : ∀ values, values ≠ [] → v ≠ .array values) :
      RuleFault second "enum" v .notNonEmptyArray
  | notCount {key : String} {v : Json}
      (counts : key ∈ ["minLength", "maxLength", "minItems", "maxItems"])
      (unfit : ∀ n, v ≠ Json.ofNat n) : RuleFault second key v .notCount
  | notNumber {key : String} {v : Json} (bounds : key ∈ ["minimum", "maximum"])
      (unfit : ∀ n, v ≠ .number n) : RuleFault second key v .notNumber
  | notNames {v : Json} (unfit : ∀ names : List String, v ≠ .array (names.map .string)) :
      RuleFault second "required" v .notNames
  | notTypes {v : Json} (noName : ∀ name, v ≠ .string name)
      (noList : ∀ values, values ≠ [] → v ≠ .array values) : RuleFault second "type" v .notTypes
  | typeNotString {values : List Json} {value : Json} (inside : value ∈ values)
      (unfit : ∀ name, value ≠ .string name) :
      RuleFault second "type" (.array values) .typeNotString
  | unknownType {name : String} (unknown : name ∉ typeNames) :
      RuleFault second "type" (.string name) (.unknownType name)
  | unknownTypeAmong {before behind : List String} {name : String}
      (known : ∀ other ∈ before, other ∈ typeNames) (unknown : name ∉ typeNames) :
      RuleFault second "type" (.array ((before ++ name :: behind).map .string)) (.unknownType name)
  | unsupportedKeyword {key : String}
      (unsupported : key ∉ innerKeywords ++ ruleKeywords ++ annotations) (v : Json) :
      RuleFault second key v (.unsupportedKeyword key)

variable {key : String} {v : Json} {r : Rules} {fault : SchemaFault}

theorem ruleFault_of_types {second : Prop} (refused : types v = .error fault) :
    RuleFault second "type" v fault := by
  unfold types at refused
  split at refused
  next name =>
    obtain ⟨before, unknown, behind, same, -, unread, rfl⟩ := typesNamed_eq_error refused
    cases before with
    | nil =>
        cases same
        exact .unknownType unread
    | cons other before => simp at same
  next first rest =>
    split at refused
    next names read =>
      obtain ⟨before, unknown, behind, rfl, known, unread, rfl⟩ := typesNamed_eq_error refused
      rw [names?_eq_some_iff.mp read]
      exact .unknownTypeAmong known unread
    next unread =>
      cases refused
      obtain ⟨value, inside, unfit⟩ := names?_eq_none unread
      exact .typeNotString inside unfit
  next noName noList =>
    cases refused
    refine .notTypes noName fun values filled => ?_
    obtain ⟨first, rest, rfl⟩ := List.exists_cons_of_ne_nil filled
    exact noList first rest

theorem ruleFault_of_ruleKeyword (own : key ∉ innerKeywords)
    (refused : ruleKeyword key v r = .error fault) :
    RuleFault (r.allowed.isSome = true) key v fault := by
  unfold ruleKeyword at refused
  split at refused
  case h_1 =>
    cases refused
    exact .nestedDefinitions v
  case h_2 =>
    split at refused
    next => cases refused
    next unread =>
      cases refused
      refine .unsupportedReference fun name filled whole same => ?_
      rw [referenceTarget?_eq_some_iff.mpr ⟨⟨filled, whole⟩, same⟩] at unread
      cases unread
  case h_3 => exact ruleFault_of_types (bind_pure_eq_error.mp refused)
  case h_4 =>
    split at refused
    next listed =>
      cases refused
      exact .enumWithConst (by simp [Lists]) listed v
    next alone =>
      obtain ⟨rfl, unfit⟩ := enumerated_eq_error (bind_pure_eq_error.mp refused)
      exact .notNonEmptyArray alone unfit
  case h_5 =>
    split at refused
    next listed =>
      cases refused
      exact .enumWithConst (by simp [Lists]) listed v
    next => cases refused
  case h_12 =>
    obtain ⟨rfl, unfit⟩ := requiredNames_eq_error (bind_pure_eq_error.mp refused)
    exact .notNames unfit
  case h_13 =>
    split at refused
    next => cases refused
    next =>
      cases refused
      refine .unsupportedKeyword ?_ v
      simp_all [ruleKeywords]
  case h_10 | h_11 =>
    obtain ⟨rfl, unfit⟩ := bound_eq_error (bind_pure_eq_error.mp refused)
    exact .notNumber (by simp) unfit
  all_goals
    obtain ⟨rfl, unfit⟩ := count_eq_error (bind_pure_eq_error.mp refused)
    exact .notCount (by simp) unfit

variable {w : Json} {second : Prop} {defined : String → Prop}

/-- Nothing is wrong with a keyword that is written as it can be. -/
theorem WrittenRule.faultless (written : WrittenRule defined key v) (alone : Lists key → ¬ second) :
    ¬ RuleFault second key v fault := by
  intro told
  -- The keys are compared by equations, as taking cases does not tell two names apart.
  obtain ⟨key', sameKey⟩ : ∃ key', key' = key := ⟨key, rfl⟩
  obtain ⟨v', sameValue⟩ : ∃ v', v' = v := ⟨v, rfl⟩
  rw [← sameKey, ← sameValue] at told
  cases written with
  | reference filled whole known =>
      cases told with
      | unsupportedReference unfit => exact unfit _ filled whole sameValue
      | unsupportedKeyword => simp_all [ruleKeywords]
      | _ => simp_all [Lists]
  | type known =>
      cases told with
      | unsupportedKeyword => simp_all [ruleKeywords]
      | _ => simp_all [Lists]
  | @types names filled known =>
      cases told with
      | typeNotString inside unfit =>
          obtain rfl := Json.array.inj sameValue
          obtain ⟨name, -, same⟩ := List.mem_map.mp inside
          exact unfit name same.symm
      | @unknownTypeAmong before behind name _ unknown =>
          have all : before ++ name :: behind = names :=
            (List.map_inj_right fun _ _ => Json.string.inj).mp (Json.array.inj sameValue)
          exact unknown (known name (by simp [← all]))
      | unsupportedKeyword => simp_all [ruleKeywords]
      | _ => simp_all [Lists]
  | enum filled =>
      cases told with
      | unsupportedKeyword => simp_all [ruleKeywords]
      | _ => simp_all [Lists]
  | const =>
      cases told with
      | unsupportedKeyword => simp_all [ruleKeywords]
      | _ => simp_all [Lists]
  | count counts n =>
      simp only [List.mem_cons, List.not_mem_nil, or_false] at counts
      rcases counts with rfl | rfl | rfl | rfl <;> cases told <;> simp_all [Lists, ruleKeywords]
  | bound bounds n =>
      simp only [List.mem_cons, List.not_mem_nil, or_false] at bounds
      rcases bounds with rfl | rfl <;> cases told <;> simp_all [Lists, ruleKeywords]
  | required names =>
      cases told with
      | unsupportedKeyword => simp_all [ruleKeywords]
      | _ => simp_all [Lists]
  | unheeded silent value =>
      cases told with
      | unsupportedKeyword unsupported => simp_all [annotations]
      | notCount counts =>
          subst sameKey
          simp only [List.mem_cons, List.not_mem_nil, or_false] at counts
          rcases counts with rfl | rfl | rfl | rfl <;> simp at silent
      | notNumber bounds =>
          subst sameKey
          simp only [List.mem_cons, List.not_mem_nil, or_false] at bounds
          rcases bounds with rfl | rfl <;> simp at silent
      | _ =>
          subst sameKey
          simp_all [Lists]

/-- The remedy of a rule is written as the rule can be. -/
theorem RuleFault.writtenRule_of_remedy (told : RuleFault second key v fault)
    (remedied : fault.remedy? = some w) : WrittenRule defined key w ∧ (Lists key → ¬ second) := by
  cases told with
  | notNonEmptyArray alone unfit =>
      cases remedied
      exact ⟨.enum (by simp), fun _ => alone⟩
  | notCount counts unfit =>
      cases remedied
      refine ⟨.count counts 0, fun lists => ?_⟩
      simp only [List.mem_cons, List.not_mem_nil, or_false] at counts
      rcases counts with rfl | rfl | rfl | rfl <;> simp [Lists] at lists
  | notNumber bounds unfit =>
      cases remedied
      refine ⟨.bound bounds _, fun lists => ?_⟩
      simp only [List.mem_cons, List.not_mem_nil, or_false] at bounds
      rcases bounds with rfl | rfl <;> simp [Lists] at lists
  | notNames unfit =>
      cases remedied
      exact ⟨.required [], by simp [Lists]⟩
  | notTypes | typeNotString | unknownType | unknownTypeAmong =>
      cases remedied
      exact ⟨.type (by simp [typeNames]), by simp [Lists]⟩
  | _ => cases remedied

end Schema
end AgentManifest
