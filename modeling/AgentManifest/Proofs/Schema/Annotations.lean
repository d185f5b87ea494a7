import AgentManifest.Proofs.Schema.Locations

/-! Annotations say nothing about values. A schema that is written without them is compiled to the
same schema, and one that is refused is refused with the same fault at the same place: the words
that annotate a schema are left out wherever a schema stands, and kept where they are names or
data. -/

namespace AgentManifest

namespace Json

mutual

/-- A schema without the annotations of itself and of the schemas written inside it. -/
def unannotated : Json → Json
  | .object keywords => .object (unannotatedKeywords keywords)
  | v => v

def unannotatedKeywords : List (String × Json) → List (String × Json)
  | [] => []
  | (key, v) :: rest =>
    if key ∈ Schema.annotations then unannotatedKeywords rest
    else (key, unannotatedUnder key v) :: unannotatedKeywords rest

/-- What a keyword holds: one schema, or schemas under names, or something that is no schema. -/
def unannotatedUnder (key : String) : Json → Json
  | .object members =>
    if key ∈ ["items", "additionalProperties"] then .object (unannotatedKeywords members)
    else if key ∈ ["properties", "$defs"] then .object (unannotatedEach members)
    else .object members
  | v => v

/-- Schemas under names, each without its annotations. The names stay, whatever they are. -/
def unannotatedEach : List (String × Json) → List (String × Json)
  | [] => []
  | (name, v) :: rest => (name, unannotated v) :: unannotatedEach rest

end

variable {keywords : Members} {key name : String} {v : Json} {step : SchemaStep}

theorem unannotatedUnder_schema (holds : key ∈ ["items", "additionalProperties"]) (v : Json) :
    unannotatedUnder key v = v.unannotated := by
  cases v with
  | object members => rw [unannotatedUnder, if_pos holds, unannotated]
  | _ => rfl

theorem unannotatedUnder_named (holds : key ∈ ["properties", "$defs"]) (schemas : Members) :
    unannotatedUnder key (.object schemas) = .object (unannotatedEach schemas) := by
  have several : key ∉ ["items", "additionalProperties"] := by
    rintro (_ | ⟨_, _ | ⟨_, ⟨⟩⟩⟩) <;> simp at holds
  rw [unannotatedUnder, if_neg several, if_pos holds]

theorem get?_unannotatedKeywords : Keyed.get? key (unannotatedKeywords keywords) =
    if key ∈ Schema.annotations then none
    else (Keyed.get? key keywords).map (unannotatedUnder key) := by
  induction keywords with
  | nil => simp [unannotatedKeywords]
  | cons first rest ih =>
      obtain ⟨other, v⟩ := first
      rw [unannotatedKeywords, Keyed.get?_cons]
      by_cases same : key = other
      · subst same
        split
        next silent => rw [ih, if_pos silent]
        next => simp
      · rw [if_neg same]
        split
        next => exact ih
        next => rw [Keyed.get?_cons, if_neg same, ih]

theorem get?_unannotatedKeywords_of_heeded (heeded : key ∉ Schema.annotations) :
    Keyed.get? key (unannotatedKeywords keywords) =
      (Keyed.get? key keywords).map (unannotatedUnder key) := by
  rw [get?_unannotatedKeywords, if_neg heeded]

theorem get?_unannotatedEach :
    Keyed.get? name (unannotatedEach keywords) = (Keyed.get? name keywords).map unannotated := by
  induction keywords with
  | nil => simp [unannotatedEach]
  | cons first rest ih =>
      rw [unannotatedEach, Keyed.get?_cons, Keyed.get?_cons, ih]
      split <;> rfl

theorem erase_unannotatedKeywords : Keyed.erase key (unannotatedKeywords keywords) =
    unannotatedKeywords (Keyed.erase key keywords) := by
  induction keywords with
  | nil => rfl
  | cons first rest ih =>
      obtain ⟨other, v⟩ := first
      by_cases same : other = key <;> by_cases silent : other ∈ Schema.annotations <;>
        simp_all [Keyed.erase, unannotatedKeywords]

/-- A schema under a name stands under the same name. -/
theorem at?_unannotated_named (holds : key ∈ ["properties", "$defs"]) (name : String) (v : Json) :
    v.unannotated.at? [.field key, .field name] =
      (v.at? [.field key, .field name]).map unannotated := by
  have heeded : key ∉ Schema.annotations := by
    rcases List.mem_pair.mp holds with rfl | rfl <;> decide
  cases v with
  | object keywords =>
      simp only [unannotated, at?, get?_unannotatedKeywords_of_heeded heeded]
      cases Keyed.get? key keywords with
      | none => rfl
      | some v =>
          cases v with
          | object schemas =>
              rw [Option.map_some, unannotatedUnder_named holds]
              simp [at?, get?_unannotatedEach]
          | _ => rfl
  | _ => rfl

theorem inner?_unannotated (v : Json) (step : SchemaStep) :
    v.unannotated.inner? step = (v.inner? step).map unannotated := by
  cases v with
  | object keywords =>
      cases step with
      | property name => exact at?_unannotated_named (by decide) name (.object keywords)
      | items =>
          simp only [unannotated, inner?, SchemaStep.names, List.map_cons, List.map_nil, at?_field]
          rw [get?_unannotatedKeywords_of_heeded (by decide)]
          congr 1
          funext v
          exact unannotatedUnder_schema (by decide) v
      | additional =>
          simp only [unannotated, inner?, SchemaStep.names, List.map_cons, List.map_nil, at?_field]
          rw [get?_unannotatedKeywords_of_heeded (by decide)]
          cases Keyed.get? "additionalProperties" keywords with
          | none => rfl
          | some v =>
              rw [Option.map_some, unannotatedUnder_schema (by decide)]
              cases v <;> rfl
  | _ => cases step <;> rfl

end Json

namespace Schema

variable {at_ : SchemaLocation} {s : Schema} {key : String} {v : Json} {rest : Members}

/-- What one keyword makes of a schema. -/
def ofKeyword (at_ : SchemaLocation) (s : Schema) (key : String) (value : Json) :
    Except SchemaError Schema :=
  let place := at_.member key
  if key = "items" then do return { s with items := some (← ofJson place value) }
  else if key = "additionalProperties" then
    match value with
    | .bool true => .ok { s with additional := .allowed }
    | .bool false => .ok { s with additional := .forbidden }
    | other => do return { s with additional := .schema (← ofJson place other) }
  else if key = "properties" then
    match value with
    | .object properties => do return { s with properties := ← ofProperties place properties }
    | _ => refuse place .notObject
  else
    match ruleKeyword key value s.rules with
    | .ok rules => .ok { s with rules }
    | .error fault => refuse place fault

theorem ofMembers_cons : ofMembers at_ s ((key, v) :: rest) =
    (ofKeyword at_ s key v >>= fun s => ofMembers at_ s rest) := by
  unfold ofKeyword
  conv_lhs => unfold ofMembers
  dsimp only
  split
  · simp
  split
  · cases v with
    | bool b => cases b <;> rfl
    | _ => simp
  split
  · cases v with
    | object properties => simp
    | _ => rfl
  · cases ruleKeyword key v s.rules <;> rfl

/-- No keyword for what lies inside a value is an annotation, nor is any rule. -/
theorem ofKeyword_annotation (silent : key ∈ annotations) : ofKeyword at_ s key v = .ok s := by
  have heeded : ruleKeyword key v s.rules = .ok s.rules := by
    simp only [annotations, List.mem_cons, List.not_mem_nil, or_false] at silent
    rcases silent with rfl | rfl | rfl | rfl | rfl | rfl | rfl <;> rfl
  have items : key ≠ "items" := by rintro rfl; simp [annotations] at silent
  have additional : key ≠ "additionalProperties" := by rintro rfl; simp [annotations] at silent
  have properties : key ≠ "properties" := by rintro rfl; simp [annotations] at silent
  cases s with
  | mk rules inner listed others =>
      simp only [ofKeyword, items, additional, properties, heeded, if_false]

mutual

theorem ofJson_unannotated (at_ : SchemaLocation) :
    (v : Json) → ofJson at_ v.unannotated = ofJson at_ v
  | .object keywords => by rw [Json.unannotated, ofJson, ofJson, ofMembers_unannotated]
  | .null | .bool _ | .number _ | .string _ | .array _ => rfl

theorem ofMembers_unannotated (at_ : SchemaLocation) (s : Schema) :
    (keywords : List (String × Json)) →
      ofMembers at_ s (Json.unannotatedKeywords keywords) = ofMembers at_ s keywords
  | [] => rfl
  | (key, v) :: rest => by
      have onward : ∀ s, ofMembers at_ s (Json.unannotatedKeywords rest) = ofMembers at_ s rest :=
        fun s => ofMembers_unannotated at_ s rest
      rw [Json.unannotatedKeywords, ofMembers_cons]
      split
      next silent => rw [onward, ofKeyword_annotation silent, ok_bind]
      next => simp only [ofMembers_cons, ofKeyword_unannotated at_ s key v, onward]

theorem ofKeyword_unannotated (at_ : SchemaLocation) (s : Schema) (key : String) :
    (v : Json) → ofKeyword at_ s key (Json.unannotatedUnder key v) = ofKeyword at_ s key v
  | .object members => by
      have schema := ofMembers_unannotated (at_.member key) any members
      have named := ofProperties_unannotated (at_.member key) members
      rw [Json.unannotatedUnder]
      split
      next holds =>
        rcases List.mem_pair.mp holds with rfl | rfl
        · simp [ofKeyword, ofJson, schema]
        · simp [ofKeyword, ofJson, schema]
      next =>
        split
        next holds =>
          rcases List.mem_pair.mp holds with rfl | rfl
          · simp [ofKeyword, named]
          · rfl
        next => rfl
  | .null | .bool _ | .number _ | .string _ | .array _ => rfl

theorem ofProperties_unannotated (at_ : SchemaLocation) :
    (schemas : List (String × Json)) →
      ofProperties at_ (Json.unannotatedEach schemas) = ofProperties at_ schemas
  | [] => rfl
  | (name, v) :: rest => by
      rw [Json.unannotatedEach, ofProperties, ofProperties, ofJson_unannotated,
        ofProperties_unannotated]

end

end Schema

namespace SchemaPlace

variable {v : Json} {steps : List SchemaStep}

theorem start?_unannotated (place : SchemaPlace) (tree : Json) :
    place.start? tree.unannotated = (place.start? tree).map Json.unannotated := by
  obtain ⟨definition, steps⟩ := place
  cases tree with
  | object members =>
      cases definition with
      | none => simp [start?, Json.unannotated, Json.erase_unannotatedKeywords]
      | some name => exact Json.at?_unannotated_named (by decide) name (.object members)
  | _ => cases definition <;> rfl

theorem along_unannotated (v : Json) (steps : List SchemaStep) :
    steps.foldlM Json.inner? v.unannotated = (steps.foldlM Json.inner? v).map Json.unannotated := by
  induction steps generalizing v with
  | nil => rfl
  | cons step steps ih =>
      rw [List.foldlM_cons, List.foldlM_cons, Json.inner?_unannotated]
      cases v.inner? step with
      | none => rfl
      | some inner => exact ih inner

/-- The schemas stand where they stood. -/
theorem written?_unannotated (place : SchemaPlace) (tree : Json) :
    place.written? tree.unannotated = (place.written? tree).map Json.unannotated := by
  rw [written?, written?, start?_unannotated]
  cases place.start? tree with
  | none => rfl
  | some start => exact along_unannotated start place.steps

end SchemaPlace

namespace SchemaStore

theorem ofJson_unannotated (tree : Json) : ofJson tree.unannotated = ofJson tree := by
  cases tree with
  | object members =>
      have heeded : "$defs" ∉ Schema.annotations := by decide
      simp only [Json.unannotated, ofJson, Json.get?_unannotatedKeywords_of_heeded heeded,
        Json.erase_unannotatedKeywords, Schema.ofMembers_unannotated]
      cases Keyed.get? "$defs" members with
      | none => rfl
      | some v =>
          cases v with
          | object schemas =>
              rw [Option.map_some, Json.unannotatedUnder_named (by decide)]
              simp only [Schema.ofProperties_unannotated]
          | _ => rfl
  | _ => rfl

/-- A tree without the annotations of its schemas is compiled to the same store, or is refused with
the same fault at the same place. At every place for a schema, all keywords but the annotations
stand there as before, with no annotations in the schemas that they hold. -/
theorem annotations_say_nothing (tree : Json) :
    ofJson tree.unannotated = ofJson tree ∧
    ∀ (place : SchemaPlace) (key : String),
      (place.written? tree.unannotated).bind (·.at? [.field key]) =
        if key ∈ Schema.annotations then none
        else ((place.written? tree).bind (·.at? [.field key])).map (Json.unannotatedUnder key) := by
  refine ⟨ofJson_unannotated tree, fun place key => ?_⟩
  rw [SchemaPlace.written?_unannotated]
  cases place.written? tree with
  | none => simp
  | some v =>
      cases v with
      | object keywords =>
          simp only [Option.map_some, Option.bind_some, Json.unannotated, Json.at?_field,
            Json.get?_unannotatedKeywords]
      | _ => simp [Json.unannotated, Json.at?]

/-- The same words annotate a schema, name a member, and stand in a value that is allowed. -/
example : (Json.object [("enum", .array [.object [("title", .null)]]),
      ("properties", .object [("title", .object [("default", .null)])]),
      ("title", .string "T")]).unannotated =
    .object [("enum", .array [.object [("title", .null)]]),
      ("properties", .object [("title", .object [])])] := by rfl

end SchemaStore
end AgentManifest
