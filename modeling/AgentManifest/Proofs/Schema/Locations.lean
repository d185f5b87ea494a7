import Mathlib.Data.List.Induction
import Mathlib.Data.Option.Basic
import AgentManifest.Proofs.Json.Places
import AgentManifest.Proofs.Json.Reading
import AgentManifest.Proofs.Schema.Compiled
import AgentManifest.Proofs.Schema.Descent
import AgentManifest.Schema.AgentSchema
import AgentManifest.Validation.Findings

/-! Schemas by where they are written. What stands at a place of the text is compiled to what stands
at the same place of the store, and the location of the place leads there as long as no schema on
the way refers to a definition: behind a reference, a path goes on in the definition. -/

namespace AgentManifest

/-- A step from a schema to one that is written inside it. -/
inductive SchemaStep where
  | property (name : String)
  | items
  | additional
  deriving DecidableEq, Repr

/-- The member names that a step is written with. -/
def SchemaStep.names : SchemaStep → SchemaLocation
  | .property name => ["properties", name]
  | .items => ["items"]
  | .additional => ["additionalProperties"]

/-- A place for a schema: steps that start from a definition, or else from the root. -/
structure SchemaPlace where
  definition : Option String
  steps : List SchemaStep
  deriving DecidableEq, Repr

namespace SchemaPlace

def location (place : SchemaPlace) : SchemaLocation :=
  (match place.definition with
    | some name => ["$defs", name]
    | none => .root) ++ place.steps.flatMap SchemaStep.names

/-- The place after the first steps only. -/
def upTo (place : SchemaPlace) (count : Nat) : SchemaPlace :=
  ⟨place.definition, place.steps.take count⟩

end SchemaPlace

/-- What is written one step further. A truth value for the members that are not listed says whether
they may be there, and is no schema. -/
def Json.inner? (v : Json) (step : SchemaStep) : Option Json :=
  match step, v.at? (step.names.map .field) with
  | .additional, some (.bool _) => none
  | _, inner => inner

/-- What a place starts from. The root is what is written beside the definitions. -/
def SchemaPlace.start? (place : SchemaPlace) (tree : Json) : Option Json :=
  match place.definition, tree with
  | some name, _ => tree.at? [.field "$defs", .field name]
  | none, .object members => some (.object (Keyed.erase "$defs" members))
  | none, _ => none

/-- The schema written at a place. -/
def SchemaPlace.written? (place : SchemaPlace) (tree : Json) : Option Json := do
  place.steps.foldlM Json.inner? (← place.start? tree)

/-- No schema that a place is inside of refers to a definition. -/
def SchemaPlace.Straight (place : SchemaPlace) (tree : Json) : Prop :=
  ∀ count < place.steps.length, ∀ holder, (place.upTo count).written? tree = some holder →
    holder.at? [.field "$ref"] = none

def Schema.inner? (s : Schema) : SchemaStep → Option Schema
  | .property name => Keyed.get? name s.properties
  | .items => s.items
  | .additional =>
    match s.additional with
    | .schema extra => some extra
    | .allowed | .forbidden => none

namespace SchemaStore

def start? (store : SchemaStore) (place : SchemaPlace) : Option Schema :=
  match place.definition with
  | some name => store.definition? name
  | none => some store.root

/-- The schema compiled at a place. -/
def compiled? (store : SchemaStore) (place : SchemaPlace) : Option Schema := do
  place.steps.foldlM Schema.inner? (← store.start? place)

/-- The schema that the steps of a place lead to if each goes on at the end of the references. -/
def followed? (store : SchemaStore) (place : SchemaPlace) : Option Schema := do
  place.steps.foldlM (fun s => (store.resolved s).inner?) (← store.start? place)

end SchemaStore

namespace SchemaLocation

/-- Whether a location can be told from its text. -/
def Plain (l : SchemaLocation) : Prop := ∀ name ∈ l, name ≠ "" ∧ '/' ∉ name.toList

instance (l : SchemaLocation) : Decidable l.Plain :=
  inferInstanceAs (Decidable (∀ name ∈ l, name ≠ "" ∧ '/' ∉ name.toList))

theorem text_member (l : SchemaLocation) (name : String) :
    (l.member name).text = l.text ++ "/" ++ name := by
  simp [text, member, String.append_assoc]

theorem segments_text {l : SchemaLocation} (plain : l.Plain) : SchemaStore.segments l.text = l := by
  induction l using List.reverseRecOn with
  | nil => rfl
  | append_singleton l name ih =>
      obtain ⟨named, whole⟩ := plain name (by simp)
      have before : SchemaLocation.Plain l := fun name inside =>
        plain name (List.mem_append_left _ inside)
      rw [← member, text_member, SchemaStore.segments_step _ named whole, ih before, member]

theorem marked_text (l : SchemaLocation) :
    "#" ++ String.ofList (SchemaStore.withoutRootMark l.text) = l.text := by
  have marked : l.text.toList = '#' :: (String.join (l.map ("/" ++ ·))).toList := by
    rw [text, String.toList_append]
    rfl
  rw [SchemaStore.withoutRootMark, marked]
  simp only [String.ofList_toList, text]

end SchemaLocation

variable {store : SchemaStore} {place : SchemaPlace} {s : Schema} {v w tree : Json}
variable {at_ : SchemaLocation} {step : SchemaStep} {steps : List SchemaStep} {text : String}

namespace SchemaStore

theorem descend?_names (store : SchemaStore) (s : Schema) (steps : List SchemaStep) :
    store.descend? s (steps.flatMap SchemaStep.names) =
      steps.foldlM (fun s => (store.resolved s).inner?) s := by
  induction steps generalizing s with
  | nil => rfl
  | cons step steps ih =>
      rw [List.flatMap_cons, List.foldlM_cons]
      cases step with
      | property name => simp [SchemaStep.names, descend?, Schema.inner?, ih]
      | items => simp [SchemaStep.names, descend?, Schema.inner?, ih]
      | additional =>
          simp only [SchemaStep.names, List.cons_append, List.nil_append, descend?, Schema.inner?]
          cases (store.resolved s).additional <;> simp [ih]

theorem select?_location (store : SchemaStore) (place : SchemaPlace) :
    store.select? place.location = store.followed? place := by
  obtain ⟨_ | name, steps⟩ := place
  · have inner : store.select? (steps.flatMap SchemaStep.names) =
        store.descend? store.root (steps.flatMap SchemaStep.names) := by
      rcases steps with _ | ⟨_ | _ | _, rest⟩ <;> rfl
    exact inner.trans (descend?_names store store.root steps)
  · simp [SchemaPlace.location, select?, followed?, start?, descend?_names]

/-- What the location of a place leads to. -/
theorem lookup_location (store : SchemaStore) (plain : place.location.Plain) :
    store.lookup place.location.text =
      match store.followed? place with
      | some s => .ok ⟨store, s, place.location.text⟩
      | none => .error (.notFound place.location.text) := by
  have selected : store.select? (segments place.location.text) = store.followed? place := by
    rw [SchemaLocation.segments_text plain, select?_location]
  cases found : store.followed? place with
  | some s => simp only [lookup, selected, found, SchemaLocation.marked_text]
  | none => simp only [lookup, selected, found]

end SchemaStore

theorem Json.WellFormed.inner? (wellFormed : v.WellFormed) (written : v.inner? step = some w) :
    w.WellFormed := by
  unfold Json.inner? at written
  split at written
  next => cases written
  next => exact wellFormed.at? written

namespace Schema

/-- A part of a schema that is read from what is written. -/
abbrev PartRead (v : Json) (part : Option Schema) : Prop :=
  ∃ at_ inner, ofJson at_ v = .ok inner ∧ part = some inner

section

variable {written : Option Json} {part : Option Schema} {inner : Json → Option Json}
variable {next other : Schema → Option Schema}

/-- What is further inside is read if it is read inside whatever schema is read. -/
theorem ReadAs.bind (read : ReadAs PartRead none written part)
    (onward : ∀ v at_ s, written = some v → ofJson at_ v = .ok s →
      ReadAs PartRead none (inner v) (next s)) :
    ReadAs PartRead none (written.bind inner) (part.bind next) := by
  cases written with
  | none =>
      obtain rfl := read
      rfl
  | some v =>
      obtain ⟨at_, s, read, rfl⟩ := read
      exact onward v at_ s rfl read

theorem ReadAs.bind_congr (read : ReadAs PartRead none written part)
    (onward : ∀ v at_ s, written = some v → ofJson at_ v = .ok s → next s = other s) :
    part.bind next = part.bind other := by
  cases written with
  | none =>
      obtain rfl := read
      rfl
  | some v =>
      obtain ⟨at_, s, read, rfl⟩ := read
      exact onward v at_ s rfl read

end

/-- A schema under a name, if all that are listed under names are read from what is written. -/
theorem readAs_of_listed {written : Option Json} {listed : Keyed Schema}
    (read : ReadAs (fun v part => ∃ at_ entries, v = .object entries ∧
      ofProperties at_ entries = .ok part) [] written listed) (name : String) :
    ReadAs PartRead none (written.bind (·.at? [.field name])) (Keyed.get? name listed) := by
  cases written with
  | none =>
      obtain rfl := read
      rfl
  | some v =>
      obtain ⟨at_, entries, rfl, read⟩ := read
      rw [Option.bind_some, Json.at?_field]
      exact readAs_of_ofProperties read name

/-- What is written one step inside a schema is read as what stands there, and where nothing is
written nothing stands. -/
theorem inner?_of_ofJson (wellFormed : v.WellFormed) (read : ofJson at_ v = .ok s)
    (step : SchemaStep) : ReadAs PartRead none (v.inner? step) (s.inner? step) := by
  cases v with
  | object keywords =>
      have parts := readFrom_of_ofJson wellFormed.ordered.nodup read
      cases step with
      | property name => exact readAs_of_listed parts.properties name
      | items =>
          have items := parts.items
          simpa [Json.inner?, SchemaStep.names, Json.at?_field, inner?] using items
      | additional =>
          have additional := parts.additional
          simp only [Json.inner?, SchemaStep.names, List.map_cons, List.map_nil, Json.at?_field,
            inner?]
          generalize Keyed.get? "additionalProperties" keywords = written at additional
          generalize s.additional = extra at additional
          cases written with
          | none =>
              obtain rfl := additional
              rfl
          | some v =>
              cases additional with
              | allowed => rfl
              | forbidden => rfl
              | schema tree read =>
                  split
                  next b _ same => exact absurd (Option.some.inj same) (tree b)
                  next => exact ⟨_, _, read, rfl⟩
  | bool b =>
      cases b with
      | false => cases read
      | true =>
          obtain rfl : any = s := by
            rw [ofJson] at read
            exact Except.ok.inj read
          cases step <;> rfl
  | _ => cases read

/-- The schemas further inside come from what is written further inside. -/
theorem innerAlong_of_ofJson (wellFormed : v.WellFormed) (read : ofJson at_ v = .ok s)
    (steps : List SchemaStep) :
    ReadAs PartRead none (steps.foldlM Json.inner? v) (steps.foldlM inner? s) := by
  induction steps generalizing v s at_ with
  | nil => exact ⟨at_, s, read, rfl⟩
  | cons step steps ih =>
      rw [List.foldlM_cons, List.foldlM_cons]
      refine (inner?_of_ofJson wellFormed read step).bind fun w at_ t written readInner => ?_
      exact ih (wellFormed.inner? written) readInner

/-- A schema that is written without a reference has none. -/
theorem reference_of_ofJson (wellFormed : v.WellFormed) (read : ofJson at_ v = .ok s)
    (plain : v.at? [.field "$ref"] = none) : s.rules.reference = none := by
  cases v with
  | object keywords =>
      have reference := (readFrom_of_ofJson wellFormed.ordered.nodup read).reference
      rw [Json.at?_field] at plain
      rwa [plain] at reference
  | bool b =>
      cases b with
      | false => cases read
      | true =>
          rw [ofJson] at read
          obtain rfl := Except.ok.inj read
          rfl
  | _ => cases read

/-- Where no schema on the way refers to a definition, following references makes no difference. -/
theorem followedAlong_of_ofJson (wellFormed : v.WellFormed) (read : ofJson at_ v = .ok s)
    (straight : ∀ count < steps.length, ∀ holder,
      (steps.take count).foldlM Json.inner? v = some holder → holder.at? [.field "$ref"] = none) :
    steps.foldlM (fun s => (store.resolved s).inner?) s = steps.foldlM inner? s := by
  induction steps generalizing v s at_ with
  | nil => rfl
  | cons step steps ih =>
      have plain : v.at? [.field "$ref"] = none := straight 0 (Nat.succ_pos _) v rfl
      have itself : store.resolved s = s := by
        refine (SchemaStore.Stops.zero_iff.mpr ⟨rfl, ?_⟩).resolveWithin (Nat.zero_le _)
        simp [SchemaStore.next?, reference_of_ofJson wellFormed read plain]
      rw [List.foldlM_cons, List.foldlM_cons, itself]
      refine (inner?_of_ofJson wellFormed read step).bind_congr fun w at_ t written readInner => ?_
      refine ih (wellFormed.inner? written) readInner fun count inside holder reached => ?_
      refine straight (count + 1) (Nat.succ_lt_succ inside) holder ?_
      rw [List.take_succ_cons, List.foldlM_cons, written]
      exact reached

end Schema

namespace SchemaStore

theorem start?_of_ofJson (wellFormed : tree.WellFormed) (compiled : ofJson tree = .ok store)
    (place : SchemaPlace) :
    Schema.ReadAs Schema.PartRead none (place.start? tree) (store.start? place) := by
  cases tree with
  | object members =>
      obtain ⟨_ | name, steps⟩ := place
      · obtain ⟨-, root, -⟩ := ofJson_eq_ok_iff.mp compiled
        exact ⟨.root, store.root, by rwa [Schema.ofJson], rfl⟩
      · exact Schema.readAs_of_listed (readAs_of_ofJson compiled) name
  | _ => cases compiled

theorem wellFormed_start? (wellFormed : tree.WellFormed) (written : place.start? tree = some v) :
    v.WellFormed := by
  unfold SchemaPlace.start? at written
  split at written
  next => exact wellFormed.at? written
  next members _ =>
    cases written
    exact wellFormed.erase
  next => cases written

/-- What stands at a place of the text is compiled to what stands there in the store. -/
theorem compiled?_of_ofJson (wellFormed : tree.WellFormed) (compiled : ofJson tree = .ok store)
    (place : SchemaPlace) :
    Schema.ReadAs Schema.PartRead none (place.written? tree) (store.compiled? place) := by
  refine (start?_of_ofJson wellFormed compiled place).bind fun v at_ s written read => ?_
  exact Schema.innerAlong_of_ofJson (wellFormed_start? wellFormed written) read place.steps

theorem followed?_of_straight (wellFormed : tree.WellFormed) (compiled : ofJson tree = .ok store)
    (straight : place.Straight tree) : store.followed? place = store.compiled? place := by
  refine (start?_of_ofJson wellFormed compiled place).bind_congr fun v at_ s written read => ?_
  refine Schema.followedAlong_of_ofJson (wellFormed_start? wellFormed written) read
    fun count inside holder reached => straight count inside holder ?_
  have same : (place.upTo count).start? tree = some v := written
  rw [SchemaPlace.written?, same]
  exact reached

/-- The location of a place leads to what its steps lead to behind references. Every schema that is
written in the text of a store is compiled at its place, and its location leads there if no schema
on the way refers to a definition. -/
theorem written_schemas_are_found (compiled : ofText text = .ok store) :
    ∃ tree, Json.parse text = .ok tree ∧ ∀ place : SchemaPlace, place.location.Plain →
      (store.lookup place.location.text =
        match store.followed? place with
        | some s => .ok ⟨store, s, place.location.text⟩
        | none => .error (.notFound place.location.text)) ∧
      ∀ v, place.written? tree = some v →
        ∃ at_ s, Schema.ofJson at_ v = .ok s ∧ store.compiled? place = some s ∧
          (place.Straight tree →
            store.lookup place.location.text = .ok ⟨store, s, place.location.text⟩) := by
  unfold ofText at compiled
  split at compiled
  next tree parsed =>
    have wellFormed := Json.wellFormed_of_parse parsed
    refine ⟨tree, parsed, fun place plain => ⟨lookup_location store plain, fun v written => ?_⟩⟩
    have there := compiled?_of_ofJson wellFormed compiled place
    rw [written] at there
    obtain ⟨at_, s, read, found⟩ := there
    refine ⟨at_, s, read, found, fun straight => ?_⟩
    rw [lookup_location store plain, followed?_of_straight wellFormed compiled straight, found]
  next => cases compiled

/-- A definition with strings three steps inside, and a root that refers to it. -/
def insideText : String :=
  "\x7b\"$defs\": \x7b\"T\": \x7b\"properties\": \x7b\"a\": \x7b\"items\": "
    ++ "\x7b\"additionalProperties\": \x7b\"type\": \"string\"\x7d\x7d\x7d\x7d\x7d\x7d, "
    ++ "\"$ref\": \"#/$defs/T\"\x7d"

def insideTree : Json :=
  .object [("$defs", .object [("T", .object [("properties", .object [("a", .object [
      ("items", .object [("additionalProperties", .object [("type", .string "string")])])])])])]),
    ("$ref", .string "#/$defs/T")]

def insideStore : SchemaStore :=
  let elements := { Schema.any with additional := .schema AgentSchema.text }
  let list := { Schema.any with items := some elements }
  ⟨AgentSchema.definition "T", [("T", { Schema.any with properties := [("a", list)] })]⟩

def insidePlace : SchemaPlace := ⟨some "T", [.property "a", .items, .additional]⟩

theorem written_schemas_are_found_inside :
    ofText insideText = .ok insideStore ∧
      insidePlace.location.text = "#/$defs/T/properties/a/items/additionalProperties" ∧
      insideStore.lookup insidePlace.location.text =
        .ok ⟨insideStore, AgentSchema.text, insidePlace.location.text⟩ := by
  have parsed : Json.parse insideText = .ok insideTree :=
    Json.parse_chars (v := insideTree) (spelled_append (spelled_append rfl rfl) rfl) rfl
  have compiled : ofText insideText = .ok insideStore :=
    ofText_of_parse parsed ⟨_, rfl, rfl⟩ rfl rfl rfl
  have plain : insidePlace.location.Plain := by decide
  have straight : insidePlace.Straight insideTree := by
    intro count inside holder reached
    have short : insidePlace.steps.length = 3 := rfl
    rcases count with _ | _ | _ | count
    · cases reached
      rfl
    · cases reached
      rfl
    · cases reached
      rfl
    · omega
  obtain ⟨tree, parsed', found⟩ := written_schemas_are_found compiled
  cases parsed.symm.trans parsed'
  obtain ⟨-, found⟩ := found insidePlace plain
  obtain ⟨at_, s, -, there, found⟩ := found _ rfl
  cases there
  exact ⟨compiled, by decide, found straight⟩

/-- A root that says something of a member beside a reference to a definition that does not. -/
def besideText : String :=
  "\x7b\"$defs\": \x7b\"T\": \x7b\"type\": \"object\"\x7d\x7d, \"$ref\": \"#/$defs/T\", "
    ++ "\"properties\": \x7b\"a\": \x7b\"type\": \"string\"\x7d\x7d\x7d"

def besideTree : Json :=
  .object [("$defs", .object [("T", .object [("type", .string "object")])]),
    ("$ref", .string "#/$defs/T"),
    ("properties", .object [("a", .object [("type", .string "string")])])]

def besideStore : SchemaStore :=
  ⟨{ AgentSchema.definition "T" with properties := [("a", AgentSchema.text)] },
    [("T", AgentSchema.tree)]⟩

def besidePlace : SchemaPlace := ⟨none, [.property "a"]⟩

/-- The member is checked, but the location of its schema leads nowhere. -/
theorem reference_hides_property :
    ofText besideText = .ok besideStore ∧ Json.parse besideText = .ok besideTree ∧
      besidePlace.location.Plain ∧ besidePlace.location.text = "#/properties/a" ∧
      besidePlace.written? besideTree = some (.object [("type", .string "string")]) ∧
      besideStore.compiled? besidePlace = some AgentSchema.text ∧
      besideStore.lookup "#/properties/a" = .error (.notFound "#/properties/a") ∧
      SubSchema.violations ⟨besideStore, besideStore.root, "#"⟩ (.object [("a", .null)]) =
        [⟨[.field "a"], .typeMismatch, "expected string, found null"⟩] := by
  have parsed : Json.parse besideText = .ok besideTree :=
    Json.parse_chars (v := besideTree) (spelled_append rfl rfl) rfl
  have compiled : ofText besideText = .ok besideStore :=
    ofText_of_parse parsed ⟨_, rfl, rfl⟩ rfl rfl rfl
  exact ⟨compiled, parsed, by decide, by decide, rfl, rfl, rfl, rfl⟩

end SchemaStore

end AgentManifest
