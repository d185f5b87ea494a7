import Mathlib.Algebra.Order.Field.Rat
import AgentManifest.Json.Basic
import AgentManifest.Schema.Basic

/-! The meaning that draft 2020-12 of JSON Schema gives to keywords, said of schemas as they are
written. A number counts by its value, however it is written, so that an integer is a number without
a fractional part; what counts as an integer is left open here, since there are readers that go by
how a number is stored. -/

namespace AgentManifest

/-- The number that a binary64 number stands for. -/
def Binary64.value (x : Binary64) : ℚ :=
  (if x.negative then -1 else 1) * (x.magnitude.1 / x.magnitude.2)

namespace Number

def value : Number → ℚ
  | .integer i => i
  | .float x => x.value

/-- A number without a fractional part. -/
def Whole (n : Number) : Prop := ∃ i : ℤ, n.value = i

/-- A number that is stored as an integer. -/
def StoredWhole (n : Number) : Prop := ∃ i : ℤ, n = .integer i

theorem StoredWhole.whole {n : Number} (stored : n.StoredWhole) : n.Whole := by
  obtain ⟨i, rfl⟩ := stored
  exact ⟨i, rfl⟩

end Number

/-- Every number of a tree has a property. -/
inductive Json.EachNumber (p : Number → Prop) : Json → Prop where
  | null : EachNumber p .null
  | bool (b : Bool) : EachNumber p (.bool b)
  | number {n : Number} (holds : p n) : EachNumber p (.number n)
  | string (s : String) : EachNumber p (.string s)
  | array {elements : List Json} (each : ∀ element ∈ elements, EachNumber p element) :
      EachNumber p (.array elements)
  | object {members : Members} (each : ∀ member ∈ members, EachNumber p member.2) :
      EachNumber p (.object members)

namespace Json.EachNumber

variable {p : Number → Prop}

mutual

/-- What holds of all numbers holds of those of a tree. -/
theorem of_forall (all : ∀ n, p n) : (v : Json) → v.EachNumber p
  | .null => .null
  | .bool b => .bool b
  | .number n => .number (all n)
  | .string s => .string s
  | .array elements => .array (elements_of_forall all elements)
  | .object members => .object (members_of_forall all members)

theorem elements_of_forall (all : ∀ n, p n) : (elements : List Json) →
    ∀ element ∈ elements, element.EachNumber p
  | [] => by simp
  | v :: rest => List.forall_mem_cons.mpr ⟨of_forall all v, elements_of_forall all rest⟩

theorem members_of_forall (all : ∀ n, p n) : (members : List (String × Json)) →
    ∀ member ∈ members, member.2.EachNumber p
  | [] => by simp
  | (_, v) :: rest => List.forall_mem_cons.mpr ⟨of_forall all v, members_of_forall all rest⟩

end

end Json.EachNumber

namespace Draft

/-- Values that are the same data: numbers of one value, and objects with the same members in
whatever order. -/
inductive Equal : Json → Json → Prop where
  | null : Equal .null .null
  | bool (b : Bool) : Equal (.bool b) (.bool b)
  | number {m n : Number} (same : m.value = n.value) : Equal (.number m) (.number n)
  | string (s : String) : Equal (.string s) (.string s)
  | array {elements others : List Json} (size : elements.length = others.length)
      (each : ∀ (i : Nat) (a b : Json), elements[i]? = some a → others[i]? = some b → Equal a b) :
      Equal (.array elements) (.array others)
  | object {members others : Members} (names : (members.map (·.1)).Perm (others.map (·.1)))
      (each : ∀ key a b, (key, a) ∈ members → (key, b) ∈ others → Equal a b) :
      Equal (.object members) (.object others)

/-- Whether a value is of a type, for what counts as an integer. -/
def HasType (whole : Number → Prop) : String → Json → Prop
  | "null", .null => True
  | "boolean", .bool _ => True
  | "object", .object _ => True
  | "array", .array _ => True
  | "number", .number _ => True
  | "string", .string _ => True
  | "integer", .number n => whole n
  | _, _ => False

def text? : Json → Option String
  | .string s => some s
  | _ => none

/-- The types that a keyword names, one or several. -/
def typeNames : Json → List String
  | .string name => [name]
  | .array names => names.filterMap text?
  | _ => []

/-- What keywords ask of a value itself. -/
structure Own (whole : Number → Prop) (keywords : Members) (v : Json) : Prop where
  type : ∀ t, Keyed.get? "type" keywords = some t → ∃ name ∈ typeNames t, HasType whole name v
  enum : ∀ values, Keyed.get? "enum" keywords = some (.array values) → ∃ w ∈ values, Equal w v
  const : ∀ w, Keyed.get? "const" keywords = some w → Equal w v
  minLength : ∀ n, Keyed.get? "minLength" keywords = some (.number n) →
    ∀ content, v = .string content → n.value ≤ content.length
  maxLength : ∀ n, Keyed.get? "maxLength" keywords = some (.number n) →
    ∀ content, v = .string content → content.length ≤ n.value
  minimum : ∀ n, Keyed.get? "minimum" keywords = some (.number n) →
    ∀ m, v = .number m → n.value ≤ m.value
  maximum : ∀ n, Keyed.get? "maximum" keywords = some (.number n) →
    ∀ m, v = .number m → m.value ≤ n.value
  minItems : ∀ n, Keyed.get? "minItems" keywords = some (.number n) →
    ∀ elements, v = .array elements → n.value ≤ elements.length
  maxItems : ∀ n, Keyed.get? "maxItems" keywords = some (.number n) →
    ∀ elements, v = .array elements → elements.length ≤ n.value
  required : ∀ names, Keyed.get? "required" keywords = some (.array names) →
    ∀ members, v = .object members → ∀ name, .string name ∈ names →
      ∃ member, (name, member) ∈ members

/-- The schema under a name in the definitions of a document. -/
def definition? (document : Json) (name : String) : Option Json :=
  match document with
  | .object members =>
    match Keyed.get? "$defs" members with
    | some (.object definitions) => Keyed.get? name definitions
    | _ => none
  | _ => none

/-- The names of the members that keywords list. -/
def listedNames (keywords : Members) : List String :=
  match Keyed.get? "properties" keywords with
  | some (.object listed) => Keyed.keys listed
  | _ => []

/-- What keywords ask of a value, if `R` tells which values meet which schemas. -/
structure Asks (whole : Number → Prop) (document : Json) (R : Json → Json → Prop)
    (keywords : Members) (v : Json) : Prop where
  own : Own whole keywords v
  reference : ∀ name, Keyed.get? "$ref" keywords = some (.string ("#/$defs/" ++ name)) →
    ∃ s, definition? document name = some s ∧ R s v
  items : ∀ s, Keyed.get? "items" keywords = some s → ∀ elements, v = .array elements →
    ∀ element ∈ elements, R s element
  properties : ∀ listed, Keyed.get? "properties" keywords = some (.object listed) →
    ∀ members, v = .object members → ∀ key member, (key, member) ∈ members →
      ∀ s, Keyed.get? key listed = some s → R s member
  additional : ∀ s, Keyed.get? "additionalProperties" keywords = some s →
    ∀ members, v = .object members → ∀ key member, (key, member) ∈ members →
      key ∉ listedNames keywords → R s member

/-- What a schema asks of a value. Two schemas are no objects: the one that all values meet and the
one that none does. -/
def Meets (whole : Number → Prop) (document : Json) (R : Json → Json → Prop) :
    Json → Json → Prop
  | .bool b, _ => b = true
  | .object keywords, v => Asks whole document R keywords v
  | _, _ => False

/-- A value is valid for a schema of a document if some relation of schemas and values, which never
holds unless all that is asked holds, holds of the two. -/
def Valid (whole : Number → Prop) (document s v : Json) : Prop :=
  ∃ R : Json → Json → Prop, (∀ s v, R s v → Meets whole document R s v) ∧ R s v

variable {whole whole' : Number → Prop} {document s v : Json} {R R' : Json → Json → Prop}
variable {keywords : Members}

theorem Asks.mono (weaker : ∀ s v, R s v → R' s v) (asked : Asks whole document R keywords v) :
    Asks whole document R' keywords v where
  own := asked.own
  reference name given := by
    obtain ⟨s, found, met⟩ := asked.reference name given
    exact ⟨s, found, weaker s v met⟩
  items s given elements same element inside :=
    weaker s element (asked.items s given elements same element inside)
  properties listed given members same key member inside s found :=
    weaker s member (asked.properties listed given members same key member inside s found)
  additional s given members same key member inside unlisted :=
    weaker s member (asked.additional s given members same key member inside unlisted)

theorem Meets.mono (weaker : ∀ s v, R s v → R' s v) (met : Meets whole document R s v) :
    Meets whole document R' s v := by
  cases s with
  | bool b => exact met
  | object keywords => exact Asks.mono weaker met
  | _ => exact met

theorem Valid.meets (valid : Valid whole document s v) :
    Meets whole document (Valid whole document) s v := by
  obtain ⟨R, kept, holds⟩ := valid
  exact (kept s v holds).mono fun s v holds => ⟨R, kept, holds⟩

theorem valid_of_meets (met : Meets whole document (Valid whole document) s v) :
    Valid whole document s v :=
  ⟨Meets whole document (Valid whole document), fun _ _ met => met.mono fun _ _ => Valid.meets, met⟩

theorem HasType.mono {name : String} (fewer : v.EachNumber fun n => whole n → whole' n)
    (typed : HasType whole name v) : HasType whole' name v := by
  unfold HasType at typed
  split at typed
  case h_7 =>
    cases fewer with
    | number counts => exact counts typed
  case h_8 => cases typed
  all_goals trivial

theorem Own.mono (fewer : v.EachNumber fun n => whole n → whole' n)
    (own : Own whole keywords v) : Own whole' keywords v where
  type t given := by
    obtain ⟨name, listed, typed⟩ := own.type t given
    exact ⟨name, listed, typed.mono fewer⟩
  enum := own.enum
  const := own.const
  minLength := own.minLength
  maxLength := own.maxLength
  minimum := own.minimum
  maximum := own.maximum
  minItems := own.minItems
  maxItems := own.maxItems
  required := own.required

/-- A value is valid all the more if all of its numbers that count as integers still do. -/
theorem Valid.mono (fewer : v.EachNumber fun n => whole n → whole' n)
    (valid : Valid whole document s v) : Valid whole' document s v := by
  refine ⟨fun s v => (v.EachNumber fun n => whole n → whole' n) ∧ Valid whole document s v,
    fun s v holds => ?_, fewer, valid⟩
  obtain ⟨fewer, valid⟩ := holds
  have met := valid.meets
  cases s with
  | bool b => exact met
  | object keywords =>
      refine ⟨met.own.mono fewer, ?_, ?_, ?_, ?_⟩
      · intro name given
        obtain ⟨s, found, valid⟩ := met.reference name given
        exact ⟨s, found, fewer, valid⟩
      · rintro s given elements rfl element inside
        cases fewer with
        | array each => exact ⟨each element inside, met.items s given elements rfl element inside⟩
      · rintro listed given members rfl key member inside s found
        cases fewer with
        | object each =>
            exact ⟨each _ inside, met.properties listed given members rfl key member inside s found⟩
      · rintro s given members rfl key member inside unlisted
        cases fewer with
        | object each =>
            exact ⟨each _ inside, met.additional s given members rfl key member inside unlisted⟩
  | _ => exact met

end Draft
end AgentManifest
