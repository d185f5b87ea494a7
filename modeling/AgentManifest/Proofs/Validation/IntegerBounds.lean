import AgentManifest.Proofs.Decimal.Integers
import AgentManifest.Proofs.Json.Reading
import AgentManifest.Proofs.Schema.Compiled
import AgentManifest.Proofs.Validation.Reports

/-! Integers and the bounds of schemas. A check comes to the values inside a tree one by one, each
with a schema to ask of it, and what it reports about sizes is what these schemas ask. Bounds are
binary64 numbers and a value is rounded before it is compared, so of integers and integer bounds no
other breach is reported than that of the bound as it is written, and every such breach is reported
in which the two are not rounded to one number. -/

namespace AgentManifest
namespace SchemaStore

variable {store : SchemaStore} {s : Schema} {lead : FieldPath} {v : Json} {w : Violation}

/-- A check of a value against a schema comes to a value inside it, at a place, and asks a schema of
that. -/
inductive Visits (store : SchemaStore) : Schema → Json → FieldPath → Schema → Json → Prop where
  | own {s t : Schema} {v : Json} (leads : store.Leads s t) : Visits store s v [] t v
  | element {s t inner r : Schema} {elements : List Json} {i : Nat} {v u : Json} {p : FieldPath}
      (leads : store.Leads s t) (admitted : t.rules.admits (.array elements) = true)
      (given : elements[i]? = some v) (items : t.items = some inner)
      (deeper : Visits store inner v p r u) : Visits store s (.array elements) (.index i :: p) r u
  | member {s t inner r : Schema} {members : Members} {key : String} {v u : Json} {p : FieldPath}
      (leads : store.Leads s t) (admitted : t.rules.admits (.object members) = true)
      (inside : (key, v) ∈ members) (rule : t.memberRule key = .schema inner)
      (deeper : Visits store inner v p r u) : Visits store s (.object members) (.field key :: p) r u

/-- What is reported to be out of range was visited and breaks a rule of the schema that was asked,
and whatever breaks one is reported. -/
theorem outOfRange_mem_findings (kind : w.kind = .outOfRange) :
    .violation w ∈ store.findings s lead v ↔
      ∃ p t u, store.Visits s v p t u ∧ ∃ b ∈ t.rules.breaches u, w = .ofBreach (lead ++ p) b := by
  induction v using Json.induction_on_parts generalizing s lead with
  | step v ih =>
      constructor
      · intro reported
        obtain ⟨t, leads, reported⟩ := violation_mem_findings.mp reported
        rcases mem_keywordReport.mp reported with ⟨b, broken, same⟩ | ⟨admitted, inner⟩
        · cases same
          exact ⟨[], t, v, .own leads, b, broken, by rw [List.append_nil]⟩
        cases v with
        | array elements =>
            obtain ⟨items, asked, i, element, given, found⟩ := mem_innerReport_array.mp inner
            have part := Json.Part.element (List.mem_of_getElem? given)
            obtain ⟨p, r, u, visited, b, broken, rfl⟩ := (ih element part).mp found
            exact ⟨.index i :: p, r, u, .element leads admitted given asked visited, b, broken,
              by simp [FieldPath.index]⟩
        | object members =>
            rcases mem_innerReport_object.mp inner with ⟨name, -, same⟩ | ⟨⟨key, v⟩, inside, found⟩
            · cases same
              cases kind
            rw [memberReport] at found
            split at found
            next => cases found
            next =>
              cases List.mem_singleton.mp found
              cases kind
            next t' rule =>
              obtain ⟨p, r, u, visited, b, broken, rfl⟩ := (ih v (.member inside)).mp found
              exact ⟨.field key :: p, r, u, .member leads admitted inside rule visited, b, broken,
                by simp [FieldPath.field]⟩
        | null | bool _ | number _ | string _ => cases inner
      · rintro ⟨p, r, u, visited, b, broken, rfl⟩
        cases visited with
        | own leads =>
            refine violation_mem_findings.mpr ⟨r, leads, mem_keywordReport.mpr (.inl ⟨b, broken, ?_⟩)⟩
            rw [List.append_nil]
        | @element _ t inner _ elements i v _ p leads admitted given items deeper =>
            refine violation_mem_findings.mpr ⟨t, leads, mem_keywordReport.mpr (.inr ⟨admitted, ?_⟩)⟩
            refine mem_innerReport_array.mpr ⟨inner, items, i, v, given, ?_⟩
            exact (ih v (.element (List.mem_of_getElem? given))).mpr
              ⟨p, r, u, deeper, b, broken, by simp [FieldPath.index]⟩
        | @member _ t inner _ members key v _ p leads admitted inside rule deeper =>
            refine violation_mem_findings.mpr ⟨t, leads, mem_keywordReport.mpr (.inr ⟨admitted, ?_⟩)⟩
            refine mem_innerReport_object.mpr (.inr ⟨(key, v), inside, ?_⟩)
            simp only [memberReport, rule]
            exact (ih v (.member inside)).mpr
              ⟨p, r, u, deeper, b, broken, by simp [FieldPath.field]⟩

end SchemaStore

namespace Rules

variable {r : Rules} {v : Json} {m : Number} {bound found : Binary64}

/-- What a value of a right type breaks that is out of range, it breaks by its size. -/
theorem mem_breaches_iff_of_outOfRange {b : Breach} (kind : b.kind = .outOfRange) :
    b ∈ r.breaches v ↔ r.admits v = true ∧ b ∈ r.sizeBreaches v := by
  have listing : b ∉ if r.lists v then [] else [.notListed (r.allowed.getD []) v] := by
    split
    next => simp
    next =>
      rintro inside
      cases List.mem_singleton.mp inside
      cases kind
  rw [breaches]
  split
  next admitted => rw [List.mem_append, or_iff_right listing, and_iff_right admitted]
  next refused =>
    refine iff_of_false (fun inside => ?_) (fun inside => refused inside.1)
    cases List.mem_singleton.mp inside
    cases kind

/-- Only numbers are out of range. -/
theorem exists_number_of_outOfRange {b : Breach} (kind : b.kind = .outOfRange)
    (broken : b ∈ r.breaches v) : ∃ m, v = .number m := by
  obtain ⟨-, size⟩ := (mem_breaches_iff_of_outOfRange kind).mp broken
  cases v with
  | number m => exact ⟨m, rfl⟩
  | string _ | array _ =>
      simp only [sizeBreaches, List.mem_append, List.mem_map] at size
      rcases size with ⟨_, -, rfl⟩ | ⟨_, -, rfl⟩ <;> cases kind
  | null | bool _ | object _ => cases size

theorem below_mem_breaches_iff (admitted : r.admits (.number m) = true) :
    .below bound found ∈ r.breaches (.number m) ↔
      r.minimum = some bound ∧ found = m.toBinary64 ∧ found.lt bound = true := by
  rw [mem_breaches_iff_of_outOfRange rfl, and_iff_right admitted]
  simp only [sizeBreaches, List.mem_append, List.mem_map, Option.mem_toList, Option.filter_eq_some_iff]
  constructor
  · rintro (⟨least, ⟨given, less⟩, same⟩ | ⟨most, -, same⟩)
    · cases same
      exact ⟨given, rfl, less⟩
    · cases same
  · rintro ⟨given, rfl, less⟩
    exact .inl ⟨bound, ⟨given, less⟩, rfl⟩

theorem above_mem_breaches_iff (admitted : r.admits (.number m) = true) :
    .above bound found ∈ r.breaches (.number m) ↔
      r.maximum = some bound ∧ found = m.toBinary64 ∧ bound.lt found = true := by
  rw [mem_breaches_iff_of_outOfRange rfl, and_iff_right admitted]
  simp only [sizeBreaches, List.mem_append, List.mem_map, Option.mem_toList, Option.filter_eq_some_iff]
  constructor
  · rintro (⟨least, -, same⟩ | ⟨most, ⟨given, less⟩, same⟩)
    · cases same
    · cases same
      exact ⟨given, rfl, less⟩
  · rintro ⟨given, rfl, less⟩
    exact .inr ⟨bound, ⟨given, less⟩, rfl⟩

end Rules

theorem Json.fits_of_get? {keywords : Members} {key : String} {i : Int}
    (wellFormed : (Json.object keywords).WellFormed)
    (given : Keyed.get? key keywords = some (.number (.integer i))) : Number.fits i = true := by
  cases wellFormed.member given with
  | number stored => exact stored

namespace SubSchema

variable {sub : SubSchema} {v : Json} {at_ : SchemaLocation} {t : Schema} {keywords : Members}
variable {place : FieldPath} {n : Int} {w : Violation}

theorem mem_violations : w ∈ sub.violations v ↔ .violation w ∈ sub.findings v := by
  rw [violations, List.mem_filterMap]
  constructor
  · rintro ⟨_ | _, found, same⟩
    · cases same
      exact found
    · cases same
  · intro found
    exact ⟨_, found, rfl⟩

theorem outOfRange_mem_violations : w ∈ sub.violations v ∧ w.kind = .outOfRange ↔
    ∃ p r m b, sub.store.Visits sub.schema v p r (.number m) ∧
      b ∈ r.rules.breaches (.number m) ∧ b.kind = .outOfRange ∧ w = .ofBreach p b := by
  rw [mem_violations, and_comm]
  constructor
  · rintro ⟨kind, found⟩
    obtain ⟨p, r, u, visited, b, broken, rfl⟩ :=
      (SchemaStore.outOfRange_mem_findings kind).mp found
    obtain ⟨m, rfl⟩ := Rules.exists_number_of_outOfRange kind broken
    exact ⟨p, r, m, b, visited, broken, kind, rfl⟩
  · rintro ⟨p, r, m, b, visited, broken, kind, rfl⟩
    exact ⟨kind, (SchemaStore.outOfRange_mem_findings kind).mpr
      ⟨p, r, .number m, visited, b, broken, rfl⟩⟩

/-- An integer that a check comes to is reported to be below an integer bound, or above one, only if
it is, and unless it is rounded to the same number as the bound, which takes two integers beyond
2 ^ 53 that are at most 2048 apart. -/
theorem integer_bounds_report (wellFormed : (Json.object keywords).WellFormed)
    (compiled : Schema.ofJson at_ (.object keywords) = .ok t)
    (visited : sub.store.Visits sub.schema v place t (.number (.integer n)))
    (admitted : t.rules.admits (.number (.integer n)) = true) (stored : Number.fits n = true) :
    (∀ least, Keyed.get? "minimum" keywords = some (.number (.integer least)) →
      ((∃ bound found, .below bound found ∈ t.rules.breaches (.number (.integer n)) ∧
          .ofBreach place (.below bound found) ∈ sub.violations v) ↔
        n < least ∧ ¬ Number.RoundTogether n least)) ∧
    (∀ most, Keyed.get? "maximum" keywords = some (.number (.integer most)) →
      ((∃ bound found, .above bound found ∈ t.rules.breaches (.number (.integer n)) ∧
          .ofBreach place (.above bound found) ∈ sub.violations v) ↔
        most < n ∧ ¬ Number.RoundTogether most n)) ∧
    (∀ w, w ∈ sub.violations v ∧ w.kind = .outOfRange ↔ ∃ p r m b,
      sub.store.Visits sub.schema v p r (.number m) ∧ b ∈ r.rules.breaches (.number m) ∧
        b.kind = .outOfRange ∧ w = .ofBreach p b) ∧
    ∀ i j, Number.fits i = true → Number.fits j = true → i < j → Number.RoundTogether i j →
      (2 ^ 53 ≤ i ∨ j ≤ -2 ^ 53) ∧ j ≤ i + 2048 := by
  have read := Schema.readFrom_of_ofJson (Json.wellFormed_object_iff.mp wellFormed).1.nodup compiled
  have reported : ∀ {b : Breach}, b.kind = .outOfRange →
      b ∈ t.rules.breaches (.number (.integer n)) → .ofBreach place b ∈ sub.violations v :=
    fun kind broken =>
      (outOfRange_mem_violations.mpr ⟨place, t, _, _, visited, broken, kind, rfl⟩).1
  refine ⟨fun least given => ?_, fun most given => ?_, fun w => outOfRange_mem_violations, ?_⟩
  · have storedLeast := Json.fits_of_get? wellFormed given
    obtain ⟨x, readX, minimum⟩ := given ▸ read.minimum
    cases readX
    rw [← Number.lt_toBinary64_iff stored storedLeast]
    constructor
    · rintro ⟨bound, found, broken, -⟩
      obtain ⟨given, rfl, less⟩ := (Rules.below_mem_breaches_iff admitted).mp broken
      cases minimum.symm.trans given
      exact less
    · intro less
      have broken := (Rules.below_mem_breaches_iff admitted).mpr ⟨minimum, rfl, less⟩
      exact ⟨_, _, broken, reported rfl broken⟩
  · have storedMost := Json.fits_of_get? wellFormed given
    obtain ⟨x, readX, maximum⟩ := given ▸ read.maximum
    cases readX
    rw [← Number.lt_toBinary64_iff storedMost stored]
    constructor
    · rintro ⟨bound, found, broken, -⟩
      obtain ⟨given, rfl, less⟩ := (Rules.above_mem_breaches_iff admitted).mp broken
      cases maximum.symm.trans given
      exact less
    · intro less
      have broken := (Rules.above_mem_breaches_iff admitted).mpr ⟨maximum, rfl, less⟩
      exact ⟨_, _, broken, reported rfl broken⟩
  · intro i j storedI storedJ less together
    exact together.close storedI storedJ less

/-- An integer with a least value that no binary64 number equals. -/
def oddText : String := "\x7b\"minimum\": 9007199254740993, \"type\": \"integer\"\x7d"

def oddKeywords : Members :=
  [("minimum", .number (.integer 9007199254740993)), ("type", .string "integer")]

def oddSchema : Schema :=
  { Schema.any with
    rules := {
      types := some [.integer]
      minimum := some (Number.integer 9007199254740993).toBinary64 } }

def oddStore : SchemaStore := ⟨oddSchema, []⟩

/-- The same integers, in a list. -/
def oddList : SubSchema := ⟨oddStore, { Schema.any with items := some oddSchema }, "#"⟩

theorem integer_bounds_report_list :
    oddList.store.Visits oddList.schema (.array [.number (.integer 9007199254740990)]) [.index 0]
      oddSchema (.number (.integer 9007199254740990)) ∧
    ∃ bound found, .ofBreach [.index 0] (.below bound found) ∈
      oddList.violations (.array [.number (.integer 9007199254740990)]) := by
  have wellFormed : (Json.object oddKeywords).WellFormed := by
    simp only [oddKeywords, Json.wellFormed_object_iff, Keyed.ordered_cons, List.forall_mem_cons,
      List.not_mem_nil, false_implies, implies_true, Keyed.ordered_nil, Json.WellFormed.string,
      and_true]
    exact ⟨by decide, .number rfl⟩
  have compiled : Schema.ofJson [] (.object oddKeywords) = .ok oddSchema := rfl
  have visited : oddList.store.Visits oddList.schema
      (.array [.number (.integer 9007199254740990)]) [.index 0] oddSchema
      (.number (.integer 9007199254740990)) :=
    .element (SchemaStore.leads_refl _) rfl rfl rfl (.own (SchemaStore.leads_refl _))
  obtain ⟨least, -⟩ := integer_bounds_report wellFormed compiled visited rfl rfl
  obtain ⟨bound, found, -, reported⟩ := (least _ rfl).mpr ⟨by decide, by decide⟩
  exact ⟨visited, bound, found, reported⟩

/-- One less than the least value is accepted. -/
theorem rounded_bound_admits_less :
    SchemaStore.ofText oddText = .ok oddStore ∧ oddStore.lookup "#" = .ok ⟨oddStore, oddSchema, "#"⟩ ∧
      Keyed.get? "minimum" oddKeywords = some (.number (.integer 9007199254740993)) ∧
      oddSchema.rules.admits (.number (.integer 9007199254740992)) = true ∧
      (9007199254740992 : Int) < 9007199254740993 ∧
      SubSchema.violations ⟨oddStore, oddSchema, "#"⟩ (.number (.integer 9007199254740992)) = [] := by
  have parsed : Json.parse oddText = .ok (.object oddKeywords) :=
    Json.parse_chars (v := .object oddKeywords) rfl rfl
  have compiled : SchemaStore.ofText oddText = .ok oddStore := by
    rw [SchemaStore.ofText, parsed]
    rfl
  exact ⟨compiled, rfl, rfl, rfl, by decide, by decide⟩

end SubSchema
end AgentManifest
