import AgentManifest.Proofs.Outcome
import AgentManifest.Schema.Document

/-! The values that keywords of schemas can have: which value each reading of one accepts, and as
what, and what it tells of the others. -/

namespace AgentManifest
namespace Schema

variable {v : Json} {values : List Json} {names : List String} {name : String}

theorem names?_eq_some_iff : names? values = some names ↔ values = names.map .string := by
  induction values generalizing names with
  | nil => cases names <;> simp [names?]
  | cons first rest ih =>
      cases first with
      | string s =>
          rw [names?, Option.map_eq_some_iff]
          constructor
          · rintro ⟨others, read, rfl⟩
            rw [ih.mp read, List.map_cons]
          · intro same
            obtain ⟨s', others, rfl, head, rfl⟩ := List.map_eq_cons_iff.mp same.symm
            cases head
            exact ⟨others, ih.mpr rfl, rfl⟩
      | _ => cases names <;> simp [names?]

/-- The names of the types that a schema can ask for. -/
def typeNames : List String :=
  ["object", "array", "string", "integer", "number", "boolean", "null"]

theorem isSome_ofName?_iff : (JsonType.ofName? name).isSome = true ↔ name ∈ typeNames := by
  constructor
  · intro known
    unfold JsonType.ofName? at known
    split at known
    case h_8 => cases known
    all_goals simp [typeNames]
  · intro listed
    simp only [typeNames, List.mem_cons, List.not_mem_nil, or_false] at listed
    rcases listed with rfl | rfl | rfl | rfl | rfl | rfl | rfl <;> rfl

theorem exists_typesNamed_iff :
    (∃ ts, typesNamed names = .ok ts) ↔ ∀ name ∈ names, name ∈ typeNames := by
  induction names with
  | nil => simp [typesNamed]
  | cons name rest ih =>
      rw [List.forall_mem_cons, ← ih, ← isSome_ofName?_iff, typesNamed]
      cases JsonType.ofName? name with
      | none => simp
      | some t =>
          simp only [bind_eq_ok, pure_eq_ok, Except.ok.injEq, Option.isSome_some, true_and]
          constructor
          · rintro ⟨_, ts, read, -⟩
            exact ⟨ts, read⟩
          · rintro ⟨ts, read⟩
            exact ⟨_, ts, read, rfl⟩

/-- A type is asked for by its name, or several are by a list of names. -/
theorem exists_types_iff : (∃ ts, types v = .ok ts) ↔
    (∃ name ∈ typeNames, v = .string name) ∨
      ∃ names : List String, names ≠ [] ∧ (∀ name ∈ names, name ∈ typeNames) ∧
        v = .array (names.map .string) := by
  unfold types
  split
  next name => simp [exists_typesNamed_iff]
  next first rest =>
    cases read : names? (first :: rest) with
    | none =>
        have unread (names : List String) : first :: rest ≠ names.map .string := fun same => by
          rw [names?_eq_some_iff.mpr same] at read
          cases read
        simp [unread]
    | some names =>
        have same := names?_eq_some_iff.mp read
        have filled : names ≠ [] := by
          rintro rfl
          cases same
        simp only [same, exists_typesNamed_iff]
        constructor
        · exact fun known => .inr ⟨names, filled, known, rfl⟩
        · rintro (⟨name, -, other⟩ | ⟨names', -, known, again⟩)
          · cases other
          · have written : names.map Json.string = names'.map .string := Json.array.inj again
            rwa [(List.map_inj_right fun _ _ => Json.string.inj).mp written]
  next other notName notList =>
    simp only [reduceCtorEq, exists_false, false_iff, not_or, not_exists, not_and]
    refine ⟨fun name _ => notName name, fun names filled _ same => ?_⟩
    obtain ⟨name, rest, rfl⟩ := List.exists_cons_of_ne_nil filled
    exact notList _ _ same

theorem count_eq_ok_iff {n : Nat} : count v = .ok n ↔ v = Json.ofNat n := by
  constructor
  · intro read
    unfold count at read
    split at read
    next m =>
      split at read
      next k counted =>
        cases read
        cases m with
        | integer i =>
            simp only [Number.toNat?] at counted
            split at counted
            next positive =>
              cases counted
              rw [Json.ofNat, Int.toNat_of_nonneg positive]
            next => cases counted
        | float x => cases counted
      next => cases read
    next => cases read
  · rintro rfl
    simp [count, Json.ofNat, Number.toNat?]

theorem exists_bound_iff : (∃ x, bound v = .ok x) ↔ ∃ n, v = .number n := by
  cases v <;> simp [bound]

theorem requiredNames_eq_ok_iff : requiredNames v = .ok names ↔ v = .array (names.map .string) := by
  cases v with
  | array values =>
      rw [Json.array.injEq, ← names?_eq_some_iff, requiredNames]
      cases names? values <;> simp
  | _ => simp [requiredNames]

theorem enumerated_eq_ok_iff : enumerated v = .ok values ↔ values ≠ [] ∧ v = .array values := by
  unfold enumerated
  split
  next first rest =>
    rw [Except.ok.injEq, Json.array.injEq]
    exact ⟨fun same => ⟨by simp [← same], same⟩, And.right⟩
  next other =>
    simp only [reduceCtorEq, false_iff, not_and]
    intro filled same
    obtain ⟨first, rest, rfl⟩ := List.exists_cons_of_ne_nil filled
    exact other _ _ same

/-- A reference is written behind the path of the definitions, and names one of them. -/
theorem referenceTarget?_eq_some_iff : referenceTarget? v = some name ↔
    (name ≠ "" ∧ '/' ∉ name.toList) ∧ v = .string ("#/$defs/" ++ name) := by
  constructor
  · intro read
    unfold referenceTarget? at read
    split at read
    next s =>
      split at read
      next target text =>
        split at read
        next => cases read
        next named =>
          cases read
          simp only [Bool.or_eq_true, decide_eq_true_iff, not_or] at named
          refine ⟨⟨?_, by simpa using named.2⟩, ?_⟩
          · simpa [String.ext_iff] using named.1
          · congr 1
            exact String.toList_inj.mp (by simp [text])
      next => cases read
    next => cases read
  · rintro ⟨⟨filled, whole⟩, rfl⟩
    have letters : name.toList ≠ [] := by simpa using filled
    simp [referenceTarget?, letters, whole]

variable {fault : SchemaFault}

theorem names?_eq_none (unread : names? values = none) :
    ∃ value ∈ values, ∀ name, value ≠ .string name := by
  induction values with
  | nil => cases unread
  | cons first rest ih =>
      cases first with
      | string s =>
          rw [names?, Option.map_eq_none_iff] at unread
          obtain ⟨value, inside, unfit⟩ := ih unread
          exact ⟨value, List.mem_cons_of_mem _ inside, unfit⟩
      | _ => exact ⟨_, List.mem_cons_self, by simp⟩

/-- The first name of no type is the one that is told. -/
theorem typesNamed_eq_error (refused : typesNamed names = .error fault) :
    ∃ before name behind, names = before ++ name :: behind ∧
      (∀ other ∈ before, other ∈ typeNames) ∧ name ∉ typeNames ∧ fault = .unknownType name := by
  induction names with
  | nil => cases refused
  | cons first rest ih =>
      rw [typesNamed] at refused
      split at refused
      next t read =>
        have known : first ∈ typeNames := isSome_ofName?_iff.mp (by simp [read])
        obtain ⟨before, name, behind, rfl, others, unknown, same⟩ :=
          ih (bind_pure_eq_error.mp refused)
        exact ⟨first :: before, name, behind, rfl, List.forall_mem_cons.mpr ⟨known, others⟩,
          unknown, same⟩
      next unread =>
        have unknown : first ∉ typeNames := by simp [← isSome_ofName?_iff, unread]
        exact ⟨[], first, rest, rfl, by simp, unknown, (Except.error.inj refused).symm⟩

theorem count_eq_error (refused : count v = .error fault) :
    fault = .notCount ∧ ∀ n, v ≠ Json.ofNat n := by
  refine ⟨?_, fun n same => by rw [count_eq_ok_iff.mpr same] at refused; cases refused⟩
  unfold count at refused
  split at refused
  · split at refused
    · cases refused
    · exact (Except.error.inj refused).symm
  · exact (Except.error.inj refused).symm

theorem bound_eq_error (refused : bound v = .error fault) :
    fault = .notNumber ∧ ∀ n, v ≠ .number n := by
  cases v <;> simp_all [bound]

theorem requiredNames_eq_error (refused : requiredNames v = .error fault) :
    fault = .notNames ∧ ∀ names : List String, v ≠ .array (names.map .string) := by
  refine ⟨?_, fun n same => by rw [requiredNames_eq_ok_iff.mpr same] at refused; cases refused⟩
  unfold requiredNames at refused
  split at refused
  · split at refused
    · cases refused
    · exact (Except.error.inj refused).symm
  · exact (Except.error.inj refused).symm

theorem enumerated_eq_error (refused : enumerated v = .error fault) :
    fault = .notNonEmptyArray ∧ ∀ values, values ≠ [] → v ≠ .array values := by
  constructor
  · unfold enumerated at refused
    split at refused
    · cases refused
    · exact (Except.error.inj refused).symm
  · intro values filled same
    rw [enumerated_eq_ok_iff.mpr ⟨filled, same⟩] at refused
    cases refused

end Schema
end AgentManifest
