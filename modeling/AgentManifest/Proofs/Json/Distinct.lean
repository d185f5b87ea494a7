import AgentManifest.FieldPath
import AgentManifest.Json.Reader
import AgentManifest.Proofs.Json.WellFormed
import AgentManifest.Proofs.Outcome

/-! Trees in which an object gives a key twice. A text is read under the rule that there is no such
object if it is read under the other rule, as the same tree, and there is none in it. In canonical
form the last value under a key is the one that is left. -/

namespace AgentManifest.Json

/-- Some object of the tree, at any depth, gives a key twice. -/
inductive Repeats : Json → Prop where
  | here {members : Members} (twice : ¬ (members.map (·.1)).Nodup) : Repeats (.object members)
  | member {members : Members} {key : String} {v : Json} (inside : (key, v) ∈ members)
      (deeper : Repeats v) : Repeats (.object members)
  | element {elements : List Json} {v : Json} (inside : v ∈ elements) (deeper : Repeats v) :
      Repeats (.array elements)

@[simp] theorem not_repeats_null : ¬ Json.null.Repeats := nofun

@[simp] theorem not_repeats_bool (b : Bool) : ¬ (Json.bool b).Repeats := nofun

@[simp] theorem not_repeats_number (n : Number) : ¬ (Json.number n).Repeats := nofun

@[simp] theorem not_repeats_string (s : String) : ¬ (Json.string s).Repeats := nofun

theorem repeats_array_iff {elements : List Json} :
    (Json.array elements).Repeats ↔ ∃ v ∈ elements, v.Repeats := by
  constructor
  · rintro (_ | _ | ⟨inside, deeper⟩)
    exact ⟨_, inside, deeper⟩
  · rintro ⟨v, inside, deeper⟩
    exact .element inside deeper

theorem repeats_object_iff {members : Members} :
    (Json.object members).Repeats ↔
      ¬ (members.map (·.1)).Nodup ∨ ∃ m ∈ members, m.2.Repeats := by
  constructor
  · rintro (twice | ⟨inside, deeper⟩)
    · exact .inl twice
    · exact .inr ⟨_, inside, deeper⟩
  · rintro (twice | ⟨m, inside, deeper⟩)
    · exact .here twice
    · exact .member inside deeper

theorem not_repeats_array {elements : List Json} :
    ¬ (Json.array elements).Repeats ↔ ∀ v ∈ elements, ¬ v.Repeats := by
  simp [repeats_array_iff]

theorem not_repeats_object {members : Members} :
    ¬ (Json.object members).Repeats ↔
      (members.map (·.1)).Nodup ∧ ∀ m ∈ members, ¬ m.2.Repeats := by
  simp [repeats_object_iff]

mutual

def decideRepeats : (v : Json) → Decidable v.Repeats
  | .null => isFalse not_repeats_null
  | .bool b => isFalse (not_repeats_bool b)
  | .number n => isFalse (not_repeats_number n)
  | .string s => isFalse (not_repeats_string s)
  | .array elements => @decidable_of_iff' _ _ repeats_array_iff (decideElements elements)
  | .object members =>
    @decidable_of_iff' _ _ repeats_object_iff (@instDecidableOr _ _ _ (decideMembers members))

def decideElements : (elements : List Json) → Decidable (∃ v ∈ elements, v.Repeats)
  | [] => isFalse (by simp)
  | v :: rest =>
    @decidable_of_iff' _ (v.Repeats ∨ ∃ w ∈ rest, w.Repeats) (by simp)
      (@instDecidableOr _ _ (decideRepeats v) (decideElements rest))

def decideMembers : (members : List (String × Json)) → Decidable (∃ m ∈ members, m.2.Repeats)
  | [] => isFalse (by simp)
  | (key, v) :: rest =>
    @decidable_of_iff' _ (v.Repeats ∨ ∃ m ∈ rest, m.2.Repeats) (by simp)
      (@instDecidableOr _ _ (decideRepeats v) (decideMembers rest))

end

instance : DecidablePred Repeats := decideRepeats

/-- The value at a place of a tree. -/
def at? : FieldPath → Json → Option Json
  | [], v => some v
  | .field name :: path, .object members => (Keyed.get? name members).bind (at? path)
  | .index i :: path, .array elements => elements[i]?.bind (at? path)
  | _ :: _, _ => none

/-- The value at a place of a tree as it is written, where of the values under a key the last one
counts. -/
def lastAt? : FieldPath → Json → Option Json
  | [], v => some v
  | .field name :: path, .object members => (Keyed.get? name members.reverse).bind (lastAt? path)
  | .index i :: path, .array elements => elements[i]?.bind (lastAt? path)
  | _ :: _, _ => none

theorem at?_canonical (path : FieldPath) (v : Json) :
    v.canonical.at? path = (v.lastAt? path).map canonical := by
  induction path generalizing v with
  | nil => rfl
  | cons step path ih =>
      cases step with
      | field name =>
          cases v with
          | object members =>
              rw [canonical, at?, lastAt?, get?_canonical]
              cases Keyed.get? name members.reverse with
              | none => rfl
              | some member => exact ih member
          | _ => rfl
      | index i =>
          cases v with
          | array elements =>
              rw [canonical, at?, lastAt?, canonicalList_eq_map, List.getElem?_map]
              cases elements[i]? with
              | none => rfl
              | some element => exact ih element
          | _ => rfl

namespace Reader

variable {v : Json} {c' : Cursor}

/-- What is neither an array nor an object is read alike under both rules. -/
theorem ok_iff_of_plain {α : Type} {step : Except Located α} {result : α → Json × Cursor}
    (plain : ∀ a, ¬ (result a).1.Repeats) :
    (step >>= fun a => Except.ok (result a)) = .ok (v, c') ↔
      (step >>= fun a => Except.ok (result a)) = .ok (v, c') ∧ ¬ v.Repeats := by
  refine (and_iff_left_of_imp fun read => ?_).symm
  obtain ⟨a, -, same⟩ := bind_eq_ok.mp read
  have given := plain a
  rwa [Except.ok.inj same] at given

/-- With some fuel, a value is read under the rule that no object gives a key twice if it is read
under the other rule and no object in it does. -/
abbrev ValuesAgree (fuel : Nat) : Prop :=
  ∀ {depth : Nat} {c c' : Cursor} {v : Json},
    value .distinct fuel depth c = .ok (v, c') ↔
      value .lastWins fuel depth c = .ok (v, c') ∧ ¬ v.Repeats

abbrev ElementsAgree (fuel : Nat) : Prop :=
  ∀ {depth : Nat} {first : Bool} {c c' : Cursor} {vs : List Json},
    elements .distinct fuel depth first c = .ok (vs, c') ↔
      elements .lastWins fuel depth first c = .ok (vs, c') ∧ ∀ v ∈ vs, ¬ v.Repeats

/-- The keys read so far may not come again either. -/
abbrev MembersAgree (fuel : Nat) : Prop :=
  ∀ {depth : Nat} {first : Bool} {seen : List String} {c c' : Cursor} {ms : Members},
    members .distinct fuel depth first seen c = .ok (ms, c') ↔
      members .lastWins fuel depth first seen c = .ok (ms, c') ∧
        (ms.map (·.1)).Nodup ∧ (∀ m ∈ ms, m.1 ∉ seen) ∧ ∀ m ∈ ms, ¬ m.2.Repeats

variable {fuel : Nat}

theorem valuesAgree_succ (ihElements : ElementsAgree fuel) (ihMembers : MembersAgree fuel) :
    ValuesAgree (fuel + 1) := by
  intro depth c c' v
  simp only [value]
  split
  · simp [failNext]
  · exact ok_iff_of_plain fun behind => not_repeats_null
  · exact ok_iff_of_plain fun behind => not_repeats_bool true
  · exact ok_iff_of_plain fun behind => not_repeats_bool false
  · exact ok_iff_of_plain fun read => not_repeats_number read.1
  · exact ok_iff_of_plain fun read => not_repeats_string read.1
  · split
    · simp [failNext]
    · simp only [bind_eq_ok, Prod.exists, ihElements, Except.ok.injEq, Prod.mk.injEq]
      constructor
      · rintro ⟨vs, behind, ⟨read, none⟩, rfl, rfl⟩
        exact ⟨⟨vs, behind, read, rfl, rfl⟩, not_repeats_array.mpr none⟩
      · rintro ⟨⟨vs, behind, read, rfl, rfl⟩, none⟩
        exact ⟨vs, behind, ⟨read, not_repeats_array.mp none⟩, rfl, rfl⟩
  · split
    · simp [failNext]
    · simp only [bind_eq_ok, Prod.exists, ihMembers, Except.ok.injEq, Prod.mk.injEq]
      constructor
      · rintro ⟨ms, behind, ⟨read, once, -, none⟩, rfl, rfl⟩
        exact ⟨⟨ms, behind, read, rfl, rfl⟩, not_repeats_object.mpr ⟨once, none⟩⟩
      · rintro ⟨⟨ms, behind, read, rfl, rfl⟩, none⟩
        obtain ⟨once, none⟩ := not_repeats_object.mp none
        exact ⟨ms, behind, ⟨read, once, by simp, none⟩, rfl, rfl⟩
  · split
    · exact ok_iff_of_plain fun read => not_repeats_number read.1
    · simp [failNext]

theorem elementsAgree_succ (ihValue : ValuesAgree fuel) (ihElements : ElementsAgree fuel) :
    ElementsAgree (fuel + 1) := by
  intro depth first c c' vs
  simp only [elements, bind_eq_ok]
  constructor
  · rintro ⟨next, found, read⟩
    cases next with
    | close behind =>
        cases read
        exact ⟨⟨_, found, rfl⟩, by simp⟩
    | more behind =>
        simp only [bind_eq_ok, Prod.exists, ihValue, ihElements] at read
        obtain ⟨v, _, ⟨readValue, plain⟩, vs, _, ⟨readRest, none⟩, same⟩ := read
        cases same
        refine ⟨⟨_, found, ?_⟩, List.forall_mem_cons.mpr ⟨plain, none⟩⟩
        simp [readValue, readRest]
  · rintro ⟨⟨next, found, read⟩, none⟩
    cases next with
    | close behind =>
        cases read
        exact ⟨_, found, rfl⟩
    | more behind =>
        simp only [bind_eq_ok, Prod.exists] at read
        obtain ⟨v, _, readValue, vs, _, readRest, same⟩ := read
        cases same
        obtain ⟨plain, none⟩ := List.forall_mem_cons.mp none
        refine ⟨_, found, ?_⟩
        simp [ihValue.mpr ⟨readValue, plain⟩, ihElements.mpr ⟨readRest, none⟩]

theorem membersAgree_succ (ihValue : ValuesAgree fuel) (ihMembers : MembersAgree fuel) :
    MembersAgree (fuel + 1) := by
  intro depth first seen c c' ms
  simp only [members, bind_eq_ok, reduceCtorEq, false_and, if_false, true_and]
  constructor
  · rintro ⟨next, found, read⟩
    cases next with
    | close behind =>
        cases read
        exact ⟨⟨_, found, rfl⟩, by simp⟩
    | more behind =>
        simp only [bind_eq_ok, Prod.exists] at read
        obtain ⟨key, afterKey, readKey, read⟩ := read
        split at read
        next => cases read
        next fresh =>
          simp only [bind_eq_ok, Prod.exists, ihValue, ihMembers] at read
          obtain ⟨start, colon, v, _, ⟨readValue, plain⟩, ms, _,
            ⟨readRest, once, others, none⟩, same⟩ := read
          cases same
          refine ⟨⟨_, found, ?_⟩, ?_, ?_, List.forall_mem_cons.mpr ⟨plain, none⟩⟩
          · simp [readKey, colon, readValue, readRest]
          · -- The rest was read with this key among those that may not come again.
            refine List.nodup_cons.mpr ⟨fun again => ?_, once⟩
            obtain ⟨m, inside, same⟩ := List.mem_map.mp again
            exact others m inside (same ▸ List.mem_cons_self)
          · exact List.forall_mem_cons.mpr
              ⟨fresh, fun m inside earlier => others m inside (List.mem_cons_of_mem _ earlier)⟩
  · rintro ⟨⟨next, found, read⟩, once, others, none⟩
    cases next with
    | close behind =>
        cases read
        exact ⟨_, found, rfl⟩
    | more behind =>
        simp only [bind_eq_ok, Prod.exists] at read
        obtain ⟨key, afterKey, readKey, start, colon, v, _, readValue, ms, _, readRest, same⟩ :=
          read
        cases same
        obtain ⟨new, once⟩ := List.nodup_cons.mp once
        obtain ⟨fresh, others⟩ := List.forall_mem_cons.mp others
        obtain ⟨plain, none⟩ := List.forall_mem_cons.mp none
        have later : ∀ m ∈ ms, m.1 ∉ key :: seen := fun m inside earlier =>
          (List.mem_cons.mp earlier).elim
            (fun same => new (List.mem_map.mpr ⟨m, inside, same⟩)) (others m inside)
        refine ⟨_, found, ?_⟩
        simp [readKey, fresh, colon, ihValue.mpr ⟨readValue, plain⟩,
          ihMembers.mpr ⟨readRest, once, later, none⟩]

theorem rules_agree (fuel : Nat) : ValuesAgree fuel ∧ ElementsAgree fuel ∧ MembersAgree fuel := by
  induction fuel with
  | zero =>
      refine ⟨?_, ?_, ?_⟩
      · intro depth c c' v
        simp [value, failAt]
      · intro depth first c c' vs
        simp [elements, failAt]
      · intro depth first seen c c' ms
        simp [members, failAt]
  | succ fuel ih =>
      obtain ⟨ihValue, ihElements, ihMembers⟩ := ih
      exact ⟨valuesAgree_succ ihElements ihMembers, elementsAgree_succ ihValue ihElements,
        membersAgree_succ ihValue ihMembers⟩

theorem document_distinct_iff {text : String} {v : Json} :
    document .distinct text = .ok v ↔ document .lastWins text = .ok v ∧ ¬ v.Repeats := by
  simp only [document, bind_eq_ok, Prod.exists, (rules_agree _).1]
  constructor
  · rintro ⟨w, behind, ⟨read, none⟩, ended⟩
    refine ⟨⟨w, behind, read, ended⟩, ?_⟩
    split at ended
    · cases ended
      exact none
    · cases ended
  · rintro ⟨⟨w, behind, read, ended⟩, none⟩
    refine ⟨w, behind, ⟨read, ?_⟩, ended⟩
    split at ended
    · cases ended
      exact none
    · cases ended

end Reader

end AgentManifest.Json
