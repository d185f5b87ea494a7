import AgentManifest.Json.Basic
import AgentManifest.Proofs.Keyed.Order

/-! The value trees there can be. A tree stores integers of 64 bits only, and each of its objects
holds every key once, in order. Putting a tree into canonical form makes it one of these and leaves
those that are as they stand. -/

namespace AgentManifest

theorem Number.fits_iff {i : Int} :
    Number.fits i = true ↔ -0x8000000000000000 ≤ i ∧ i ≤ 0xFFFFFFFFFFFFFFFF := by
  rw [Number.fits, Bool.and_eq_true, decide_eq_true_iff, decide_eq_true_iff]
  rfl

/-- An integer that trees store, or any binary64 number. -/
def Number.Stored : Number → Prop
  | .integer i => Number.fits i = true
  | .float _ => True

namespace Json

/-- Every number of the tree is one that trees store. -/
inductive Storable : Json → Prop where
  | null : Storable .null
  | bool (b : Bool) : Storable (.bool b)
  | number {n : Number} (stored : n.Stored) : Storable (.number n)
  | string (s : String) : Storable (.string s)
  | array {elements : List Json} (each : ∀ element ∈ elements, Storable element) :
      Storable (.array elements)
  | object {members : Members} (each : ∀ member ∈ members, Storable member.2) :
      Storable (.object members)

/-- A tree that stores what trees store and holds every object in the order of its keys. -/
inductive WellFormed : Json → Prop where
  | null : WellFormed .null
  | bool (b : Bool) : WellFormed (.bool b)
  | number {n : Number} (stored : n.Stored) : WellFormed (.number n)
  | string (s : String) : WellFormed (.string s)
  | array {elements : List Json} (each : ∀ element ∈ elements, WellFormed element) :
      WellFormed (.array elements)
  | object {members : Members} (ordered : Keyed.Ordered members)
      (each : ∀ member ∈ members, WellFormed member.2) : WellFormed (.object members)

@[simp] theorem canonicalList_eq_map (elements : List Json) :
    canonicalList elements = elements.map canonical := by
  induction elements with
  | nil => rfl
  | cons first rest ih => rw [canonicalList, ih, List.map_cons]

@[simp] theorem canonicalMembers_eq_map (members : List (String × Json)) :
    canonicalMembers members = members.map fun member => (member.1, member.2.canonical) := by
  induction members with
  | nil => rfl
  | cons first rest ih => rw [canonicalMembers, ih, List.map_cons]

/-- Of the members with one key the last one counts. -/
theorem get?_canonical (members : Members) (key : String) :
    Keyed.get? key (Keyed.ofList (canonicalMembers members)) =
      (Keyed.get? key members.reverse).map canonical := by
  rw [Keyed.get?_ofList_eq_reverse, canonicalMembers_eq_map, ← List.map_reverse]
  induction members.reverse with
  | nil => rfl
  | cons member rest ih =>
      obtain ⟨name, v⟩ := member
      rw [List.map_cons, Keyed.get?_cons, Keyed.get?_cons, ih]
      split <;> rfl

theorem wellFormed_canonical {v : Json} (storable : v.Storable) : v.canonical.WellFormed := by
  induction storable with
  | null => exact .null
  | bool b => exact .bool b
  | number stored => exact .number stored
  | string s => exact .string s
  | array each ih =>
      rw [canonical, canonicalList_eq_map]
      refine .array fun element inside => ?_
      obtain ⟨given, member, rfl⟩ := List.mem_map.mp inside
      exact ih given member
  | object each ih =>
      rw [canonical, canonicalMembers_eq_map]
      refine .object (Keyed.ordered_ofList _) fun member inside => ?_
      obtain ⟨given, listed, rfl⟩ := List.mem_map.mp (Keyed.mem_of_mem_ofList inside)
      exact ih given listed

/-- Canonical form leaves a well-formed tree as it stands. -/
theorem WellFormed.canonical_eq {v : Json} (wellFormed : v.WellFormed) : v.canonical = v := by
  induction wellFormed with
  | null | bool b | number stored | string s => rfl
  | array each ih =>
      rw [canonical, canonicalList_eq_map]
      rw [List.map_congr_left ih, List.map_id']
  | @object members ordered each ih =>
      have kept : ∀ member ∈ members, (member.1, member.2.canonical) = member := by
        intro member inside
        rw [ih member inside]
      rw [canonical, canonicalMembers_eq_map, List.map_congr_left kept, List.map_id',
        Keyed.ofList_of_ordered ordered]

variable {elements : List Json} {members : Members} {key : String} {value : Json}

theorem wellFormed_array_iff :
    (array elements).WellFormed ↔ ∀ element ∈ elements, element.WellFormed :=
  ⟨fun | .array each => each, .array⟩

theorem wellFormed_object_iff :
    (object members).WellFormed ↔
      Keyed.Ordered members ∧ ∀ member ∈ members, member.2.WellFormed :=
  ⟨fun | .object ordered each => ⟨ordered, each⟩, fun ⟨ordered, each⟩ => .object ordered each⟩

theorem WellFormed.of_array (wellFormed : (Json.array elements).WellFormed) :
    ∀ element ∈ elements, element.WellFormed := by
  cases wellFormed with
  | array each => exact each

theorem WellFormed.of_object (wellFormed : (Json.object members).WellFormed) :
    ∀ member ∈ members, member.2.WellFormed := by
  cases wellFormed with
  | object ordered each => exact each

theorem WellFormed.ordered (wellFormed : (Json.object members).WellFormed) :
    Keyed.Ordered members := by
  cases wellFormed with
  | object ordered each => exact ordered

theorem WellFormed.member (wellFormed : (Json.object members).WellFormed)
    (found : Keyed.get? key members = some value) : value.WellFormed := by
  cases wellFormed with
  | object ordered each => exact each (key, value) (Keyed.mem_of_get? found)

theorem WellFormed.insert (wellFormed : (Json.object members).WellFormed)
    (inserted : value.WellFormed) : (Json.object (Keyed.insert key value members)).WellFormed := by
  cases wellFormed with
  | object ordered each =>
      refine .object ordered.insert fun member inside => ?_
      rcases Keyed.mem_insert inside with rfl | inside
      · exact inserted
      · exact each member inside

theorem WellFormed.erase (wellFormed : (Json.object members).WellFormed) :
    (Json.object (Keyed.erase key members)).WellFormed := by
  cases wellFormed with
  | object ordered each =>
      exact .object ordered.erase fun member inside => each member (List.mem_of_mem_filter inside)

end Json
end AgentManifest
