import Mathlib.Data.String.Basic
import AgentManifest.Keyed

/-! Maps in the order of their names. An ordered map is known by what it gives under each name, so
two ordered maps that give the same are the same list. Everything built by insertion is ordered. -/

namespace AgentManifest.Keyed

variable {α β : Type} {key other : String} {value : α} {entries : Keyed α}

@[simp] theorem get?_nil : get? key ([] : Keyed α) = none := rfl

@[simp] theorem get?_cons (name : String) (value : α) (rest : Keyed α) :
    get? key ((name, value) :: rest) = if key = name then some value else get? key rest := by
  by_cases same : key = name
  · simp [get?, same]
  · rw [if_neg same, get?, List.lookup_cons, beq_eq_false_iff_ne.mpr same, get?]

theorem get?_append (first second : Keyed α) :
    get? key (first ++ second) = (get? key first).or (get? key second) := by
  simp [get?, List.lookup_append]

theorem mem_of_get? (found : get? key entries = some value) : (key, value) ∈ entries := by
  obtain ⟨before, behind, split, -⟩ := List.lookup_eq_some_iff.mp found
  simp [split]

theorem get?_eq_none_iff : get? key entries = none ↔ ∀ entry ∈ entries, entry.1 ≠ key := by
  rw [get?, List.lookup_eq_none_iff]
  simp [bne_iff_ne, ne_comm]

theorem contains_iff : contains key entries = true ↔ ∃ value, (key, value) ∈ entries := by
  rw [contains]
  cases found : get? key entries with
  | none =>
      rw [get?_eq_none_iff] at found
      simp only [Option.isSome_none, Bool.false_eq_true, false_iff, not_exists]
      exact fun value inside => found (key, value) inside rfl
  | some value => exact ⟨fun _ => ⟨value, mem_of_get? found⟩, fun _ => rfl⟩

theorem contains_iff_mem_keys : contains key entries = true ↔ key ∈ keys entries := by
  simp [contains_iff, keys]

/-- The names ascend strictly. -/
def Ordered (entries : Keyed α) : Prop := entries.Pairwise fun first second => first.1 < second.1

@[simp] theorem ordered_nil : Ordered ([] : Keyed α) := List.Pairwise.nil

theorem ordered_cons {entry : String × α} :
    Ordered (entry :: entries) ↔ (∀ later ∈ entries, entry.1 < later.1) ∧ Ordered entries :=
  List.pairwise_cons

theorem Ordered.filter {keep : String × α → Bool} (ordered : Ordered entries) :
    Ordered (entries.filter keep) :=
  List.Pairwise.filter keep ordered

theorem Ordered.erase (ordered : Ordered entries) : Ordered (erase key entries) :=
  ordered.filter

theorem Ordered.get?_eq_some_iff (ordered : Ordered entries) :
    get? key entries = some value ↔ (key, value) ∈ entries := by
  refine ⟨mem_of_get?, fun inside => ?_⟩
  induction entries with
  | nil => cases inside
  | cons first rest ih =>
      obtain ⟨name, v⟩ := first
      obtain ⟨before, ordered⟩ := ordered_cons.mp ordered
      rcases List.mem_cons.mp inside with same | inside
      · cases same
        simp
      · have different : key ≠ name := (before _ inside).ne'
        simp [different, ih ordered inside]

theorem Ordered.eq_of_perm {first second : Keyed α} (ordered : Ordered first)
    (ordered' : Ordered second) (perm : first.Perm second) : first = second :=
  perm.eq_of_pairwise (fun _ _ _ _ less more => absurd less (lt_asymm more)) ordered ordered'

/-- Ordered maps that give the same under every name are the same. -/
theorem Ordered.ext {first second : Keyed α} (ordered : Ordered first) (ordered' : Ordered second)
    (same : ∀ key, get? key first = get? key second) : first = second := by
  have sameMembers : ∀ entry, entry ∈ first ↔ entry ∈ second := by
    rintro ⟨key, value⟩
    rw [← ordered.get?_eq_some_iff, ← ordered'.get?_eq_some_iff, same]
  exact ordered.eq_of_perm ordered'
    ((List.perm_ext_iff_of_nodup (ordered.imp fun less same => less.ne (congrArg Prod.fst same))
      (ordered'.imp fun less same => less.ne (congrArg Prod.fst same))).mpr sameMembers)

theorem mem_insert {entry : String × α} (inside : entry ∈ insert key value entries) :
    entry = (key, value) ∨ entry ∈ entries := by
  induction entries with
  | nil => simpa [insert] using inside
  | cons first rest ih =>
      obtain ⟨name, v⟩ := first
      simp only [insert] at inside
      split at inside
      · simpa using inside
      · split at inside
        · rcases List.mem_cons.mp inside with same | inside
          · exact .inl same
          · exact .inr (List.mem_cons_of_mem _ inside)
        · rcases List.mem_cons.mp inside with same | inside
          · exact .inr (same ▸ List.mem_cons_self)
          · exact (ih inside).imp_right (List.mem_cons_of_mem _)

theorem Ordered.insert (ordered : Ordered entries) : Ordered (insert key value entries) := by
  induction entries with
  | nil => simp [Keyed.insert, Ordered]
  | cons first rest ih =>
      obtain ⟨name, v⟩ := first
      obtain ⟨before, rest_ordered⟩ := ordered_cons.mp ordered
      simp only [Keyed.insert]
      split
      next less =>
        refine ordered_cons.mpr ⟨fun later inside => ?_, ordered⟩
        rcases List.mem_cons.mp inside with rfl | inside
        · exact less
        · exact less.trans (before later inside)
      next notLess =>
        split
        next same => exact ordered_cons.mpr ⟨same ▸ before, rest_ordered⟩
        next different =>
          refine ordered_cons.mpr ⟨fun later inside => ?_, ih rest_ordered⟩
          rcases mem_insert inside with rfl | inside
          · exact lt_of_le_of_ne (not_lt.mp notLess) (Ne.symm different)
          · exact before later inside

@[simp] theorem get?_insert (entries : Keyed α) :
    get? other (insert key value entries) =
      if other = key then some value else get? other entries := by
  induction entries with
  | nil => simp [insert]
  | cons first rest ih =>
      obtain ⟨name, v⟩ := first
      simp only [insert]
      split
      · simp
      · split
        next same =>
          subst same
          by_cases self : other = key <;> simp [self]
        next different =>
          rw [get?_cons, get?_cons, ih]
          by_cases self : other = key
          · simp [self, different]
          · simp [self]

/-- Of two entries set under one name the later counts. -/
@[simp] theorem insert_insert (first : α) (entries : Keyed α) :
    insert key value (insert key first entries) = insert key value entries := by
  induction entries with
  | nil => simp [insert]
  | cons entry rest ih =>
      obtain ⟨name, v⟩ := entry
      simp only [insert]
      split
      next => simp [insert]
      next notLess =>
        split
        next => simp [insert]
        next different => simp [insert, notLess, different, ih]

@[simp] theorem get?_erase (entries : Keyed α) :
    get? other (erase key entries) = if other = key then none else get? other entries := by
  induction entries with
  | nil => simp [erase]
  | cons first rest ih =>
      obtain ⟨name, v⟩ := first
      have behind : erase key ((name, v) :: rest) =
          if name = key then erase key rest else (name, v) :: erase key rest := by
        by_cases same : name = key <;> simp [erase, same]
      rw [behind, get?_cons]
      by_cases same : name = key
      · rw [if_pos same, ih, same]
        split <;> rfl
      · rw [if_neg same, get?_cons, ih]
        by_cases here : other = name
        · simp [here, same]
        · simp [here]

/-- An entry that was there can be put back. -/
theorem Ordered.insert_erase (ordered : Ordered entries) (given : get? key entries = some value) :
    Keyed.insert key value (Keyed.erase key entries) = entries := by
  refine ordered.erase.insert.ext ordered fun other => ?_
  rw [get?_insert, get?_erase]
  by_cases same : other = key
  · rw [if_pos same, same, given]
  · rw [if_neg same, if_neg same]

theorem ordered_foldl_insert (added : List (String × α)) (ordered : Ordered entries) :
    Ordered (added.foldl (fun acc e => insert e.1 e.2 acc) entries) := by
  induction added generalizing entries with
  | nil => exact ordered
  | cons first rest ih => exact ih ordered.insert

theorem ordered_ofList (listed : List (String × α)) : Ordered (ofList listed) :=
  ordered_foldl_insert listed ordered_nil

theorem mem_of_mem_ofList {listed : List (String × α)} {entry : String × α}
    (inside : entry ∈ ofList listed) : entry ∈ listed := by
  suffices general : ∀ entries : Keyed α,
      entry ∈ listed.foldl (fun acc e => insert e.1 e.2 acc) entries →
        entry ∈ entries ∨ entry ∈ listed by
    exact (general [] inside).resolve_left (List.not_mem_nil)
  clear inside
  induction listed with
  | nil => exact fun entries inside => .inl inside
  | cons first rest ih =>
      intro entries inside
      rcases ih (insert first.1 first.2 entries) inside with kept | added
      · rcases mem_insert kept with same | kept
        · exact .inr (same ▸ List.mem_cons_self)
        · exact .inl kept
      · exact .inr (List.mem_cons_of_mem _ added)

/-- Where no name comes twice, a map gives what the list gives. -/
theorem get?_ofList {listed : List (String × α)} (distinct : (listed.map (·.1)).Nodup) :
    get? key (ofList listed) = get? key listed := by
  suffices general : ∀ entries : Keyed α, (∀ entry ∈ listed, get? entry.1 entries = none) →
      get? key (listed.foldl (fun acc e => insert e.1 e.2 acc) entries) =
        (get? key listed).or (get? key entries) by
    simpa [ofList] using general [] (by simp)
  induction listed with
  | nil => simp
  | cons first rest ih =>
      obtain ⟨name, value⟩ := first
      obtain ⟨fresh, distinct⟩ := List.nodup_cons.mp distinct
      intro entries empty
      have others : ∀ entry ∈ rest, entry.1 ≠ name :=
        fun entry inside same => fresh (List.mem_map.mpr ⟨entry, inside, same⟩)
      rw [List.foldl_cons, ih distinct]
      · by_cases self : key = name
        · subst self
          have absent : get? key rest = none := get?_eq_none_iff.mpr others
          simp [absent]
        · simp [self]
      · intro entry inside
        rw [get?_insert, if_neg (others entry inside)]
        exact empty entry (List.mem_cons_of_mem _ inside)

/-- Of the entries of a list under one name a map gives the last. -/
theorem get?_ofList_eq_reverse (listed : List (String × α)) :
    get? key (ofList listed) = get? key listed.reverse := by
  suffices general : ∀ entries : Keyed α,
      get? key (listed.foldl (fun acc e => insert e.1 e.2 acc) entries) =
        (get? key listed.reverse).or (get? key entries) by
    simpa [ofList] using general []
  induction listed with
  | nil => simp
  | cons first rest ih =>
      obtain ⟨name, value⟩ := first
      intro entries
      rw [List.foldl_cons, ih, get?_insert, List.reverse_cons, get?_append, get?_cons, get?_nil]
      by_cases self : key = name
      · simp [self]
      · simp [self]

theorem insert_perm (fresh : get? key entries = none) :
    (insert key value entries).Perm ((key, value) :: entries) := by
  induction entries with
  | nil => exact .refl _
  | cons first rest ih =>
      obtain ⟨name, v⟩ := first
      rw [get?_cons] at fresh
      split at fresh
      · cases fresh
      next different =>
        simp only [insert]
        split
        · exact .refl _
        · exact ((ih fresh).cons _).trans (.swap _ _ _)

/-- Where no name comes twice, a map holds what the list holds. -/
theorem ofList_perm {listed : List (String × α)} (distinct : (listed.map (·.1)).Nodup) :
    (ofList listed).Perm listed := by
  suffices general : ∀ entries : Keyed α, (∀ entry ∈ listed, get? entry.1 entries = none) →
      (listed.foldl (fun acc e => insert e.1 e.2 acc) entries).Perm (listed ++ entries) by
    simpa [ofList] using general [] (by simp)
  induction listed with
  | nil => exact fun entries empty => .refl _
  | cons first rest ih =>
      obtain ⟨name, value⟩ := first
      obtain ⟨fresh, distinct⟩ := List.nodup_cons.mp distinct
      intro entries empty
      obtain ⟨empty_first, empty_rest⟩ := List.forall_mem_cons.mp empty
      have onward : ∀ entry ∈ rest, get? entry.1 (insert name value entries) = none := by
        intro entry inside
        have other : entry.1 ≠ name :=
          fun same => fresh (List.mem_map.mpr ⟨entry, inside, same⟩)
        rw [get?_insert, if_neg other]
        exact empty_rest entry inside
      have added : (rest ++ insert name value entries).Perm (rest ++ (name, value) :: entries) :=
        (insert_perm empty_first).append_left rest
      exact ((ih distinct _ onward).trans added).trans List.perm_middle

/-- Where no name comes twice, a map does not depend on the order of the list. -/
theorem ofList_eq_of_perm {first second : List (String × α)} (perm : first.Perm second)
    (distinct : (first.map (·.1)).Nodup) : ofList first = ofList second := by
  have distinct' : (second.map (·.1)).Nodup := (perm.map _).nodup_iff.mp distinct
  exact (ordered_ofList first).eq_of_perm (ordered_ofList second)
    ((ofList_perm distinct).trans (perm.trans (ofList_perm distinct').symm))

theorem Ordered.nodup (ordered : Ordered entries) : (entries.map (·.1)).Nodup :=
  List.Pairwise.map _ (fun _ _ less => less.ne) ordered

theorem ofList_of_ordered (ordered : Ordered entries) : ofList entries = entries :=
  (ordered_ofList entries).ext ordered fun _ => get?_ofList ordered.nodup

end AgentManifest.Keyed
