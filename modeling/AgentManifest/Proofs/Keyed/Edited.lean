import AgentManifest.Proofs.Keyed.Order

/-! Maps with their entries changed or left out one by one, and maps put together from the entries
of some names: if the names are all there are, that is the same map. -/

namespace AgentManifest.Keyed

variable {α β : Type} {edit : String → α → Option β} {entries : Keyed α} {key : String}

/-- The entries with their values changed; an entry whose value is changed into nothing is left
out. -/
def edited (edit : String → α → Option β) (entries : Keyed α) : Keyed β :=
  entries.filterMap fun entry => (edit entry.1 entry.2).map (entry.1, ·)

theorem mem_edited {value : β} :
    (key, value) ∈ edited edit entries ↔
      ∃ given, (key, given) ∈ entries ∧ edit key given = some value := by
  simp [edited]

/-- The edit that leaves every entry as it is. -/
abbrev unchanged : String → α → Option α := fun _ => some

@[simp] theorem edited_unchanged : edited unchanged entries = entries := by
  simp [edited]

theorem Ordered.edited (ordered : Ordered entries) : Ordered (edited edit entries) := by
  refine List.Pairwise.filterMap _ ?_ ordered
  intro first second less changed changed_first changed' changed_second
  obtain ⟨value, kept, rfl⟩ := Option.map_eq_some_iff.mp changed_first
  obtain ⟨value', kept', rfl⟩ := Option.map_eq_some_iff.mp changed_second
  exact less

theorem Ordered.get?_edited (ordered : Ordered entries) :
    get? key (Keyed.edited edit entries) = (get? key entries).bind (edit key) := by
  refine Option.ext fun value => ?_
  rw [ordered.edited.get?_eq_some_iff, mem_edited, Option.bind_eq_some_iff]
  simp only [ordered.get?_eq_some_iff]

/-- The entry of a name as an edit leaves it, if there is one. -/
def piece (edit : String → α → Option β) (name : String) (entries : Keyed α) : List (String × β) :=
  ((get? name entries).bind (edit name)).toList.map (name, ·)

theorem get?_piece {name : String} :
    get? key (piece edit name entries) =
      if key = name then (get? name entries).bind (edit name) else none := by
  cases kept : (get? name entries).bind (edit name) with
  | none => simp [piece, kept]
  | some value => simp [piece, kept]

theorem get?_pieces {names : List String} :
    get? key (names.flatMap fun name => piece edit name entries) =
      if key ∈ names then (get? key entries).bind (edit key) else none := by
  induction names with
  | nil => rfl
  | cons name rest ih =>
      rw [List.flatMap_cons, get?_append, get?_piece, ih]
      by_cases same : key = name
      · subst same
        by_cases later : key ∈ rest <;> simp [later]
      · simp [same]

theorem nodup_pieces {names : List String} (distinct : names.Nodup) :
    ((names.flatMap fun name => piece edit name entries).map (·.1)).Nodup := by
  refine List.Nodup.sublist ?_ distinct
  clear distinct
  induction names with
  | nil => exact .refl _
  | cons name rest ih =>
      rw [List.flatMap_cons, List.map_append]
      cases kept : (get? name entries).bind (edit name) with
      | none => simpa [piece, kept] using ih.cons name
      | some value => simpa [piece, kept] using ih

/-- The edited map, put together name by name. -/
theorem ofList_pieces {names : List String} (ordered : Ordered entries) (distinct : names.Nodup)
    (known : ∀ key value, get? key entries = some value → (edit key value).isSome → key ∈ names) :
    ofList (names.flatMap fun name => piece edit name entries) = edited edit entries := by
  refine (ordered_ofList _).ext ordered.edited fun key => ?_
  rw [get?_ofList (nodup_pieces distinct), get?_pieces, ordered.get?_edited]
  split
  next => rfl
  next unknown =>
    cases found : get? key entries with
    | none => rfl
    | some value =>
        cases kept : edit key value with
        | none => exact kept.symm
        | some changed => exact absurd (known key value found (by simp [kept])) unknown

theorem map_insert (f : α → β) (value : α) :
    (insert key value entries).map (fun entry => (entry.1, f entry.2)) =
      insert key (f value) (entries.map fun entry => (entry.1, f entry.2)) := by
  induction entries with
  | nil => rfl
  | cons first rest ih =>
      simp only [insert, List.map_cons]
      split
      · rfl
      · split
        · rfl
        · rw [List.map_cons, ih]

/-- Values may be changed before or after a list is made a map. -/
theorem ofList_map (f : α → β) (listed : List (String × α)) :
    ofList (listed.map fun entry => (entry.1, f entry.2)) =
      (ofList listed).map fun entry => (entry.1, f entry.2) := by
  suffices general : ∀ entries : Keyed α,
      (listed.map fun entry => (entry.1, f entry.2)).foldl (fun acc e => insert e.1 e.2 acc)
          (entries.map fun entry => (entry.1, f entry.2)) =
        (listed.foldl (fun acc e => insert e.1 e.2 acc) entries).map
          fun entry => (entry.1, f entry.2) from general []
  induction listed with
  | nil => exact fun entries => rfl
  | cons first rest ih =>
      intro entries
      rw [List.map_cons, List.foldl_cons, List.foldl_cons, ← ih, map_insert]

end AgentManifest.Keyed
