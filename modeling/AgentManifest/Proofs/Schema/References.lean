import Mathlib.Data.Finset.Card
import Mathlib.Data.Fintype.Pigeonhole
import AgentManifest.Schema.Lookup

/-! Chains of references. A chain that does not end comes back to a definition it has been at, so
what lies on a chain is met before as many references have been followed as there are definitions,
and a count that is no smaller than that only breaks off chains that go in a circle. -/

namespace AgentManifest

namespace SchemaStore

variable {store : SchemaStore} {s t : Schema}

/-- The schema that the reference of a schema names. -/
def next? (store : SchemaStore) (s : Schema) : Option Schema :=
  s.rules.reference.bind store.definition?

/-- The schema at the end of so many references. -/
def after? (store : SchemaStore) : Nat → Schema → Option Schema
  | 0, s => some s
  | steps + 1, s => (store.next? s).bind (after? store steps)

/-- Whether references lead from a schema to another. -/
def Leads (store : SchemaStore) (s t : Schema) : Prop := ∃ steps, store.after? steps s = some t

theorem after?_add (first second : Nat) (s : Schema) :
    store.after? (first + second) s = (store.after? first s).bind (store.after? second) := by
  induction first generalizing s with
  | zero => simp [after?]
  | succ first ih =>
      rw [Nat.succ_add]
      simp only [after?, Option.bind_assoc]
      congr 1
      funext next
      exact ih next

theorem leads_refl (s : Schema) : store.Leads s s := ⟨0, rfl⟩

theorem leads_of_next {next : Schema} (one : store.next? s = some next)
    (rest : store.Leads next t) : store.Leads s t := by
  obtain ⟨steps, reached⟩ := rest
  exact ⟨steps + 1, by simp [after?, one, reached]⟩

/-- The name at which a chain is left by its next reference. -/
def nameAfter? (store : SchemaStore) (steps : Nat) (s : Schema) : Option String :=
  (store.after? steps s).bind (·.rules.reference)

theorem after?_succ (steps : Nat) (s : Schema) :
    store.after? (steps + 1) s = (store.nameAfter? steps s).bind store.definition? := by
  rw [after?_add]
  simp only [nameAfter?, Option.bind_assoc]
  congr 1
  funext last
  simp [after?, next?]

theorem mem_keys_of_definition? {name : String} (found : store.definition? name = some s) :
    name ∈ store.definitions.keys := by
  obtain ⟨before, behind, split, -⟩ := List.lookup_eq_some_iff.mp found
  simp [Keyed.keys, split]

/-- A name from which a chain goes on names a definition. -/
theorem nameAfter?_mem_keys {steps total : Nat} (reached : store.after? total s = some t)
    (inside : steps < total) :
    store.nameAfter? steps s ∈ (store.definitions.keys.map some).toFinset := by
  obtain ⟨rest, rfl⟩ : ∃ rest, total = steps + 1 + rest := ⟨total - (steps + 1), by omega⟩
  rw [after?_add, after?_succ] at reached
  cases named : store.nameAfter? steps s with
  | none => simp [named] at reached
  | some name =>
      obtain ⟨next, found, -⟩ := Option.bind_eq_some_iff.mp reached
      simpa using mem_keys_of_definition? (s := next) (by simpa [named] using found)

/-- A chain longer than there are definitions is left at two places by the same name. -/
theorem same_name_twice {steps : Nat} (reached : store.after? steps s = some t)
    (long : store.definitions.length < steps) :
    ∃ first second name, first < second ∧ second < steps ∧
      store.nameAfter? first s = some name ∧ store.nameAfter? second s = some name := by
  have crowded : (store.definitions.keys.map some).toFinset.card < (Finset.range steps).card := by
    have size := (store.definitions.keys.map some).toFinset_card_le
    simp only [Keyed.keys, List.length_map, Finset.card_range] at size ⊢
    omega
  obtain ⟨i, iInside, j, jInside, different, same⟩ :=
    Finset.exists_ne_map_eq_of_card_lt_of_maps_to crowded
      (f := fun place => store.nameAfter? place s)
      (fun place inside => nameAfter?_mem_keys reached (by simpa using inside))
  have named := nameAfter?_mem_keys reached (Finset.mem_range.mp iInside)
  obtain ⟨name, -, left⟩ := List.mem_map.mp (List.mem_toFinset.mp named)
  rcases Nat.lt_or_gt_of_ne different with ordered | ordered
  · exact ⟨i, j, name, ordered, Finset.mem_range.mp jInside, left.symm, same.symm.trans left.symm⟩
  · exact ⟨j, i, name, ordered, Finset.mem_range.mp iInside, same.symm.trans left.symm, left.symm⟩

/-- What a chain reaches at all, it reaches by at most as many references as there are definitions:
between two places where it is left by the same name it can be cut short. -/
theorem after?_short {steps : Nat} (reached : store.after? steps s = some t) :
    ∃ few ≤ store.definitions.length, store.after? few s = some t := by
  induction steps using Nat.strong_induction_on with
  | _ steps ih =>
      by_cases short : steps ≤ store.definitions.length
      · exact ⟨steps, short, reached⟩
      · obtain ⟨first, second, name, ordered, inside, left, again⟩ :=
          same_name_twice reached (Nat.lt_of_not_le short)
        obtain ⟨rest, rfl⟩ : ∃ rest, steps = second + 1 + rest := ⟨steps - (second + 1), by omega⟩
        have cut : store.after? (first + 1 + rest) s = some t := by
          rw [after?_add, after?_succ] at reached ⊢
          rw [left, ← again]
          exact reached
        exact ih (first + 1 + rest) (by omega) cut

theorem mem_followWithin {hops : Nat} :
    t ∈ (store.followWithin hops s).1 ↔ ∃ steps ≤ hops, store.after? steps s = some t := by
  induction hops generalizing s with
  | zero =>
      unfold followWithin
      split <;> simp [after?, eq_comm]
  | succ hops ih =>
      have cases_steps : (∃ steps ≤ hops + 1, store.after? steps s = some t) ↔
          s = t ∨ ∃ steps ≤ hops, (store.next? s).bind (store.after? steps) = some t := by
        constructor
        · rintro ⟨_ | steps, bound, reached⟩
          · exact .inl (by simpa [after?] using reached)
          · exact .inr ⟨steps, by omega, reached⟩
        · rintro (rfl | ⟨steps, bound, reached⟩)
          · exact ⟨0, by omega, rfl⟩
          · exact ⟨steps + 1, by omega, reached⟩
      rw [cases_steps]
      unfold followWithin
      cases target : s.rules.reference with
      | none => simp [next?, target, eq_comm]
      | some name =>
          cases found : store.definition? name with
          | none => simp [next?, target, found, eq_comm]
          | some next =>
              simp [next?, target, found, ih, or_comm, eq_comm]

/-- Following references meets exactly what they lead to, also where they lead in a circle. -/
theorem mem_follow_iff : t ∈ (store.follow s).1 ↔ store.Leads s t := by
  rw [follow, mem_followWithin]
  constructor
  · rintro ⟨steps, -, reached⟩
    exact ⟨steps, reached⟩
  · rintro ⟨steps, reached⟩
    obtain ⟨few, bound, reached⟩ := after?_short reached
    exact ⟨few, by rw [hopLimit]; omega, reached⟩

variable {last next : Schema} {name : String}

/-- The chain of references of a schema comes back to a definition it has been at. -/
def Circles (store : SchemaStore) (s : Schema) : Prop :=
  ∃ first second name, first < second ∧
    store.nameAfter? first s = some name ∧ store.nameAfter? second s = some name

/-- The chain of references of a schema stops at a schema after so many of them. -/
structure Stops (store : SchemaStore) (s : Schema) (steps : Nat) (last : Schema) : Prop where
  reached : store.after? steps s = some last
  ends : store.next? last = none

theorem nameAfter?_eq_some {steps : Nat} (left : store.nameAfter? steps s = some name) :
    ∃ t, store.after? steps s = some t ∧ t.rules.reference = some name :=
  Option.bind_eq_some_iff.mp left

theorem after?_of_le {few many : Nat} (reached : store.after? many s = some t) (le : few ≤ many) :
    ∃ u, store.after? few s = some u := by
  obtain ⟨rest, rfl⟩ := Nat.exists_eq_add_of_le le
  rw [after?_add] at reached
  obtain ⟨u, passed, -⟩ := Option.bind_eq_some_iff.mp reached
  exact ⟨u, passed⟩

/-- A chain that goes in a circle is as long as one likes: what it has beyond the second time at the
definition, it has had beyond the first time. -/
theorem Circles.goes_on (circles : store.Circles s) (steps : Nat) :
    ∃ t, store.after? steps s = some t := by
  obtain ⟨first, second, name, ordered, left, again⟩ := circles
  induction steps using Nat.strong_induction_on with
  | _ steps ih =>
      by_cases inside : steps ≤ second
      · obtain ⟨t, reached, -⟩ := nameAfter?_eq_some again
        exact after?_of_le reached inside
      · obtain ⟨rest, rfl⟩ : ∃ rest, steps = second + 1 + rest := ⟨steps - (second + 1), by omega⟩
        have same : store.after? (second + 1 + rest) s = store.after? (first + 1 + rest) s := by
          rw [after?_add, after?_succ, again, after?_add, after?_succ, left]
        rw [same]
        exact ih (first + 1 + rest) (by omega)

theorem circles_of_long {steps : Nat} (reached : store.after? steps s = some t)
    (long : store.definitions.length < steps) : store.Circles s := by
  obtain ⟨first, second, name, ordered, -, left, again⟩ := same_name_twice reached long
  exact ⟨first, second, name, ordered, left, again⟩

theorem circles_of_next (one : store.next? s = some next) :
    store.Circles s ↔ store.Circles next := by
  have onward : ∀ steps, store.after? (steps + 1) s = store.after? steps next := fun steps => by
    rw [after?, one, Option.bind_some]
  constructor
  · intro circles
    obtain ⟨t, reached⟩ := circles.goes_on (store.definitions.length + 2)
    exact circles_of_long ((onward _).symm.trans reached) (Nat.lt_succ_self _)
  · intro circles
    obtain ⟨t, reached⟩ := circles.goes_on (store.definitions.length + 1)
    exact circles_of_long ((onward _).trans reached) (by omega)

/-- A chain that goes in no circle stops within as many references as there are definitions. -/
theorem stops_of_not_circles (straight : ¬ store.Circles s) :
    ∃ steps ≤ store.definitions.length, ∃ last, store.Stops s steps last := by
  have broken : ∃ steps, store.after? steps s = none := by
    refine ⟨store.definitions.length + 1, ?_⟩
    by_contra reached
    obtain ⟨t, reached⟩ := Option.ne_none_iff_exists'.mp reached
    exact straight (circles_of_long reached (Nat.lt_succ_self _))
  classical
  cases first : Nat.find broken with
  | zero =>
      have none_left := Nat.find_spec broken
      rw [first] at none_left
      cases none_left
  | succ steps =>
      obtain ⟨last, reached⟩ : ∃ last, store.after? steps s = some last :=
        Option.ne_none_iff_exists'.mp (Nat.find_min broken (by omega))
      have beyond : store.next? last = none := by
        have none_left := Nat.find_spec broken
        rw [first, after?_add, reached, Option.bind_some] at none_left
        simpa [after?] using none_left
      refine ⟨steps, ?_, last, reached, beyond⟩
      by_contra long
      exact straight (circles_of_long reached (Nat.lt_of_not_le long))

namespace Stops

variable {steps hops : Nat}

theorem zero_iff : store.Stops s 0 last ↔ s = last ∧ store.next? last = none := by
  constructor
  · rintro ⟨reached, stops⟩
    exact ⟨Option.some.inj reached, stops⟩
  · rintro ⟨rfl, stops⟩
    exact ⟨rfl, stops⟩

theorem succ_iff : store.Stops s (steps + 1) last ↔
    ∃ next, store.next? s = some next ∧ store.Stops next steps last := by
  constructor
  · rintro ⟨reached, stops⟩
    obtain ⟨next, one, reached⟩ := Option.bind_eq_some_iff.mp reached
    exact ⟨next, one, reached, stops⟩
  · rintro ⟨next, one, reached, stops⟩
    exact ⟨by rw [after?, one, Option.bind_some, reached], stops⟩

theorem resolveWithin (stops : store.Stops s steps last) (enough : steps ≤ hops) :
    store.resolveWithin hops s = last := by
  induction steps generalizing s hops with
  | zero =>
      obtain ⟨rfl, stops⟩ := zero_iff.mp stops
      cases hops with
      | zero => rfl
      | succ hops =>
          rw [SchemaStore.resolveWithin]
          split
          next next one => cases stops.symm.trans one
          next => rfl
  | succ steps ih =>
      obtain ⟨next, one, onward⟩ := succ_iff.mp stops
      obtain ⟨hops, rfl⟩ : ∃ rest, hops = rest + 1 := ⟨hops - 1, by omega⟩
      rw [SchemaStore.resolveWithin]
      split
      next found one' =>
        cases one.symm.trans one'
        exact ih onward (by omega)
      next none_left => cases one.symm.trans none_left

theorem not_circles (stops : store.Stops s steps last) : ¬ store.Circles s := by
  intro circles
  obtain ⟨t, beyond⟩ := circles.goes_on (steps + 1)
  rw [after?_add, stops.reached, Option.bind_some] at beyond
  simp [after?, stops.ends] at beyond

end Stops

theorem followWithin_of_next (hops : Nat) (reference : s.rules.reference = some name)
    (found : store.definition? name = some next) : store.followWithin (hops + 1) s =
      ((store.followWithin hops next).1 ++ [s], (store.followWithin hops next).2) := by
  conv_lhs => unfold followWithin
  simp [reference, found]

theorem followWithin_of_stop (hops : Nat) (stops : store.next? s = none) :
    store.followWithin hops s = ([s], s.rules.reference) := by
  unfold followWithin
  cases reference : s.rules.reference with
  | none => rfl
  | some name =>
      have unknown : store.definition? name = none := by simpa [next?, reference] using stops
      simp [unknown]

theorem next?_eq_some (one : store.next? s = some next) :
    ∃ name, s.rules.reference = some name ∧ store.definition? name = some next :=
  Option.bind_eq_some_iff.mp one

/-- Where a chain stops, more references than it has make no difference. -/
theorem Stops.followWithin {steps hops : Nat} (stops : store.Stops s steps last)
    (enough : steps ≤ hops) : store.followWithin hops s = store.followWithin steps s := by
  induction steps generalizing s hops with
  | zero =>
      obtain ⟨rfl, stops⟩ := zero_iff.mp stops
      rw [followWithin_of_stop hops stops, followWithin_of_stop 0 stops]
  | succ steps ih =>
      obtain ⟨next, one, onward⟩ := succ_iff.mp stops
      obtain ⟨name, reference, found⟩ := next?_eq_some one
      obtain ⟨hops, rfl⟩ : ∃ rest, hops = rest + 1 := ⟨hops - 1, by omega⟩
      rw [followWithin_of_next hops reference found, followWithin_of_next steps reference found,
        ih onward (by omega)]

/-- What is left of a chain that is followed as far as one may is the reference of the schema
there. -/
theorem followWithin_left {hops : Nat} (reached : store.after? hops s = some t) :
    (store.followWithin hops s).2 = t.rules.reference := by
  induction hops generalizing s with
  | zero =>
      cases Option.some.inj reached
      unfold SchemaStore.followWithin
      cases t.rules.reference <;> rfl
  | succ hops ih =>
      obtain ⟨next, one, reached⟩ := Option.bind_eq_some_iff.mp reached
      obtain ⟨name, reference, found⟩ := next?_eq_some one
      rw [followWithin_of_next hops reference found]
      exact ih reached

/-- A chain in a circle is broken off at a name. -/
theorem Circles.follow_left (circles : store.Circles s) :
    ∃ target, (store.follow s).2 = some target := by
  obtain ⟨t, reached⟩ := circles.goes_on (store.hopLimit + 1)
  obtain ⟨u, before⟩ := after?_of_le reached (Nat.le_succ _)
  rw [after?_add, before, Option.bind_some] at reached
  obtain ⟨next, one, -⟩ := Option.bind_eq_some_iff.mp reached
  obtain ⟨target, reference, -⟩ := next?_eq_some one
  exact ⟨target, (followWithin_left before).trans reference⟩

theorem follow_of_next (straight : ¬ store.Circles s) (reference : s.rules.reference = some name)
    (found : store.definition? name = some next) :
    store.follow s = ((store.follow next).1 ++ [s], (store.follow next).2) := by
  have one : store.next? s = some next := by simp [next?, reference, found]
  obtain ⟨steps, short, last, stops⟩ :=
    stops_of_not_circles (mt (circles_of_next one).mpr straight)
  rw [follow, hopLimit, followWithin_of_next _ reference found, stops.followWithin short, follow,
    hopLimit, stops.followWithin (Nat.le_succ_of_le short)]

theorem follow_of_stop (stops : store.next? s = none) :
    store.follow s = ([s], s.rules.reference) :=
  followWithin_of_stop _ stops

/-- Off a circle the count of a lookup lets every chain reach its end. -/
theorem leads_resolved (straight : ¬ store.Circles s) :
    store.Leads s (store.resolved s) ∧ store.next? (store.resolved s) = none := by
  obtain ⟨steps, short, last, stops⟩ := stops_of_not_circles straight
  rw [resolved, stops.resolveWithin short]
  exact ⟨⟨steps, stops.reached⟩, stops.ends⟩

end SchemaStore
end AgentManifest
