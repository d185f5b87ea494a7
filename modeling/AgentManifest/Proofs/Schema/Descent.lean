import AgentManifest.Proofs.Keyed.Order
import AgentManifest.Proofs.Schema.References

/-! Choosing parts of a schema step by step. A longer path chooses a part of what a shorter one
chooses, and a property that all schemas of a store hand on to what stands inside them holds of
whatever a path chooses. -/

namespace AgentManifest
namespace SchemaStore

variable {store : SchemaStore} {s t : Schema} {sub part : SubSchema} {path longer : String}

/-- A property of the root and the definitions of a store that schemas hand on to what stands inside
them. -/
structure Inherited (store : SchemaStore) (P : Schema → Prop) : Prop where
  root : P store.root
  definition : ∀ {name s}, store.definition? name = some s → P s
  items : ∀ {s inner}, P s → s.items = some inner → P inner
  property : ∀ {s key inner}, P s → Keyed.get? key s.properties = some inner → P inner
  additional : ∀ {s extra}, P s → s.additional = .schema extra → P extra

namespace Inherited

variable {P : Schema → Prop}

theorem resolveWithin {hops : Nat} (inherited : store.Inherited P) (holds : P s) :
    P (store.resolveWithin hops s) := by
  induction hops generalizing s with
  | zero => exact holds
  | succ hops ih =>
      rw [SchemaStore.resolveWithin]
      split
      next next found =>
        obtain ⟨name, -, found⟩ := Option.bind_eq_some_iff.mp found
        exact ih (inherited.definition found)
      next => exact holds

theorem resolved (inherited : store.Inherited P) (holds : P s) : P (store.resolved s) :=
  inherited.resolveWithin holds

theorem leads (inherited : store.Inherited P) (holds : P s) (chain : store.Leads s t) : P t := by
  obtain ⟨steps, reached⟩ := chain
  induction steps generalizing s with
  | zero => exact Option.some.inj reached ▸ holds
  | succ steps ih =>
      obtain ⟨next, one, reached⟩ := Option.bind_eq_some_iff.mp reached
      obtain ⟨name, -, found⟩ := Option.bind_eq_some_iff.mp one
      exact ih (inherited.definition found) reached

theorem descend {segments : List String} (inherited : store.Inherited P) (holds : P s)
    (reached : store.descend? s segments = some t) : P t := by
  fun_induction descend? store s segments with
  | case1 s => exact (Option.some.inj reached) ▸ holds
  | case2 s name rest ih =>
      obtain ⟨property, listed, reached⟩ := Option.bind_eq_some_iff.mp reached
      exact ih property (inherited.property (inherited.resolved holds) listed) reached
  | case3 s rest ih =>
      obtain ⟨items, given, reached⟩ := Option.bind_eq_some_iff.mp reached
      exact ih items (inherited.items (inherited.resolved holds) given) reached
  | case4 s rest extra given ih =>
      exact ih (inherited.additional (inherited.resolved holds) given) reached
  | case5 => cases reached
  | case6 => cases reached
  | case7 => cases reached

theorem select {segments : List String} (inherited : store.Inherited P)
    (selected : store.select? segments = some s) : P s := by
  unfold select? at selected
  split at selected
  next name rest =>
    obtain ⟨d, found, reached⟩ := Option.bind_eq_some_iff.mp selected
    exact inherited.descend (inherited.definition found) reached
  next => exact inherited.descend inherited.root selected

end Inherited

/-- The schemas of a store: its root, its definitions and all that stand inside them. -/
inductive Node (store : SchemaStore) : Schema → Prop where
  | root : Node store store.root
  | definition {name : String} {s : Schema} (found : store.definition? name = some s) : Node store s
  | items {s inner : Schema} (holder : Node store s) (given : s.items = some inner) :
      Node store inner
  | property {s inner : Schema} {key : String} (holder : Node store s)
      (listed : Keyed.get? key s.properties = some inner) : Node store inner
  | additional {s extra : Schema} (holder : Node store s)
      (given : s.additional = .schema extra) : Node store extra

theorem Node.induction_on {P : Schema → Prop} (node : store.Node s)
    (inherited : store.Inherited P) : P s := by
  induction node with
  | root => exact inherited.root
  | definition found => exact inherited.definition found
  | items _ given ih => exact inherited.items ih given
  | property _ listed ih => exact inherited.property ih listed
  | additional _ given ih => exact inherited.additional ih given

theorem lookup_eq_ok (chosen : store.lookup path = .ok sub) :
    sub.store = store ∧ store.select? (segments path) = some sub.schema := by
  unfold lookup at chosen
  split at chosen
  next s selected =>
    cases chosen
    exact ⟨rfl, selected⟩
  next => cases chosen

theorem Inherited.lookup {P : Schema → Prop} (inherited : store.Inherited P)
    (chosen : store.lookup path = .ok sub) : sub.store = store ∧ P sub.schema := by
  obtain ⟨same, selected⟩ := lookup_eq_ok chosen
  exact ⟨same, inherited.select selected⟩

theorem descend?_append {first second : List String} (reached : store.descend? s first = some t) :
    store.descend? s (first ++ second) = store.descend? t second := by
  fun_induction descend? store s first with
  | case1 s => rw [Option.some.inj reached, List.nil_append]
  | case2 s name rest ih =>
      obtain ⟨property, listed, reached⟩ := Option.bind_eq_some_iff.mp reached
      simp only [List.cons_append, descend?, listed]
      exact ih property reached
  | case3 s rest ih =>
      obtain ⟨items, given, reached⟩ := Option.bind_eq_some_iff.mp reached
      simp only [List.cons_append, descend?, given]
      exact ih items reached
  | case4 s rest extra given ih =>
      simp only [List.cons_append, descend?, given]
      exact ih reached
  | case5 => cases reached
  | case6 => cases reached
  | case7 => cases reached

/-- Definitions are only chosen from the root, so a path goes on from where it is as long as it does
not ask for one. -/
theorem select?_append {first second : List String} (selected : store.select? first = some s)
    (inner : second.head? ≠ some "$defs") :
    store.select? (first ++ second) = store.descend? s second := by
  unfold select? at selected
  split at selected
  next name rest =>
    obtain ⟨d, found, reached⟩ := Option.bind_eq_some_iff.mp selected
    simp only [List.cons_append, select?, found]
    exact descend?_append reached
  next other =>
    rw [← descend?_append selected, select?]
    rintro name rest whole
    rcases first with _ | ⟨head, _ | ⟨following, rest'⟩⟩
    · exact inner (by rw [← List.nil_append second, whole, List.head?_cons])
    · obtain ⟨rfl, -⟩ := List.cons_eq_cons.mp whole
      simp [descend?] at selected
    · obtain ⟨rfl, -⟩ := List.cons_eq_cons.mp whole
      exact other following rest' rfl

/-- What a longer path chooses is a part of what the shorter one chooses. -/
theorem descend?_of_lookup {more : List String} (chosen : store.lookup path = .ok sub)
    (further : segments longer = segments path ++ more) (inner : more.head? ≠ some "$defs")
    (chosen' : store.lookup longer = .ok part) :
    store.descend? sub.schema more = some part.schema := by
  rw [← select?_append (lookup_eq_ok chosen).2 inner, ← further]
  exact (lookup_eq_ok chosen').2

/-- A path goes on by one segment when a slash and a name are put behind it. -/
theorem segments_step (path : String) {step : String} (named : step ≠ "")
    (whole : '/' ∉ step.toList) : segments (path ++ "/" ++ step) = segments path ++ [step] := by
  have marked : withoutRootMark (path ++ "/" ++ step) =
      withoutRootMark path ++ '/' :: step.toList := by
    unfold withoutRootMark
    rw [String.toList_append, String.toList_append]
    cases text : path.toList with
    | nil => rfl
    | cons c rest =>
        by_cases mark : c = '#'
        · simp [mark]
        · split <;> simp_all
  have filled : step.toList ≠ [] := by simpa using named
  rw [segments, marked, Text.splitAt_append, Text.splitAt_of_not_mem whole, List.filter_append,
    List.map_append]
  simp [segments, filled]

theorem descend?_properties {key : String} :
    store.descend? s ["properties", key] = Keyed.get? key (store.resolved s).properties := by
  simp [descend?]

theorem descend?_items : store.descend? s ["items"] = (store.resolved s).items := by
  simp [descend?]

theorem descend?_additional : store.descend? s ["additionalProperties"] = some t ↔
    (store.resolved s).additional = .schema t := by
  simp only [descend?]
  split
  next extra given => simp [given]
  next given => simp [given]
  next given => simp [given]

end SchemaStore
end AgentManifest
