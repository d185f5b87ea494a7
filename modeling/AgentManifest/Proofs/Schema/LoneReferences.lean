import AgentManifest.Proofs.Schema.Descent
import AgentManifest.Validation.Findings

/-! Schemas that refer to a definition and say nothing else. Where all references are of this kind,
a schema at the end of a chain of references speaks for the whole chain; and since a schema with a
reference holds no others, a path only goes through schemas whose chain has an end. -/

namespace AgentManifest

namespace Schema

/-- The schema that refers to a definition and says nothing else. -/
def referring (name : String) : Schema := { any with rules := { reference := some name } }

/-- Every schema with a reference, however deep it stands, says nothing else. -/
inductive LoneReferences : Schema → Prop where
  | intro {s : Schema}
      (reference : ∀ name, s.rules.reference = some name → s = referring name)
      (items : ∀ inner, s.items = some inner → LoneReferences inner)
      (properties : ∀ member ∈ s.properties, LoneReferences member.2)
      (additional : ∀ extra, s.additional = .schema extra → LoneReferences extra) :
      LoneReferences s

theorem loneReferences_referring (name : String) : (referring name).LoneReferences := by
  constructor <;> simp [referring, any]

theorem LoneReferences.eq_referring {s : Schema} {name : String} (lone : s.LoneReferences)
    (reference : s.rules.reference = some name) : s = referring name := by
  obtain ⟨alone, -, -, -⟩ := lone
  exact alone name reference

end Schema

namespace SchemaStore

open Schema (referring)

variable {store : SchemaStore} {s t : Schema} {path : FieldPath}

/-- All references of a store stand alone. -/
structure LoneReferences (store : SchemaStore) : Prop where
  root : store.root.LoneReferences
  definitions : ∀ entry ∈ store.definitions, entry.2.LoneReferences

theorem LoneReferences.inherited (lone : store.LoneReferences) :
    store.Inherited Schema.LoneReferences where
  root := lone.root
  definition found := lone.definitions _ (Keyed.mem_of_get? found)
  items := fun ⟨_, items, _, _⟩ given => items _ given
  property := fun ⟨_, _, properties, _⟩ listed => properties _ (Keyed.mem_of_get? listed)
  additional := fun ⟨_, _, _, additional⟩ given => additional _ given

/-- What a path goes through has no reference left: one that has is alone and leads nowhere. -/
theorem LoneReferences.ends_of_descend {step : String} {rest : List String}
    (lone : store.LoneReferences) (inside : s.LoneReferences)
    (reached : store.descend? s (step :: rest) = some t) :
    (store.resolved s).rules.reference = none := by
  cases left : (store.resolved s).rules.reference with
  | none => rfl
  | some name =>
      have alone := (lone.inherited.resolved inside).eq_referring left
      unfold descend? at reached
      split at reached
      case h_1 none_left => cases none_left
      all_goals simp [alone, referring, Schema.any] at reached

/-- Where a chain of lone references ends, following it meets its end and schemas that only refer
to others, and breaks off nowhere. -/
theorem followWithin_of_ends {hops more : Nat} (lone : store.LoneReferences)
    (inside : s.LoneReferences) (ends : (store.resolveWithin hops s).rules.reference = none)
    (enough : hops ≤ more) :
    ∃ passed, store.followWithin more s = (store.resolveWithin hops s :: passed, none) ∧
      ∀ t ∈ passed, ∃ name, t = referring name := by
  induction hops generalizing s more with
  | zero =>
      rw [resolveWithin] at ends ⊢
      refine ⟨[], ?_, by simp⟩
      unfold followWithin
      simp [ends]
  | succ hops ih =>
      cases named : s.rules.reference with
      | none =>
          refine ⟨[], ?_, by simp⟩
          unfold followWithin
          simp [resolveWithin, named]
      | some name =>
          cases found : store.definition? name with
          | none => simp [resolveWithin, named, found] at ends
          | some next =>
              obtain ⟨more, rfl⟩ : ∃ rest, more = rest + 1 := ⟨more - 1, by omega⟩
              have onward : store.resolveWithin (hops + 1) s = store.resolveWithin hops next := by
                simp [resolveWithin, named, found]
              rw [onward] at ends ⊢
              obtain ⟨passed, met, refer⟩ :=
                ih (lone.inherited.definition found) ends (by omega : hops ≤ more)
              refine ⟨passed ++ [s], ?_, fun t inside' => ?_⟩
              · unfold followWithin
                simp [named, found, met]
              · rcases List.mem_append.mp inside' with earlier | last
                · exact refer t earlier
                · exact ⟨name, List.mem_singleton.mp last ▸ inside.eq_referring named⟩

/-- Of a chain of lone references only the end has something to report. -/
theorem alongReferences_of_ends {report : Schema → List Finding} (lone : store.LoneReferences)
    (inside : s.LoneReferences) (ends : (store.resolved s).rules.reference = none)
    (silent : ∀ name, report (referring name) = []) :
    store.alongReferences s path report = report (store.resolved s) := by
  obtain ⟨passed, met, refer⟩ :=
    followWithin_of_ends lone inside ends (Nat.le_succ store.definitions.length)
  have followed : store.follow s = (store.resolved s :: passed, none) := met
  have nothing : passed.flatMap report = [] := by
    refine List.flatMap_eq_nil_iff.mpr fun t inside' => ?_
    obtain ⟨name, rfl⟩ := refer t inside'
    exact silent name
  rw [alongReferences, followed]
  simp [nothing]

end SchemaStore
end AgentManifest
