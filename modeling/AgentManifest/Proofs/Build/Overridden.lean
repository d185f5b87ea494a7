import AgentManifest.Proofs.Agent.Restatement
import AgentManifest.Proofs.Build.RequestBody

/-! Overridden members do not show. What a build comes to depends on the document with the overrides
in place, so two documents that differ only where they are overridden come to the same, whatever
stands there, and an agent has the place and the name that the overrides give. -/

namespace AgentManifest

namespace Overrides

variable {o : Overrides} {members members' : Members} {key other : String} {value : Option String}

/-- The text that overrides put under a key. -/
def given? (o : Overrides) (key : String) : Option String :=
  if key = "database_name" then o.database
  else if key = "schema_name" then o.schema
  else if key = "name" then o.name
  else .none

/-- Members that differ at most where they are overridden. -/
def Agree (o : Overrides) (members members' : Members) : Prop :=
  ∀ key, o.given? key = .none → Keyed.get? key members = Keyed.get? key members'

theorem get?_set : Keyed.get? other (set key value members) =
    if other = key then (value.map Json.string).or (Keyed.get? other members)
    else Keyed.get? other members := by
  cases value with
  | none => simp [set]
  | some text => simp [set]

theorem ordered_set (ordered : Keyed.Ordered members) : Keyed.Ordered (set key value members) := by
  cases value with
  | none => exact ordered
  | some text => exact ordered.insert

/-- What an object has under overrides: what they give, and what it has itself where they give
nothing. -/
theorem exists_apply (o : Overrides) (ordered : Keyed.Ordered members) :
    ∃ placed, o.apply (.object members) = .object placed ∧ Keyed.Ordered placed ∧
      ∀ key, Keyed.get? key placed =
        ((o.given? key).map Json.string).or (Keyed.get? key members) := by
  refine ⟨_, rfl, ordered_set (ordered_set (ordered_set ordered)), fun key => ?_⟩
  rw [get?_set, get?_set, get?_set, given?]
  by_cases database : key = "database_name"
  · subst database
    simp
  · by_cases schema : key = "schema_name"
    · subst schema
      simp
    · by_cases name : key = "name"
      · subst name
        simp
      · simp [database, schema, name]

theorem apply_eq_of_agree (ordered : Keyed.Ordered members) (ordered' : Keyed.Ordered members')
    (agree : o.Agree members members') :
    o.apply (.object members) = o.apply (.object members') := by
  obtain ⟨placed, applied, placedOrdered, given⟩ := o.exists_apply ordered
  obtain ⟨placed', applied', placedOrdered', given'⟩ := o.exists_apply ordered'
  rw [applied, applied', placedOrdered.ext placedOrdered' fun key => ?_]
  rw [given, given']
  cases said : o.given? key with
  | none => rw [agree key said]
  | some text => rfl

theorem apply_of_not_object {v : Json} (other : ∀ members, v ≠ .object members) :
    o.apply v = v := by
  cases v with
  | object members => exact absurd rfl (other members)
  | _ => rfl

end Overrides

namespace Builder

variable {b : Builder} {o : Overrides} {filename : String} {bytes : List UInt8} {v : Json}
  {a : Agent} {members : Members}

theorem build_of_read (read : Document.read filename bytes = .ok v) :
    b.build o filename bytes = b.buildTree (o.apply v) := by
  rw [build, read]

/-- An agent has the place and the name of its document under the overrides. -/
theorem identity_of_build (ordered : Keyed.Ordered members)
    (built : (b.buildTree (o.apply (.object members))).result = .ok a) :
    (∀ text ∈ o.database, a.database = text) ∧ (∀ text ∈ o.schema, a.schema = text) ∧
      ∀ text ∈ o.name, a.name = text := by
  obtain ⟨-, r, resources, read, -, rfl⟩ := buildTree_eq_ok_iff.mp built
  obtain ⟨placed, applied, -, given⟩ := o.exists_apply ordered
  rw [applied] at read
  obtain ⟨database, schema, name⟩ := CreateRequest.identity_of_read read
  -- What is read under a key that is overridden is the text of the override.
  have kept : ∀ {key content}, Keyed.get? key placed = some (.string content) →
      ∀ text ∈ o.given? key, content = text := by
    intro key content found text said
    rw [given, Option.mem_def.mp said] at found
    simpa using found.symm
  exact ⟨kept database, kept schema, kept name⟩

end Builder

theorem AgentSchema.refused_of_not_object {policy : MissingResourcePolicy} {v : Json}
    (other : ∀ members, v ≠ .object members) :
    ∃ e, ((builder policy).buildTree v).result = .error (.validation e) := by
  unfold Builder.buildTree
  cases met : (builder policy).agent.validate v with
  | error e => exact ⟨e, rfl⟩
  | ok w =>
      obtain ⟨conforms, rfl⟩ := conforms_of_validate "CortexAgent" rfl met
      obtain ⟨members, same, -⟩ := recordOf_of_conforms conforms
      exact absurd same (other members)

/-- Overridden members do not show. Under the same overrides two documents that are objects and
agree on all other members come to the same agent or the same failure, with the same log, whatever
they have where they are overridden, and an agent has the overrides' texts as they are given. On a
document that is no object overrides have no effect, and the agent schema refuses it. -/
theorem Builder.overridden_members_never_show (b : Builder) (o : Overrides) :
    (∀ filename filename' bytes bytes' members members',
      Document.read filename bytes = .ok (.object members) →
      Document.read filename' bytes' = .ok (.object members') → o.Agree members members' →
        b.build o filename bytes = b.build o filename' bytes') ∧
    (∀ filename bytes members a, Document.read filename bytes = .ok (.object members) →
      (b.build o filename bytes).result = .ok a →
        (∀ text ∈ o.database, a.database = text) ∧ (∀ text ∈ o.schema, a.schema = text) ∧
          ∀ text ∈ o.name, a.name = text) ∧
    ∀ filename bytes v, Document.read filename bytes = .ok v → (∀ members, v ≠ .object members) →
      b.build o filename bytes = b.build .none filename bytes ∧
      ∀ policy, Builder.ofStore AgentSchema.store policy = .ok b →
        ∃ e, (b.build o filename bytes).result = .error (.validation e) := by
  refine ⟨?same, ?identity, ?others⟩
  case same =>
    intro filename filename' bytes bytes' members members' read read' agree
    rw [build_of_read read, build_of_read read', Overrides.apply_eq_of_agree
      (Document.wellFormed_of_read read).ordered (Document.wellFormed_of_read read').ordered agree]
  case identity =>
    intro filename bytes members a read built
    rw [build_of_read read] at built
    exact identity_of_build (Document.wellFormed_of_read read).ordered built
  case others =>
    intro filename bytes v read other
    rw [build_of_read read, build_of_read read, Overrides.apply_of_not_object other,
      Overrides.apply_of_not_object other]
    refine ⟨rfl, fun policy chosen => ?_⟩
    rw [AgentSchema.ofStore_eq_builder] at chosen
    cases chosen
    exact AgentSchema.refused_of_not_object other

/-- The document that leaves its place and name to the overrides, with what no agent could have in
their stead. -/
def misnamedText : String :=
  "\x7b\"comment\":\"\",\"database_name\":null,\"name\":7,\"profile\":\x7b\x7d,"
    ++ "\"schema_name\":[\"S\"],\"tools\":[]\x7d"

def misnamedBytes : List UInt8 := misnamedText.toUTF8.toList

theorem read_misnamed : Document.read "b.json" misnamedBytes = .ok (.object [
    ("comment", .string ""), ("database_name", .null), ("name", .number (.integer 7)),
    ("profile", .object []), ("schema_name", .array [.string "S"]), ("tools", .array [])]) :=
  Document.read_chars (v := .object [("comment", .string ""), ("database_name", .null),
    ("name", .number (.integer 7)), ("profile", .object []), ("schema_name", .array [.string "S"]),
    ("tools", .array [])]) rfl (spelled_append rfl rfl) rfl

theorem read_emptyList : Document.read "c.json" "[]".toUTF8.toList = .ok (.array []) :=
  Document.read_chars (v := .array []) rfl rfl rfl

theorem Builder.overridden_members_never_show_misnamed :
    (AgentSchema.builder .strict).build ⟨some "D", some "S", some "A"⟩ "a.json"
        AgentSchema.unnamedBytes =
      (AgentSchema.builder .strict).build ⟨some "D", some "S", some "A"⟩ "b.json" misnamedBytes ∧
    (∃ a, ((AgentSchema.builder .strict).build ⟨some "D", some "S", some "A"⟩ "b.json"
        misnamedBytes).result = .ok a ∧ a.database = "D" ∧ a.schema = "S" ∧ a.name = "A") ∧
    ∃ e, ((AgentSchema.builder .strict).build ⟨some "D", some "S", some "A"⟩ "c.json"
      "[]".toUTF8.toList).result = .error (.validation e) := by
  obtain ⟨same, identity, others⟩ := overridden_members_never_show (AgentSchema.builder .strict)
    ⟨some "D", some "S", some "A"⟩
  refine ⟨same _ _ _ _ _ _ AgentSchema.read_unnamed read_misnamed fun key free => ?_, ?_, ?_⟩
  · have other : key ≠ "database_name" ∧ key ≠ "schema_name" ∧ key ≠ "name" := by
      refine ⟨?_, ?_, ?_⟩ <;> rintro rfl <;> simp [Overrides.given?] at free
    simp [other]
  · have succeeds : ∃ a, ((AgentSchema.builder .strict).build ⟨some "D", some "S", some "A"⟩
        "b.json" misnamedBytes).result = .ok a := by
      rw [build, read_misnamed]
      decide
    obtain ⟨a, built⟩ := succeeds
    obtain ⟨database, schema, name⟩ := identity _ _ _ a read_misnamed built
    exact ⟨a, built, database _ rfl, schema _ rfl, name _ rfl⟩
  · have list : ∀ members, Json.array [] ≠ .object members := by
      intro members same
      cases same
    exact (others _ _ _ read_emptyList list).2 .strict (AgentSchema.ofStore_eq_builder .strict)

end AgentManifest
