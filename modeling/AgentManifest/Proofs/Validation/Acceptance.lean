import AgentManifest.Proofs.Json.Reading
import AgentManifest.Proofs.Validation.Quiet

/-! What the parts of a schema accept, for every schema that can be read: the values that conform,
also where its references lead in a circle. -/

namespace AgentManifest

/-- In a store that a text writes, checking against a schema that a path chooses finds no violation
exactly when the value conforms, which is the greatest relation that holds exactly when all that is
asked holds; and such a value, and no other, is given back, as it is. -/
theorem SubSchema.accepts_iff_conforms {text path : String} {store : SchemaStore} {sub : SubSchema}
    (compiled : SchemaStore.ofText text = .ok store) (chosen : store.lookup path = .ok sub)
    (v : Json) :
    IsGreatest {R : Schema → Json → Prop | ∀ s v, R s v ↔ store.Asks R s v} store.Conforms ∧
      (sub.violations v = [] ↔ store.Conforms sub.schema v) ∧
      ∀ w, sub.validate v = .ok w ↔ store.Conforms sub.schema v ∧ w = v := by
  have closed := SchemaStore.closed_of_ofText compiled
  obtain ⟨rfl, inside⟩ := closed.lookup chosen
  have verdict : sub.violations v = [] ↔ sub.store.Conforms sub.schema v :=
    SchemaStore.quiet_iff_conforms closed inside
  refine ⟨SchemaStore.conforms_isGreatest _, verdict, fun w => ?_⟩
  rw [← verdict]
  exact SubSchema.validate_eq_ok_iff

/-- Two definitions that name each other, of which one asks for objects. -/
def circularText : String :=
  "\x7b\"$defs\": \x7b\"A\": \x7b\"$ref\": \"#/$defs/B\", \"type\": \"object\"\x7d,"
    ++ " \"B\": \x7b\"$ref\": \"#/$defs/A\"\x7d\x7d\x7d"

def circularTree : Json :=
  .object [("$defs", .object [
    ("A", .object [("$ref", .string "#/$defs/B"), ("type", .string "object")]),
    ("B", .object [("$ref", .string "#/$defs/A")])])]

def circularObject : Schema :=
  { Schema.any with rules := { reference := some "B", types := some [.object] } }

def circularOther : Schema := { Schema.any with rules := { reference := some "A" } }

def circularStore : SchemaStore :=
  ⟨Schema.any, [("A", circularObject), ("B", circularOther)]⟩

/-- On the circle an object conforms, since nothing speaks against it, and null does not. -/
theorem SubSchema.accepts_iff_conforms_circular :
    SchemaStore.ofText circularText = .ok circularStore ∧
      circularStore.lookup "#/$defs/B" = .ok ⟨circularStore, circularOther, "#/$defs/B"⟩ ∧
      circularStore.Conforms circularOther (.object []) ∧
      ¬ circularStore.Conforms circularOther .null := by
  have parsed : Json.parse circularText = .ok circularTree.canonical :=
    Json.parse_chars (spelled_append rfl rfl) rfl
  have compiled : SchemaStore.ofText circularText = .ok circularStore :=
    SchemaStore.ofText_of_parse parsed ⟨_, rfl, rfl⟩ rfl rfl rfl
  have chosen : circularStore.lookup "#/$defs/B" =
      .ok ⟨circularStore, circularOther, "#/$defs/B"⟩ := rfl
  refine ⟨compiled, chosen, ?_, ?_⟩
  · exact (SubSchema.accepts_iff_conforms compiled chosen (.object [])).2.1.mp rfl
  · intro conforms
    have quiet := (SubSchema.accepts_iff_conforms compiled chosen .null).2.1.mpr conforms
    cases quiet

end AgentManifest
