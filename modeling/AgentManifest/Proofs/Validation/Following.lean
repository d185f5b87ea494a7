import AgentManifest.Proofs.Json.Reading
import AgentManifest.Proofs.Schema.Closed
import AgentManifest.Proofs.Validation.Reports

/-! References followed without a count. A check that follows whatever reference there is, however
many it has followed, is a solution of an equation. Where no chain of references goes in a circle
the equation has one solution, and that is the check with a count. -/

namespace AgentManifest

namespace SchemaStore

variable {store : SchemaStore} {s t next : Schema} {path place : FieldPath} {v : Json}
variable {check check' : Check} {target name : String} {report : Schema → List Finding}

/-- What is reported if references are not counted, with the check for the definition that a schema
refers to and for the parts of the value: what the definition reports, and then what the keywords of
the schema do. -/
def uncounted (store : SchemaStore) (check : Check) : Check := fun s path v =>
  (match s.rules.reference with
    | none => []
    | some target =>
      match store.definition? target with
      | some d => check d path v
      | none => [.endlessReference target path]) ++ keywordReport check s path v

theorem alongReferences_of_next (straight : ¬ store.Circles s)
    (reference : s.rules.reference = some name) (found : store.definition? name = some next) :
    store.alongReferences s path report = store.alongReferences next path report ++ report s := by
  rw [alongReferences, follow_of_next straight reference found, alongReferences]
  simp

/-- Where the chain of a schema goes in no circle, the count makes no difference. -/
theorem findings_eq_uncounted (straight : ¬ store.Circles s) (path : FieldPath) (v : Json) :
    store.findings s path v = store.uncounted store.findings s path v := by
  unfold uncounted
  rw [findings_eq]
  cases reference : s.rules.reference with
  | none => simp [alongReferences, follow_of_stop, next?, reference]
  | some target =>
      cases found : store.definition? target with
      | none => simp [alongReferences, follow_of_stop, next?, reference, found]
      | some d =>
          rw [alongReferences_of_next straight reference found, ← findings_eq]
          simp only [found]

theorem keywordReport_congr
    (same : ∀ part, part.Part v → ∀ t path, check t path part = check' t path part) :
    keywordReport check s path v = keywordReport check' s path v := by
  have inner : innerReport check s path v = innerReport check' s path v := by
    cases v with
    | array elements =>
        rw [innerReport, innerReport]
        cases s.items with
        | none => rfl
        | some items =>
            refine List.flatMap_congr fun entry inside => ?_
            exact same _ (.element (List.fst_mem_of_mem_zipIdx inside)) items _
    | object members =>
        rw [innerReport, innerReport]
        congr 1
        refine List.flatMap_congr fun member inside => ?_
        unfold memberReport
        split
        next => rfl
        next => rfl
        next t _ => exact same _ (.member inside) t _
    | null | bool _ | number _ | string _ => rfl
  rw [keywordReport, keywordReport, inner]

/-- If no chain goes in a circle, a check that does not count is the check: by induction on the
value, and for each value along the chain of the schema. -/
theorem eq_findings_of_uncounted (straight : ∀ s, ¬ store.Circles s)
    (solves : check = store.uncounted check) (v : Json) :
    ∀ s path, check s path v = store.findings s path v := by
  induction v using Json.induction_on_parts with
  | step v ih =>
      have keywords : ∀ s path, keywordReport check s path v
          = keywordReport store.findings s path v := fun s path => keywordReport_congr ih
      have along : ∀ steps s last, store.Stops s steps last → ∀ path,
          check s path v = store.findings s path v := by
        intro steps
        induction steps with
        | zero =>
            intro s last stops path
            obtain ⟨rfl, ends⟩ := Stops.zero_iff.mp stops
            rw [solves, findings_eq_uncounted (straight s), uncounted, uncounted, keywords]
            cases reference : s.rules.reference with
            | none => rfl
            | some target =>
                have unknown : store.definition? target = none := by
                  simpa [next?, reference] using ends
                simp only [unknown]
        | succ steps along =>
            intro s last stops path
            obtain ⟨next, one, onward⟩ := Stops.succ_iff.mp stops
            obtain ⟨name, reference, found⟩ := next?_eq_some one
            rw [solves, findings_eq_uncounted (straight s), uncounted, uncounted, keywords]
            simp only [reference, found]
            rw [along next last onward path]
      intro s path
      obtain ⟨steps, -, last, stops⟩ := stops_of_not_circles (straight s)
      exact along steps s last stops path

/-- No chain at all goes in a circle if none of a definition does. -/
theorem not_circles_of_definitions
    (straight : ∀ {name d}, store.definition? name = some d → ¬ store.Circles d) (s : Schema) :
    ¬ store.Circles s := by
  intro circles
  obtain ⟨next, reached⟩ := circles.goes_on 1
  have one : store.next? s = some next := by simpa [after?] using reached
  obtain ⟨name, -, found⟩ := next?_eq_some one
  exact straight found ((circles_of_next one).mp circles)

/-- A broken chain that the keywords of a schema report is one of a part of the value. -/
theorem part_of_endlessReference {P : Schema → Prop} (inherited : store.Inherited P) (holds : P s)
    (reported : .endlessReference target place ∈ keywordReport check s path v) :
    ∃ t step part, P t ∧ part.Part v ∧
      .endlessReference target place ∈ check t (path ++ [step]) part := by
  rcases mem_keywordReport.mp reported with ⟨b, -, same⟩ | ⟨-, inner⟩
  · cases same
  cases v with
  | array elements =>
      obtain ⟨items, given, i, element, found, inner⟩ := mem_innerReport_array.mp inner
      exact ⟨items, .index i, element, inherited.items holds given,
        .element (List.mem_of_getElem? found), inner⟩
  | object members =>
      rcases mem_innerReport_object.mp inner with ⟨name, -, same⟩ | ⟨⟨key, part⟩, inside, inner⟩
      · cases same
      · unfold memberReport at inner
        split at inner
        next => cases inner
        next => cases List.mem_singleton.mp inner
        next t rule =>
          have holds' : P t := by
            unfold Schema.memberRule at rule
            split at rule
            next listed =>
              cases rule
              exact inherited.property holds listed
            next => exact inherited.additional holds rule
          exact ⟨t, .field key, part, holds', .member inside, inner⟩
  | null | bool _ | number _ | string _ => cases inner

theorem place_of_endlessReference
    (found : .endlessReference target place ∈ store.findings s path v) :
    ∃ inner, place = path ++ inner := by
  rw [findings_lead, List.mem_map] at found
  obtain ⟨_ | ⟨_, inner⟩, -, same⟩ := found
  · cases same
  · cases same
    exact ⟨inner, rfl⟩

/-- A check of a value says of the place of the value itself that a chain is broken off exactly if
that of its schema is. -/
theorem endlessReference_mem_findings :
    .endlessReference target path ∈ store.findings s path v ↔
      (store.follow s).2 = some target := by
  rw [mem_findings]
  constructor
  · rintro (⟨target, left, same⟩ | ⟨t, -, reported⟩)
    · cases same
      exact left
    · have all : store.Inherited fun _ => True := by constructor <;> simp
      obtain ⟨_, step, _, -, -, inner⟩ := part_of_endlessReference all trivial reported
      obtain ⟨rest, longer⟩ := place_of_endlessReference inner
      have lengths := congrArg List.length longer
      simp at lengths
  · intro left
    exact .inl ⟨target, left, rfl⟩

theorem follow_left_of_closed (closed : store.Closed) (inside : s.Closed store.definitions)
    (straight : ¬ store.Circles s) : (store.follow s).2 = none := by
  obtain ⟨steps, short, last, stops⟩ := stops_of_not_circles straight
  induction steps generalizing s with
  | zero =>
      obtain ⟨rfl, ends⟩ := Stops.zero_iff.mp stops
      rw [follow_of_stop ends]
      cases reference : s.rules.reference with
      | none => rfl
      | some name =>
          obtain ⟨d, found, -⟩ := closed.target inside reference
          simp [next?, reference, found] at ends
  | succ steps ih =>
      obtain ⟨next, one, onward⟩ := Stops.succ_iff.mp stops
      obtain ⟨name, reference, found⟩ := next?_eq_some one
      rw [follow_of_next straight reference found]
      exact ih (closed.definition found) (mt (circles_of_next one).mpr straight) (by omega) onward

theorem endlessReference_not_mem_findings (closed : store.Closed)
    (inside : s.Closed store.definitions) (straight : ∀ s, ¬ store.Circles s) :
    .endlessReference target place ∉ store.findings s path v := by
  induction v using Json.induction_on_parts generalizing s path with
  | step v ih =>
      rw [mem_findings, follow_left_of_closed closed inside (straight s)]
      rintro (⟨_, left, -⟩ | ⟨t, leads, reported⟩)
      · cases left
      · obtain ⟨u, step, part, inside', partOf, inner⟩ := part_of_endlessReference closed.inherited
          (closed.inherited.leads inside leads) reported
        exact ih part partOf inside' inner

/-- In a store that a text writes, the counts of references cut off circles and nothing else. A
chain that goes in no circle is followed to its end, by a lookup and by a check, which then remarks
on no reference of the schema; on a circle a check has every schema of the chain report, and remarks
on it. If there are no circles, the check is the one that does not count, and remarks on nothing. -/
theorem only_circles_break_off {text : String} {store : SchemaStore}
    (compiled : SchemaStore.ofText text = .ok store) :
    (∀ s, store.Node s → ¬ store.Circles s →
      store.Leads s (store.resolved s) ∧ (store.resolved s).rules.reference = none ∧
      ∀ path v, store.findings s path v = store.uncounted store.findings s path v ∧
        ∀ target, .endlessReference target path ∉ store.findings s path v) ∧
    (∀ s, store.Node s → store.Circles s →
      ∃ (target : String) (met : List Schema), (∀ t, t ∈ met ↔ store.Leads s t) ∧
        ∀ path v, store.findings s path v = .endlessReference target path ::
          met.flatMap fun t => keywordReport store.findings t path v) ∧
    ((∀ s, store.Node s → ¬ store.Circles s) →
      (∀ check, check = store.uncounted check ↔ check = store.findings) ∧
      ∀ path sub, store.lookup path = .ok sub → ∀ v, sub.notices v = []) := by
  have closed := closed_of_ofText compiled
  refine ⟨?_, ?_, ?_⟩
  · intro s node straight
    have inside := node.induction_on closed.inherited
    obtain ⟨leads, ends⟩ := leads_resolved straight
    refine ⟨leads, ?_, fun path v => ⟨findings_eq_uncounted straight path v, ?_⟩⟩
    · cases reference : (store.resolved s).rules.reference with
      | none => rfl
      | some name =>
          obtain ⟨d, found, -⟩ := closed.target (closed.inherited.resolved inside) reference
          simp [next?, reference, found] at ends
    · intro target
      rw [endlessReference_mem_findings, follow_left_of_closed closed inside straight]
      simp
  · intro s _ circles
    obtain ⟨target, left⟩ := circles.follow_left
    refine ⟨target, (store.follow s).1, fun t => mem_follow_iff, fun path v => ?_⟩
    simp [findings_eq, alongReferences, left]
  · intro straight
    have everywhere := not_circles_of_definitions fun found => straight _ (.definition found)
    refine ⟨fun check => ⟨fun solves => ?_, ?_⟩, fun path sub chosen v => ?_⟩
    · funext s path v
      exact eq_findings_of_uncounted everywhere solves v s path
    · rintro rfl
      funext s path v
      exact findings_eq_uncounted (everywhere s) path v
    · obtain ⟨rfl, inside⟩ := closed.lookup chosen
      refine List.filterMap_eq_nil_iff.mpr fun finding found => ?_
      cases finding with
      | violation w => rfl
      | endlessReference target place =>
          exact absurd found (endlessReference_not_mem_findings closed inside everywhere)

/-- A definition that refers to another one, and two that refer to each other. -/
def mixedText : String :=
  "\x7b\"$defs\": \x7b\"A\": \x7b\"$ref\": \"#/$defs/B\"\x7d,"
    ++ " \"B\": \x7b\"$ref\": \"#/$defs/A\", \"type\": \"object\"\x7d,"
    ++ " \"C\": \x7b\"$ref\": \"#/$defs/D\"\x7d, \"D\": \x7b\"type\": \"string\"\x7d\x7d\x7d"

def mixedTree : Json :=
  .object [("$defs", .object [
    ("A", .object [("$ref", .string "#/$defs/B")]),
    ("B", .object [("$ref", .string "#/$defs/A"), ("type", .string "object")]),
    ("C", .object [("$ref", .string "#/$defs/D")]), ("D", .object [("type", .string "string")])])]

def mixedStore : SchemaStore :=
  ⟨Schema.any,
    [("A", { Schema.any with rules := { reference := some "B" } }),
      ("B", { Schema.any with rules := { reference := some "A", types := some [.object] } }),
      ("C", { Schema.any with rules := { reference := some "D" } }),
      ("D", { Schema.any with rules := { types := some [.string] } })]⟩

/-- A definition whose objects have a member that is held to the definition itself. -/
def nestedText : String :=
  "\x7b\"$ref\":\"#/$defs/T\",\"$defs\":"
    ++ "\x7b\"T\":\x7b\"properties\":\x7b\"below\":\x7b\"$ref\":\"#/$defs/T\"\x7d\x7d\x7d\x7d\x7d"

def nestedStore : SchemaStore :=
  ⟨.referring "T", [("T", { Schema.any with properties := [("below", .referring "T")] })]⟩

def nestedTree : Json :=
  .object [("$ref", .string "#/$defs/T"), ("$defs", .object [
    ("T", .object [("properties", .object [("below", .object [("$ref", .string "#/$defs/T")])])])])]

theorem ofText_nestedText : SchemaStore.ofText nestedText = .ok nestedStore :=
  SchemaStore.ofText_of_parse (Json.parse_chars (v := nestedTree) (spelled_append rfl rfl) rfl)
    ⟨_, rfl, rfl⟩ rfl rfl rfl

/-- One reference leads from the root to the definition, and none from there. -/
theorem not_circles_nested (node : nestedStore.Node s) : ¬ nestedStore.Circles s := by
  have short : nestedStore.Inherited fun s => s = .referring "T" ∨
      s = { Schema.any with properties := [("below", .referring "T")] } := by
    constructor
    case root => exact .inl rfl
    case definition =>
      intro name s found
      obtain ⟨-, rfl⟩ := Prod.mk.inj (List.mem_singleton.mp (Keyed.mem_of_get? found))
      exact .inr rfl
    case items => rintro s inner (rfl | rfl) given <;> cases given
    case property =>
      rintro s key inner (rfl | rfl) listed
      · cases listed
      · obtain ⟨-, rfl⟩ := Prod.mk.inj (List.mem_singleton.mp (Keyed.mem_of_get? listed))
        exact .inl rfl
    case additional => rintro s extra (rfl | rfl) given <;> cases given
  have stops : ∃ steps last, nestedStore.Stops s steps last := by
    rcases node.induction_on short with rfl | rfl
    · exact ⟨1, _, rfl, rfl⟩
    · exact ⟨0, _, rfl, rfl⟩
  obtain ⟨steps, last, stops⟩ := stops
  exact stops.not_circles

set_option maxRecDepth 2000 in
theorem only_circles_break_off_mixed :
    SchemaStore.ofText mixedText = .ok mixedStore ∧
      (∀ c, mixedStore.definition? "C" = some c →
        (mixedStore.resolved c).rules.types = some [.string] ∧
        mixedStore.findings c .root .null =
          mixedStore.uncounted mixedStore.findings c .root .null) ∧
      (∀ a, mixedStore.definition? "A" = some a →
        ∃ target, .endlessReference target .root ∈ mixedStore.findings a .root .null) ∧
      SchemaStore.ofText nestedText = .ok nestedStore ∧
      nestedStore.findings = nestedStore.uncounted nestedStore.findings ∧
      ∀ v, SubSchema.notices ⟨nestedStore, nestedStore.root, "#"⟩ v = [] := by
  have parsed : Json.parse mixedText = .ok mixedTree :=
    Json.parse_chars (v := mixedTree) (spelled_append (spelled_append rfl rfl) rfl) rfl
  have compiled : SchemaStore.ofText mixedText = .ok mixedStore :=
    SchemaStore.ofText_of_parse parsed ⟨_, rfl, rfl⟩ rfl rfl rfl
  obtain ⟨straight, circular, -⟩ := only_circles_break_off compiled
  obtain ⟨-, -, uncounted⟩ := only_circles_break_off ofText_nestedText
  obtain ⟨solution, quiet⟩ := uncounted fun s => not_circles_nested
  refine ⟨compiled, fun c found => ?_, fun a found => ?_, ofText_nestedText, ?_, ?_⟩
  · have stops : ∃ last, mixedStore.Stops c 1 last := by
      cases found
      exact ⟨_, rfl, rfl⟩
    obtain ⟨last, stops⟩ := stops
    refine ⟨?_, ((straight c (.definition found) stops.not_circles).2.2 .root .null).1⟩
    cases found
    rfl
  · have circles : mixedStore.Circles a := by
      cases found
      exact ⟨0, 2, "B", by decide, rfl, rfl⟩
    obtain ⟨target, met, -, reported⟩ := circular a (.definition found) circles
    exact ⟨target, by rw [reported]; exact List.mem_cons_self⟩
  · exact (solution nestedStore.findings).mpr rfl
  · have chosen : nestedStore.lookup "#" = .ok ⟨nestedStore, nestedStore.root, "#"⟩ := rfl
    exact quiet "#" _ chosen

end SchemaStore
end AgentManifest
