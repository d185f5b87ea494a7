import AgentManifest.Proofs.Agent.Restatement
import AgentManifest.Proofs.Build.Agreement
import AgentManifest.Proofs.Resolution.Service
import AgentManifest.Proofs.Validation.Places

/-! Where the violations of a failed build are. A payload is checked without the entry it is taken
from, and its violations are moved to the place of the entry: there they are located in the
document, since the payload holds all members of the entry but its name, which no definition of
payloads asks for. -/

namespace AgentManifest

open SchemaStore

variable {members : Members} {v : Json} {w : Violation}

/-- What stands inside an object that lacks one of its members stands inside the whole object. -/
theorem Json.at?_of_erase {key : String} {step : PathStep} {path : FieldPath}
    (found : (Json.object (Keyed.erase key members)).at? (step :: path) = some v) :
    (Json.object members).at? (step :: path) = some v := by
  cases step with
  | field name =>
      rw [Json.at?, Keyed.get?_erase] at found
      split at found
      · cases found
      · rwa [Json.at?]
  | index i => cases found

theorem Violation.Located.of_erase {key : String}
    (located : w.Located (.object (Keyed.erase key members)))
    (other : w.kind = .missingField → w.path ≠ [.field key]) : w.Located (.object members) := by
  cases located with
  | @absent holder name members' kind path found lacks =>
      cases holder with
      | nil =>
          cases found
          have different : name ≠ key := fun same => other kind (same ▸ path)
          rw [Keyed.get?_erase, if_neg different] at lacks
          exact .absent kind path rfl lacks
      | cons step rest => exact .absent kind path (Json.at?_of_erase found) lacks
  | @member holder name members' v kind path found given =>
      cases holder with
      | nil =>
          cases found
          rw [Keyed.get?_erase] at given
          split at given
          · cases given
          · exact .member kind path rfl given
      | cons step rest => exact .member kind path (Json.at?_of_erase found) given
  | @value v kind found =>
      cases place : w.path with
      | nil =>
          rw [place] at found
          cases found
          refine .value (v := .object members) ?_ (by rw [place]; rfl)
          cases named : w.kind <;> simp [named, ViolationKind.Concerns] at kind ⊢
      | cons step rest =>
          rw [place] at found
          exact .value kind (by rw [place]; exact Json.at?_of_erase found)

/-- A member is only missed if a schema on the chain of references asks for it. -/
theorem SchemaStore.required_of_missing {store : SchemaStore} {s : Schema} {name : String}
    (wellFormed : (Json.object members).WellFormed)
    (found : .violation w ∈ store.findings s .root (.object members))
    (kind : w.kind = .missingField) (path : w.path = [.field name]) :
    ∃ t, store.Leads s t ∧ name ∈ t.rules.required := by
  obtain ⟨t, chain, reported⟩ := violation_mem_findings.mp found
  refine ⟨t, chain, ?_⟩
  rcases mem_keywordReport.mp reported with ⟨b, broken, same⟩ | ⟨-, inner⟩
  · cases same
    cases path
  rcases mem_innerReport_object.mp inner with ⟨missed, listed, same⟩ | ⟨⟨key, v⟩, inside, inner⟩
  · cases same
    cases path
    exact (List.mem_filter.mp listed).1
  unfold memberReport at inner
  split at inner
  · cases inner
  · cases List.mem_singleton.mp inner
    cases kind
  · -- Inside a member the root is no place for a member to be missing.
    obtain ⟨deeper, own, rfl⟩ := violation_mem_findings_under.mp inner
    have located := located_of_findings (wellFormed.of_object _ inside) _ _ own
    have root : deeper.path = [] := by
      have whole : PathStep.field key :: deeper.path = [.field name] := path
      exact (List.cons_eq_cons.mp whole).2
    cases located with
    | absent _ lead _ _ =>
        rw [root] at lead
        simp [FieldPath.field] at lead
    | member other _ _ _ => cases kind.symm.trans other
    | value other _ =>
        have missing : deeper.kind = .missingField := kind
        rw [missing] at other
        cases other

theorem SchemaStore.eq_of_leads {store : SchemaStore} {s t : Schema}
    (alone : s.rules.reference = none) (chain : store.Leads s t) : t = s := by
  obtain ⟨steps, reached⟩ := chain
  cases steps with
  | zero => exact (Option.some.inj reached).symm
  | succ steps => simp [after?, next?, alone] at reached

/-- A builder under whose schemas a place in a payload is one in the document. Documents are objects,
since records are read from arrays as well and have no names there. No definition of payloads asks
for the name of the entry, which payloads are without, and the one for analysts refuses a view that
is null, since that is read as no view at all. -/
structure Builder.KeepsPlaces (b : Builder) : Prop where
  documents : ∀ v, b.agent.violations v = [] → ∃ members, v = .object members
  unnamed : ∀ t sub, b.resources.ofType? t = some sub →
    ∀ s, sub.store.Leads sub.schema s → "name" ∉ s.rules.required
  viewed : ∀ payload, b.resources.analyst.violations (.object payload) = [] →
    Keyed.get? "semantic_view" payload ≠ some .null

theorem AgentSchema.builder_keepsPlaces (policy : MissingResourcePolicy) :
    (builder policy).KeepsPlaces where
  documents v met := by
    have accepted := SubSchema.validate_eq_ok_iff.mpr ⟨met, rfl⟩
    obtain ⟨conforms, -⟩ := conforms_of_validate "CortexAgent" rfl accepted
    obtain ⟨members, rfl, -⟩ := recordOf_of_conforms conforms
    exact ⟨members, rfl⟩
  unnamed t sub called s chain := by
    have alone : sub.schema.rules.reference = none := by
      cases t <;> cases called <;> rfl
    rw [SchemaStore.eq_of_leads alone chain]
    cases policy <;> cases t <;> cases called <;> decide
  viewed payload met given := by
    have accepted := SubSchema.validate_eq_ok_iff.mpr ⟨met, rfl⟩
    obtain ⟨conforms, -⟩ := conforms_of_validate "AnalystToolResource" rfl accepted
    obtain ⟨members, same, record⟩ := recordOf_of_conforms conforms
    cases same
    obtain ⟨content, text, -⟩ := ((record.field rfl given).definition rfl).identifier
    cases text

section

variable {b : Builder} {t : ToolType} {payload : Members} {place : FieldPath}
  {found : List Violation}

/-- What is reported on a refused payload is located in it, and is never that it has no name. -/
theorem Builder.KeepsPlaces.located_of_refuses (keeps : b.KeepsPlaces)
    (wellFormed : (Json.object payload).WellFormed)
    (refused : Resolution.Refuses b.resources place payload t found) :
    ∀ w ∈ found, ∃ own : Violation, w = own.under place ∧ own.Located (.object payload) ∧
      (own.kind = .missingField → own.path ≠ [.field "name"]) := by
  have here : ∀ kind message, ViolationKind.Concerns (.object payload) kind →
      ∃ own : Violation, ⟨place, kind, message⟩ = own.under place ∧
        own.Located (.object payload) ∧
        (own.kind = .missingField → own.path ≠ [.field "name"]) := by
    intro kind message concerned
    refine ⟨⟨[], kind, message⟩, ?_, .value concerned rfl, fun _ => ?_⟩
    · simp [Violation.under, FieldPath.under]
    · simp
  cases refused with
  | noResource none_ => exact List.forall_mem_singleton.mpr (here _ _ trivial)
  | undecodable drifts => exact List.forall_mem_singleton.mpr (here _ _ trivial)
  | @unmet t sub e called unmet =>
      obtain ⟨-, rfl⟩ := SubSchema.validate_eq_error_iff.mp unmet
      intro w inside
      obtain ⟨own, listed, rfl⟩ := List.mem_map.mp inside
      refine ⟨own, rfl, SubSchema.located_of_violations wellFormed listed, fun kind path => ?_⟩
      obtain ⟨_ | _, reported, same⟩ := List.mem_filterMap.mp listed
      · cases same
        obtain ⟨s, chain, asked⟩ := required_of_missing wellFormed reported kind path
        exact keeps.unnamed t sub called s chain asked
      · cases same
  | @twoSources v r met decoded both =>
      obtain ⟨-, rfl⟩ := SubSchema.validate_eq_ok_iff.mp met
      obtain ⟨-, taken⟩ := Reading.record_eq_ok_iff.mp decoded
      simp only [bind_eq_ok, pure_eq_ok, Except.ok.injEq] at taken
      obtain ⟨view, readView, file, readFile, environment, -, rfl⟩ := taken
      obtain ⟨name, rfl⟩ := Option.isSome_iff_exists.mp both.2
      obtain ⟨v, given⟩ := given_of_optionMember readFile
      refine List.forall_mem_singleton.mpr ⟨⟨[.field "semantic_model_file"], .notAllowed, _⟩, rfl,
        .value (v := v) trivial ?_, fun kind => ?_⟩
      · simp [Json.at?, given]
      · cases kind
  | @noSource v r met decoded neither =>
      obtain ⟨quiet, rfl⟩ := SubSchema.validate_eq_ok_iff.mp met
      obtain ⟨-, taken⟩ := Reading.record_eq_ok_iff.mp decoded
      simp only [bind_eq_ok, pure_eq_ok, Except.ok.injEq] at taken
      obtain ⟨view, readView, file, readFile, environment, -, rfl⟩ := taken
      obtain ⟨rfl, -⟩ := neither
      have lacks : Keyed.get? "semantic_view" payload = none := by
        by_contra given
        obtain ⟨v, given⟩ := Option.ne_none_iff_exists'.mp given
        -- A view that is read as none would be null.
        obtain rfl := null_of_optionMember readView given
        exact keeps.viewed payload quiet given
      have place : [PathStep.field "semantic_view"] = FieldPath.root.field "semantic_view" := rfl
      exact List.forall_mem_singleton.mpr ⟨⟨[.field "semantic_view"], .missingField, _⟩, rfl,
        .absent rfl place rfl lacks, fun _ => by decide⟩

end

namespace Resolution

variable {schemas : ResourceSchemas} {policy : MissingResourcePolicy} {tools : List Tool}
  {entries : List ResourceEntry} {e : ResolveError} {name : String} {t : ToolType}
  {found : List Violation}

/-- What is reported on a payload is reported for the entry it is taken from, at its place. -/
theorem refuses_of_invalidPayload (refused : resolve schemas policy tools entries = .error e)
    (inside : .invalidPayload name t found ∈ e.issues) :
    ∃ i entry, entries[i]? = some entry ∧ entry.name = name ∧
      Refuses schemas [.field "tool_resources", .index i] entry.payload t found := by
  have told : e.issues = issues schemas policy tools entries := by
    unfold resolve at refused
    split at refused <;> cases refused
    rfl
  rw [told, issues_eq] at inside
  simp only [List.mem_append, duplicateTools, missingResources, List.mem_filterMap] at inside
  rcases inside with (⟨entry, -, same⟩ | ⟨⟨earlier, entry⟩, listed, raised⟩) | inside
  · split at same <;> cases same
  · have issue : EntryIssue schemas tools (earlier, entry)
        (verdict schemas tools (earlier, entry)).issue? := entryIssue_of_verdict _
    rw [raised] at issue
    cases issue with
    | invalid first known unacceptable reported =>
        obtain ⟨i, inside, same⟩ := List.mem_mapIdx.mp listed
        cases same
        refine ⟨i, entries[i], List.getElem?_eq_getElem inside, rfl, ?_⟩
        have position : (entries.take i).length = i := by
          rw [List.length_take]
          omega
        rwa [position] at reported
  · cases policy with
    | strict =>
        obtain ⟨entry, -, same⟩ := List.mem_filterMap.mp inside
        split at same <;> cases same
    | lenient => cases inside

end Resolution

section

variable {b : Builder} {overrides : Overrides} {filename : String} {bytes : List UInt8}

/-- A build fails because the document cannot be read, or for its tree. -/
theorem Builder.build_eq_error {e : BuildError}
    (refused : (b.build overrides filename bytes).result = .error e) :
    (∃ unread, Document.read filename bytes = .error unread ∧ e = .parse unread) ∨
      ∃ tree, Document.read filename bytes = .ok tree ∧
        (b.buildTree (overrides.apply tree)).result = .error e := by
  rw [build] at refused
  split at refused
  next unread read =>
    cases refused
    exact .inl ⟨unread, read, rfl⟩
  next tree read => exact .inr ⟨tree, read, refused⟩

/-- What the tree of a document can fail for comes from the schema, the record or the resources. -/
theorem Builder.buildTree_ne_parse (e : ParseError) :
    (b.buildTree v).result ≠ .error (.parse e) := by
  intro refused
  rw [buildTree] at refused
  split at refused
  · cases refused
  · split at refused
    · cases refused
    · simp only [join] at refused
      split at refused <;> cases refused

theorem Builder.validate_of_buildTree {e : ValidationError}
    (refused : (b.buildTree v).result = .error (.validation e)) : b.agent.validate v = .error e := by
  rw [buildTree] at refused
  split at refused
  next unmet =>
    cases refused
    exact unmet
  · split at refused
    · cases refused
    · simp only [join] at refused
      split at refused <;> cases refused

/-- A build is refused for its resources once the document is accepted and read. -/
theorem Builder.resolve_of_buildTree {e : ResolveError}
    (refused : (b.buildTree v).result = .error (.resolution e)) :
    ∃ w r, b.agent.validate v = .ok w ∧ CreateRequest.read w = .ok r ∧
      Resolution.resolve b.resources b.policy r.tools r.resources = .error e := by
  rw [buildTree] at refused
  cases met : b.agent.validate v with
  | error e => simp [met] at refused
  | ok w =>
      cases read : CreateRequest.read w with
      | error m => simp [met, read] at refused
      | ok r =>
          simp only [met, read, join] at refused
          split at refused
          · cases refused
          next e' resolved =>
            cases refused
            exact ⟨w, r, rfl, read, resolved⟩

end

namespace AgentSchema

variable {name : String} {t : ToolType} {found : List Violation}

/-- Where a violation of a payload is: in the document, within the entry that gives the name. -/
structure InEntry (tree : Json) (name : String) (w : Violation) : Prop where
  located : w.Located tree
  within : ∃ i rest, w.path = .field "tool_resources" :: .index i :: rest ∧
    tree.at? [.field "tool_resources", .index i, .field "name"] = some (.string name)

theorem inEntry_of_buildTree {b : Builder} {e : ResolveError} (keeps : b.KeepsPlaces)
    (wellFormed : v.WellFormed) (refused : (b.buildTree v).result = .error (.resolution e))
    (inside : .invalidPayload name t found ∈ e.issues) : ∀ w ∈ found, InEntry v name w := by
  obtain ⟨w, r, met, read, resolved⟩ := Builder.resolve_of_buildTree refused
  obtain ⟨quiet, rfl⟩ := SubSchema.validate_eq_ok_iff.mp met
  obtain ⟨members, rfl⟩ := keeps.documents _ quiet
  obtain ⟨i, entry, listed, rfl, reported⟩ :=
    Resolution.refuses_of_invalidPayload resolved inside
  obtain ⟨element, placed, readEntry⟩ := CreateRequest.entry_of_read read listed
  obtain ⟨given, rfl, named, kept⟩ := ResourceEntry.read_eq_ok readEntry
  rw [kept] at reported
  intro w reportedOn
  obtain ⟨own, rfl, located, otherwise⟩ :=
    keeps.located_of_refuses (wellFormed.at? placed).erase reported w reportedOn
  refine ⟨(located.of_erase otherwise).under placed, i, own.path, rfl, ?_⟩
  have step := Json.at?_append [.field "tool_resources", .index i] [.field "name"]
    (.object members)
  rw [placed] at step
  simpa [Json.at?, named] using step

/-- What a build reports on payloads is located in the document with its overrides, within the
entries that give the names. -/
theorem inEntry_of_build {b : Builder} {overrides : Overrides} {filename : String}
    {bytes : List UInt8} {e : ResolveError} (keeps : b.KeepsPlaces)
    (refused : (b.build overrides filename bytes).result = .error (.resolution e)) :
    ∃ tree, Document.read filename bytes = .ok tree ∧
      ∀ name t found, .invalidPayload name t found ∈ e.issues →
        ∀ w ∈ found, InEntry (overrides.apply tree) name w := by
  rcases Builder.build_eq_error refused with ⟨_, -, other⟩ | ⟨tree, read, refused⟩
  · cases other
  · exact ⟨tree, read, fun name t found => inEntry_of_buildTree keeps
      (overrides.apply_wellFormed (Document.wellFormed_of_read read)) refused⟩

/-- Every violation that is reported is located in the tree it was found in: those of a check in the
value, whatever the schema, those of a document that does not meet its schema in the document with
its overrides, and those of a payload that is refused in that document as well, within the entry
whose name is reported with them, under all schemas that keep places. Those of the agent schema
do. -/
theorem violations_are_located :
    (∀ (sub : SubSchema) (v : Json), v.WellFormed → ∀ w ∈ sub.violations v, w.Located v) ∧
    (∀ (b : Builder) overrides filename bytes e,
      (b.build overrides filename bytes).result = .error (.validation e) →
        ∃ tree, Document.read filename bytes = .ok tree ∧
          ∀ w ∈ e.violations, w.Located (overrides.apply tree)) ∧
    (∀ (b : Builder) overrides filename bytes e, b.KeepsPlaces →
      (b.build overrides filename bytes).result = .error (.resolution e) →
        ∃ tree, Document.read filename bytes = .ok tree ∧
          ∀ name t found, .invalidPayload name t found ∈ e.issues →
            ∀ w ∈ found, InEntry (overrides.apply tree) name w) ∧
    ∀ policy b, Builder.ofStore store policy = .ok b → b.KeepsPlaces ∧
      ∀ overrides filename bytes e,
        (b.build overrides filename bytes).result = .error (.resolution e) →
          ∃ tree, Document.read filename bytes = .ok tree ∧
            ∀ name t found, .invalidPayload name t found ∈ e.issues →
              ∀ w ∈ found, InEntry (overrides.apply tree) name w := by
  refine ⟨fun sub v wellFormed w => SubSchema.located_of_violations wellFormed, ?_, ?_, ?_⟩
  · intro b overrides filename bytes e refused
    rcases Builder.build_eq_error refused with ⟨_, -, other⟩ | ⟨tree, read, refused⟩
    · cases other
    · refine ⟨tree, read, fun w inside => ?_⟩
      have wellFormed := overrides.apply_wellFormed (Document.wellFormed_of_read read)
      obtain ⟨-, rfl⟩ := SubSchema.validate_eq_error_iff.mp (Builder.validate_of_buildTree refused)
      exact SubSchema.located_of_violations wellFormed inside
  · intro b overrides filename bytes e keeps refused
    exact inEntry_of_build keeps refused
  · intro policy b chosen
    rw [ofStore_eq_builder] at chosen
    cases chosen
    refine ⟨builder_keepsPlaces policy, fun overrides filename bytes e refused => ?_⟩
    exact inEntry_of_build (builder_keepsPlaces policy) refused

instance decidableExistsValidation {e : BuildError} {p : ValidationError → Prop} [DecidablePred p] :
    Decidable (∃ e', e = .validation e' ∧ p e') :=
  match e with
  | .validation e' => decidable_of_iff (p e') (by simp)
  | .parse _ | .decode _ | .resolution _ => isFalse (by simp)

instance decidableExistsResolution {e : BuildError} {p : ResolveError → Prop} [DecidablePred p] :
    Decidable (∃ e', e = .resolution e' ∧ p e') :=
  match e with
  | .resolution e' => decidable_of_iff (p e') (by simp)
  | .parse _ | .validation _ | .decode _ => isFalse (by simp)

/-- A document without a database, whose second entry is for an analyst and names no source. -/
def sourcelessText : String :=
  "\x7b\"tools\":[\x7b\"tool_spec\":"
    ++ "\x7b\"type\":\"cortex_analyst_text_to_sql\",\"name\":\"T\"\x7d\x7d],"
    ++ "\"tool_resources\":[\x7b\"name\":\"B\"\x7d,\x7b\"name\":\"T\"\x7d]\x7d"

def sourcelessBytes : List UInt8 := sourcelessText.toUTF8.toList

def sourcelessTree : Json :=
  .object [
    ("tools", .array [
      .object [("tool_spec", .object [
        ("type", .string "cortex_analyst_text_to_sql"), ("name", .string "T")])]]),
    ("tool_resources", .array [.object [("name", .string "B")], .object [("name", .string "T")]])]

theorem read_sourceless :
    Document.read "a.json" sourcelessBytes = .ok sourcelessTree.canonical :=
  Document.read_chars rfl (spelled_append (spelled_append rfl rfl) rfl) rfl

theorem violations_are_located_sourceless :
    (∃ w ∈ (builder .strict).agent.violations (.object []), w.Located (.object [])) ∧
    (∃ e tree, ((builder .strict).build ⟨none, none, none⟩ "a.json" sourcelessBytes).result =
        .error (.validation e) ∧ Document.read "a.json" sourcelessBytes = .ok tree ∧
      ∃ w ∈ e.violations, w.Located (Overrides.apply ⟨none, none, none⟩ tree)) ∧
    ∃ e tree, ((builder .strict).build ⟨some "D", some "S", some "A"⟩ "a.json"
        sourcelessBytes).result = .error (.resolution e) ∧
      Document.read "a.json" sourcelessBytes = .ok tree ∧
      InEntry (Overrides.apply ⟨some "D", some "S", some "A"⟩ tree) "T"
        ⟨[.field "tool_resources", .index 1, .field "semantic_view"], .missingField,
          "one of semantic_view or semantic_model_file is required"⟩ := by
  obtain ⟨ofChecks, ofDocuments, -, ofPayloads⟩ := violations_are_located
  refine ⟨?_, ?_, ?_⟩
  · have wellFormed : (Json.object []).WellFormed := .object .nil (by simp)
    have found : (builder .strict).agent.violations (.object []) ≠ [] := by decide
    obtain ⟨w, inside⟩ := List.exists_mem_of_ne_nil _ found
    exact ⟨w, inside, ofChecks _ _ wellFormed w inside⟩
  · have fails : ∃ e, ((builder .strict).build ⟨none, none, none⟩ "a.json"
          sourcelessBytes).result = .error e ∧ ∃ e', e = .validation e' ∧ e'.violations ≠ [] := by
      rw [Builder.build, read_sourceless]
      decide
    obtain ⟨_, refused, e, rfl, found⟩ := fails
    obtain ⟨tree, read, located⟩ :=
      ofDocuments (builder .strict) ⟨none, none, none⟩ "a.json" sourcelessBytes e refused
    obtain ⟨w, inside⟩ := List.exists_mem_of_ne_nil _ found
    exact ⟨e, tree, refused, read, w, inside, located w inside⟩
  · have fails : ∃ e, ((builder .strict).build ⟨some "D", some "S", some "A"⟩ "a.json"
          sourcelessBytes).result = .error e ∧ ∃ e', e = .resolution e' ∧
        e'.issues = [.unmatched "B", .invalidPayload "T" .analyst
          [⟨[.field "tool_resources", .index 1, .field "semantic_view"], .missingField,
            "one of semantic_view or semantic_model_file is required"⟩]] := by
      rw [Builder.build, read_sourceless]
      decide
    obtain ⟨_, refused, e, rfl, issues⟩ := fails
    obtain ⟨-, located⟩ := ofPayloads .strict (builder .strict) (ofStore_eq_builder .strict)
    obtain ⟨tree, read, inEntry⟩ :=
      located ⟨some "D", some "S", some "A"⟩ "a.json" sourcelessBytes e refused
    have reported : .invalidPayload "T" .analyst _ ∈ e.issues :=
      issues ▸ List.mem_cons_of_mem _ (List.mem_singleton_self _)
    exact ⟨e, tree, refused, read, inEntry "T" .analyst _ reported _ (List.mem_singleton_self _)⟩

end AgentSchema

end AgentManifest
