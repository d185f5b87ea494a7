import AgentManifest.Build.Builder
import AgentManifest.Proofs.Agent.Delivery
import AgentManifest.Proofs.Agent.Resource
import AgentManifest.Proofs.Document.Reading
import AgentManifest.Proofs.Resolution.Payload

/-! The schema of agent documents and the records agree: what the schema accepts, the records read.
So no document gets as far as being accepted and fails to be read after that. -/

namespace AgentManifest

open SchemaStore

namespace AgentSchema

theorem store_closed : store.Closed where
  root := by
    have checked : Schema.checkReferences store.definitions .root store.root = .ok () := rfl
    exact Schema.closed_of_checkReferences store.root checked
  definitions := by
    have checked : Schema.checkPropertyReferences store.definitions ["$defs"] store.definitions =
        .ok () := rfl
    exact Schema.closed_of_checkPropertyReferences store.definitions checked

/-- The builder that the agent schema gives. -/
def builder (policy : MissingResourcePolicy) : Builder where
  agent := ⟨store, agent, agentPath⟩
  resources := {
    analyst := ⟨store, analystResource, "#/$defs/AnalystToolResource"⟩
    search := ⟨store, searchResource, "#/$defs/SearchToolResource"⟩
    generic := ⟨store, genericResource, "#/$defs/GenericToolResource"⟩ }
  policy

theorem ofStore_eq_builder (policy : MissingResourcePolicy) :
    Builder.ofStore store policy = .ok (builder policy) :=
  rfl

/-- A definition of the agent schema accepts what conforms to it, and gives it back as it is. -/
theorem validate_eq_ok_iff (name : String) {path : String} {s : Schema} {v w : Json}
    (found : store.definition? name = some s) :
    SubSchema.validate ⟨store, s, path⟩ v = .ok w ↔ store.Conforms s v ∧ w = v := by
  rw [SubSchema.validate_eq_ok_iff]
  exact and_congr_left' (quiet_iff_conforms store_closed (store_closed.definition found))

theorem conforms_of_validate (name : String) {path : String} {s : Schema} {v w : Json}
    (found : store.definition? name = some s)
    (accepted : SubSchema.validate ⟨store, s, path⟩ v = .ok w) : store.Conforms s v ∧ w = v :=
  (validate_eq_ok_iff name found).mp accepted

end AgentSchema

/-- What the schemas of a builder accept, its records read. -/
structure Builder.Agrees (b : Builder) : Prop where
  documents : ∀ v w, v.WellFormed → b.agent.validate v = .ok w →
    ∃ r, CreateRequest.read w = .ok r
  analysts : ∀ payload w, (Json.object payload).WellFormed →
    b.resources.analyst.validate (.object payload) = .ok w → ∃ r, AnalystResource.read w = .ok r
  searches : ∀ payload w, (Json.object payload).WellFormed →
    b.resources.search.validate (.object payload) = .ok w → ∃ r, SearchResource.read w = .ok r
  generics : ∀ payload w, (Json.object payload).WellFormed →
    b.resources.generic.validate (.object payload) = .ok w → ∃ r, GenericResource.read w = .ok r

theorem AgentSchema.builder_agrees (policy : MissingResourcePolicy) : (builder policy).Agrees where
  documents v w wellFormed accepted := by
    obtain ⟨conforms, rfl⟩ := conforms_of_validate "CortexAgent" rfl accepted
    obtain ⟨members, r, same, read, keeps⟩ := CreateRequest.read_of_conforms wellFormed conforms
    exact ⟨r, read⟩
  analysts payload w wellFormed accepted := by
    obtain ⟨conforms, rfl⟩ := conforms_of_validate "AnalystToolResource" rfl accepted
    obtain ⟨notNull, r, read, written⟩ := AnalystResource.restored _ wellFormed conforms
    exact ⟨r, read⟩
  searches payload w wellFormed accepted := by
    obtain ⟨conforms, rfl⟩ := conforms_of_validate "SearchToolResource" rfl accepted
    obtain ⟨notNull, r, read, written⟩ := SearchResource.restored _ wellFormed conforms
    exact ⟨r, read⟩
  generics payload w wellFormed accepted := by
    obtain ⟨conforms, rfl⟩ := conforms_of_validate "GenericToolResource" rfl accepted
    obtain ⟨notNull, r, read, written⟩ := GenericResource.restored _ wellFormed conforms
    exact ⟨r, read⟩

namespace Builder.Agrees

variable {b : Builder}

theorem not_drifts {payload : Members} {t : ToolType} {m : Mismatch} (agrees : b.Agrees)
    (wellFormed : (Json.object payload).WellFormed) :
    ¬ Resolution.Drifts b.resources payload t m := by
  rintro ⟨sub, v, called, met, refused⟩
  cases t with
  | analyst =>
      cases called
      obtain ⟨r, read⟩ := agrees.analysts payload v wellFormed met
      simp [Resolution.decode, read] at refused
  | search =>
      cases called
      obtain ⟨r, read⟩ := agrees.searches payload v wellFormed met
      simp [Resolution.decode, read] at refused
  | generic =>
      cases called
      obtain ⟨r, read⟩ := agrees.generics payload v wellFormed met
      simp [Resolution.decode, read] at refused
  | chart => cases called

end Builder.Agrees

namespace Resolution

variable {schemas : ResourceSchemas} {policy : MissingResourcePolicy} {tools : List Tool}
  {entries : List ResourceEntry}

theorem warnings_of_judge {earlier : List String} {position : Nat} {e : ResourceEntry}
    (agrees : ∀ t m, ¬ Drifts schemas e.payload t m) :
    ∀ line ∈ (judge schemas tools earlier position e).log, line.level = .warning := by
  rw [judge]
  split
  · simp
  · split
    · simp
    next t known =>
      dsimp only
      split <;> exact warnings_of_accept (agrees t)

theorem warnings_of_judgeAll {earlier : List String} {position : Nat}
    (agrees : ∀ e ∈ entries, ∀ t m, ¬ Drifts schemas e.payload t m) :
    ∀ judged ∈ judgeAll schemas tools earlier position entries, ∀ line ∈ judged.log,
      line.level = .warning := by
  induction entries generalizing earlier position with
  | nil => simp [judgeAll]
  | cons first rest ih =>
      obtain ⟨agrees_first, agrees_rest⟩ := List.forall_mem_cons.mp agrees
      rw [judgeAll, List.forall_mem_cons]
      exact ⟨warnings_of_judge agrees_first, ih agrees_rest⟩

theorem warnings_of_log (agrees : ∀ e ∈ entries, ∀ t m, ¬ Drifts schemas e.payload t m) :
    ∀ line ∈ log schemas policy tools entries, line.level = .warning := by
  rw [log, List.forall_mem_append]
  constructor
  · intro line inside
    obtain ⟨judged, listed, logged⟩ := List.mem_flatMap.mp inside
    exact warnings_of_judgeAll agrees judged listed line logged
  · cases policy with
    | strict => simp [unservedLog]
    | lenient =>
        intro line inside
        obtain ⟨t, listed, rfl⟩ := List.mem_map.mp inside
        rfl

end Resolution

theorem Builder.join_eq_ok_iff {b : Builder} {r : CreateRequest} {a : Agent} :
    (b.join r).result = .ok a ↔ ∃ resources,
      Resolution.resolve b.resources b.policy r.tools r.resources = .ok resources ∧
        a = .ofRequest r resources := by
  rw [Builder.join]
  cases Resolution.resolve b.resources b.policy r.tools r.resources with
  | error e => simp
  | ok resources => simp [eq_comm]

/-- What a build comes to when it succeeds: the document is accepted, and its request can be
joined. -/
theorem Builder.buildTree_eq_ok_iff {b : Builder} {v : Json} {a : Agent} :
    (b.buildTree v).result = .ok a ↔ b.agent.validate v = .ok v ∧
      ∃ r resources, CreateRequest.read v = .ok r ∧
        Resolution.resolve b.resources b.policy r.tools r.resources = .ok resources ∧
        a = .ofRequest r resources := by
  rw [Builder.buildTree]
  cases met : b.agent.validate v with
  | error e => simp
  | ok w =>
      obtain ⟨-, rfl⟩ := SubSchema.validate_eq_ok_iff.mp met
      cases read : CreateRequest.read w with
      | error m => simp [read]
      | ok r => simpa [read] using Builder.join_eq_ok_iff

theorem AgentSchema.buildTree_eq_ok_iff {policy : MissingResourcePolicy} {v : Json} {a : Agent} :
    ((builder policy).buildTree v).result = .ok a ↔ store.Conforms agent v ∧
      ∃ r resources, CreateRequest.read v = .ok r ∧
        Resolution.resolve (builder policy).resources policy r.tools r.resources = .ok resources ∧
        a = .ofRequest r resources := by
  have accepts : (builder policy).agent.validate v = .ok v ↔ store.Conforms agent v ∧ v = v :=
    validate_eq_ok_iff "CortexAgent" rfl
  rw [Builder.buildTree_eq_ok_iff, accepts, and_iff_left rfl]
  rfl

theorem AgentSchema.payloads_of_accepted {policy : MissingResourcePolicy} {v w : Json}
    {r : CreateRequest} (wellFormed : v.WellFormed)
    (accepted : (builder policy).agent.validate v = .ok w) (read : CreateRequest.read w = .ok r) :
    ∀ e ∈ r.resources, (Json.object e.payload).WellFormed := by
  obtain ⟨conforms, rfl⟩ := conforms_of_validate "CortexAgent" rfl accepted
  obtain ⟨members, r', same, read', keeps⟩ := CreateRequest.read_of_conforms wellFormed conforms
  rw [read'] at read
  cases read
  exact keeps.payloads

theorem AgentSchema.build_never_drifts (policy : MissingResourcePolicy) (overrides : Overrides)
    (filename : String) (bytes : List UInt8) :
    (∀ m, ((builder policy).build overrides filename bytes).result ≠ .error (.decode m)) ∧
      ∀ line ∈ ((builder policy).build overrides filename bytes).log, line.level = .warning := by
  rw [Builder.build]
  split
  · simp
  next v readDocument =>
    have wellFormed : (overrides.apply v).WellFormed :=
      overrides.apply_wellFormed (Document.wellFormed_of_read readDocument)
    have notices : ∀ line ∈ ((builder policy).agent.notices (overrides.apply v)).map
        LogLine.warning, line.level = .warning := by
      intro line inside
      obtain ⟨notice, listed, rfl⟩ := List.mem_map.mp inside
      rfl
    rw [Builder.buildTree]
    split
    · exact ⟨by simp, notices⟩
    next w accepted =>
      obtain ⟨r, read⟩ := (builder_agrees policy).documents _ w wellFormed accepted
      have payloads := payloads_of_accepted wellFormed accepted read
      rw [read]
      refine ⟨fun m => ?_, ?_⟩
      · simp only [Builder.join]
        split <;> simp
      · rw [List.forall_mem_append]
        exact ⟨notices, Resolution.warnings_of_log fun e inside t m =>
          (builder_agrees policy).not_drifts (payloads e inside)⟩

/-- There is a builder for the agent schema, and whatever it accepts it reads: documents as
requests, payloads as resources of their types. So no build fails for a document that is accepted
but not read, no entry of a document is refused for such a payload, and nothing worse than a warning
is logged, since errors are logged for these two cases only. -/
theorem AgentSchema.accepted_documents_are_read (policy : MissingResourcePolicy) :
    ∃ b, Builder.ofStore store policy = .ok b ∧ b.Agrees ∧
      ∀ overrides filename bytes,
        (∀ m, (b.build overrides filename bytes).result ≠ .error (.decode m)) ∧
        (∀ v w r, Document.read filename bytes = .ok v →
          b.agent.validate (overrides.apply v) = .ok w → CreateRequest.read w = .ok r →
            ∀ e ∈ r.resources, ∀ t m, ¬ Resolution.Drifts b.resources e.payload t m) ∧
        ∀ line ∈ (b.build overrides filename bytes).log, line.level = .warning := by
  refine ⟨builder policy, ofStore_eq_builder policy, builder_agrees policy, ?_⟩
  intro overrides filename bytes
  obtain ⟨never, warnings⟩ := build_never_drifts policy overrides filename bytes
  refine ⟨never, ?_, warnings⟩
  intro v w r readDocument accepted read e inside t m
  have wellFormed := overrides.apply_wellFormed (Document.wellFormed_of_read readDocument)
  exact (builder_agrees policy).not_drifts (payloads_of_accepted wellFormed accepted read e inside)

end AgentManifest
