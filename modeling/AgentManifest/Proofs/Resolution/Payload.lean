import AgentManifest.Proofs.Outcome
import AgentManifest.Proofs.Validation.Quiet
import AgentManifest.Resolution.Join

/-! When a payload is acceptable to a type of tools, and what is said of it otherwise. `Takes` and
`Refuses` are stated from the schema of the type and the record it is read as; accepting a payload
decides between the two. -/

namespace AgentManifest.Resolution

variable {schemas : ResourceSchemas} {t : ToolType} {place : FieldPath} {payload : Members}
  {resource : ToolResource} {found : List Violation}

/-- A payload that meets the schema of the type and is read as a resource of the type; that for an
analyst names one semantic source. -/
inductive Takes (schemas : ResourceSchemas) (payload : Members) :
    ToolType → ToolResource → Prop where
  | analyst {v : Json} {r : AnalystResource}
      (met : schemas.analyst.validate (.object payload) = .ok v)
      (decoded : AnalystResource.read v = .ok r)
      (oneSource : r.semanticView.isSome ≠ r.semanticModelFile.isSome) :
      Takes schemas payload .analyst (.analyst r)
  | search {v : Json} {r : SearchResource}
      (met : schemas.search.validate (.object payload) = .ok v)
      (decoded : SearchResource.read v = .ok r) : Takes schemas payload .search (.search r)
  | generic {v : Json} {r : GenericResource}
      (met : schemas.generic.validate (.object payload) = .ok v)
      (decoded : GenericResource.read v = .ok r) : Takes schemas payload .generic (.generic r)

/-- Reads a value as the record of a type of tools, if the type has one. -/
def decode (v : Json) : ToolType → Except Mismatch Unit
  | .analyst => (AnalystResource.read v).map fun _ => ()
  | .search => (SearchResource.read v).map fun _ => ()
  | .generic => (GenericResource.read v).map fun _ => ()
  | .chart => .ok ()

/-- A payload that the schema of the type accepts and the record of the type does not read. -/
def Drifts (schemas : ResourceSchemas) (payload : Members) (t : ToolType) (m : Mismatch) : Prop :=
  ∃ sub v, schemas.ofType? t = some sub ∧ sub.validate (.object payload) = .ok v ∧
    decode v t = .error m

/-- A payload that a type cannot take, with what is reported on it for the entry at a place. -/
inductive Refuses (schemas : ResourceSchemas) (place : FieldPath) (payload : Members) :
    ToolType → List Violation → Prop where
  /-- Tools of the type take no resource. -/
  | noResource {t : ToolType} (none_ : schemas.ofType? t = none) :
      Refuses schemas place payload t
        [⟨place, .notAllowed, s!"{t.name} tools do not take a tool resource"⟩]
  /-- The schema of the type is not met; its violations are placed below the entry. -/
  | unmet {t : ToolType} {sub : SubSchema} {e : ValidationError}
      (called : schemas.ofType? t = some sub) (unmet : sub.validate (.object payload) = .error e) :
      Refuses schemas place payload t (e.violations.map (·.under place))
  /-- The schema is met, but the record is not. -/
  | undecodable {t : ToolType} {m : Mismatch} (drifts : Drifts schemas payload t m) :
      Refuses schemas place payload t [⟨place, .typeMismatch, m.text⟩]
  | twoSources {v : Json} {r : AnalystResource}
      (met : schemas.analyst.validate (.object payload) = .ok v)
      (decoded : AnalystResource.read v = .ok r)
      (both : r.semanticView.isSome = true ∧ r.semanticModelFile.isSome = true) :
      Refuses schemas place payload .analyst
        [⟨place.field "semantic_model_file", .notAllowed,
          "semantic_view and semantic_model_file are mutually exclusive"⟩]
  | noSource {v : Json} {r : AnalystResource}
      (met : schemas.analyst.validate (.object payload) = .ok v)
      (decoded : AnalystResource.read v = .ok r)
      (neither : r.semanticView = none ∧ r.semanticModelFile = none) :
      Refuses schemas place payload .analyst
        [⟨place.field "semantic_view", .missingField,
          "one of semantic_view or semantic_model_file is required"⟩]

theorem withOneSource_eq_ok {r r' : AnalystResource} :
    withOneSource r = .ok r' ↔ r.semanticView.isSome ≠ r.semanticModelFile.isSome ∧ r = r' := by
  cases view : r.semanticView <;> cases file : r.semanticModelFile <;>
    simp [withOneSource, view, file]

/-- What accepting a payload comes to, apart from what is logged. -/
theorem accept_result : (accept schemas t place payload).result =
    match schemas.ofType? t with
    | none => .error [(PayloadFault.noResourceTaken t).violation place]
    | some sub =>
      match sub.validate (.object payload) with
      | .error e => .error (e.violations.map (·.under place))
      | .ok v => (readPayload t v).mapError fun fault => [fault.violation place] := by
  rw [accept]
  cases called : schemas.ofType? t with
  | none => rfl
  | some sub =>
      cases verdict : sub.violations (.object payload) with
      | nil =>
          have met := SubSchema.validate_eq_ok_iff.mpr ⟨verdict, rfl⟩
          simp only [verdict, met]
          cases readPayload t (.object payload) <;> rfl
      | cons first rest =>
          have broken : sub.violations (.object payload) ≠ [] := by simp [verdict]
          have unmet := SubSchema.validate_eq_error_iff.mpr ⟨broken, rfl⟩
          simp only [verdict, unmet]

theorem accept_of_takes (takes : Takes schemas payload t resource) :
    (accept schemas t place payload).result = .ok resource := by
  rw [accept_result]
  cases takes with
  | analyst met decoded oneSource =>
      have sourced := withOneSource_eq_ok.mpr ⟨oneSource, rfl⟩
      simp [ResourceSchemas.ofType?, met, readPayload, decoded, sourced]
  | search met decoded | generic met decoded =>
      simp [ResourceSchemas.ofType?, met, readPayload, decoded]

theorem takes_of_accept (accepted : (accept schemas t place payload).result = .ok resource) :
    Takes schemas payload t resource := by
  rw [accept_result] at accepted
  cases t with
  | analyst =>
      simp only [ResourceSchemas.ofType?] at accepted
      split at accepted
      · cases accepted
      next v met =>
        simp only [readPayload, mapError_eq_ok] at accepted
        split at accepted
        next r decoded =>
          obtain ⟨r', sourced, rfl⟩ := map_eq_ok.mp accepted
          obtain ⟨oneSource, rfl⟩ := withOneSource_eq_ok.mp sourced
          exact .analyst met decoded oneSource
        next => cases accepted
  | search =>
      simp only [ResourceSchemas.ofType?] at accepted
      split at accepted
      · cases accepted
      next v met =>
        simp only [readPayload, mapError_eq_ok, map_eq_ok] at accepted
        obtain ⟨r, decoded, rfl⟩ := accepted
        exact .search met decoded
  | generic =>
      simp only [ResourceSchemas.ofType?] at accepted
      split at accepted
      · cases accepted
      next v met =>
        simp only [readPayload, mapError_eq_ok, map_eq_ok] at accepted
        obtain ⟨r, decoded, rfl⟩ := accepted
        exact .generic met decoded
  | chart => cases accepted

/-- A payload that a type with a schema does not read is either no record of the type, or one for
an analyst with another number of sources. -/
theorem readPayload_eq_error {sub : SubSchema} {v : Json} {fault : PayloadFault}
    (called : schemas.ofType? t = some sub) (refused : readPayload t v = .error fault) :
    (∃ m, fault = .unreadable m ∧ decode v t = .error m) ∨
      ∃ r, t = .analyst ∧ AnalystResource.read v = .ok r ∧ withOneSource r = .error fault := by
  cases t with
  | analyst =>
      simp only [readPayload] at refused
      split at refused
      next r decoded =>
        rw [map_eq_error] at refused
        exact .inr ⟨r, rfl, decoded, refused⟩
      next m decoded =>
        cases refused
        exact .inl ⟨m, rfl, by rw [decode, decoded]; rfl⟩
  | search =>
      rw [readPayload, mapError_eq_error] at refused
      obtain ⟨m, decoded, rfl⟩ := refused
      rw [map_eq_error] at decoded
      exact .inl ⟨m, rfl, by rw [decode, decoded]; rfl⟩
  | generic =>
      rw [readPayload, mapError_eq_error] at refused
      obtain ⟨m, decoded, rfl⟩ := refused
      rw [map_eq_error] at decoded
      exact .inl ⟨m, rfl, by rw [decode, decoded]; rfl⟩
  | chart => cases called

theorem refuses_of_readPayload {sub : SubSchema} {v : Json} {fault : PayloadFault}
    (called : schemas.ofType? t = some sub) (met : sub.validate (.object payload) = .ok v)
    (refused : readPayload t v = .error fault) :
    Refuses schemas place payload t [fault.violation place] := by
  rcases readPayload_eq_error called refused with ⟨m, rfl, decoded⟩ | ⟨r, rfl, decoded, sources⟩
  · exact .undecodable ⟨sub, v, called, met, decoded⟩
  · cases called
    cases view : r.semanticView <;> cases file : r.semanticModelFile <;>
      simp only [withOneSource, view, file, reduceCtorEq, Except.error.injEq] at sources
    · subst sources
      exact .noSource met decoded ⟨view, file⟩
    · subst sources
      exact .twoSources met decoded (by simp [view, file])

theorem refuses_of_accept (refused : (accept schemas t place payload).result = .error found) :
    Refuses schemas place payload t found := by
  rw [accept_result] at refused
  split at refused
  next none_ =>
    cases refused
    exact .noResource none_
  next sub called =>
    split at refused
    next e unmet =>
      cases refused
      exact .unmet called unmet
    next v met =>
      obtain ⟨fault, decided, rfl⟩ := mapError_eq_error.mp refused
      exact refuses_of_readPayload called met decided

/-- A payload that is refused is taken as no resource. -/
theorem not_takes_of_accept (refused : (accept schemas t place payload).result = .error found) :
    ¬ Takes schemas payload t resource := by
  intro takes
  rw [accept_of_takes takes] at refused
  cases refused

/-- Only a payload that drifts makes more than a warning. -/
theorem warnings_of_accept (agrees : ∀ m, ¬ Drifts schemas payload t m) :
    ∀ line ∈ (accept schemas t place payload).log, line.level = .warning := by
  rw [accept]
  cases called : schemas.ofType? t with
  | none => simp
  | some sub =>
      have notices : ∀ line ∈ (sub.notices (.object payload)).map LogLine.warning,
          line.level = .warning := by
        intro line inside
        obtain ⟨notice, listed, rfl⟩ := List.mem_map.mp inside
        rfl
      cases verdict : sub.violations (.object payload) with
      | cons first rest => simpa only [verdict] using notices
      | nil =>
          have met := SubSchema.validate_eq_ok_iff.mpr ⟨verdict, rfl⟩
          cases decided : readPayload t (.object payload) with
          | ok resource => simpa only [verdict, decided] using notices
          | error fault =>
              have quiet : fault.log = [] := by
                rcases readPayload_eq_error called decided with
                  ⟨m, rfl, decoded⟩ | ⟨r, -, -, sources⟩
                · exact absurd ⟨sub, _, called, met, decoded⟩ (agrees m)
                · cases view : r.semanticView <;> cases file : r.semanticModelFile <;>
                    simp only [withOneSource, view, file, reduceCtorEq, Except.error.injEq]
                      at sources
                  · subst sources
                    rfl
                  · subst sources
                    rfl
              simpa only [verdict, decided, quiet, List.append_nil] using notices

end AgentManifest.Resolution
