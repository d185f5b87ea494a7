/-! Steps that may fail, one after the other: the whole succeeds when every step does. -/

namespace AgentManifest

variable {ε ε' α β : Type}

@[simp] theorem bind_eq_ok {step : Except ε α} {next : α → Except ε β} {b : β} :
    (step >>= next) = .ok b ↔ ∃ a, step = .ok a ∧ next a = .ok b := by
  cases step with
  | error e => simp [bind, Except.bind]
  | ok a => simp [bind, Except.bind]

theorem bind_eq_error {step : Except ε α} {next : α → Except ε β} {e : ε} :
    (step >>= next) = .error e ↔ step = .error e ∨ ∃ a, step = .ok a ∧ next a = .error e := by
  cases step with
  | error e => simp [bind, Except.bind]
  | ok a => simp [bind, Except.bind]

theorem bind_pure_eq_error {step : Except ε α} {f : α → β} {e : ε} :
    (step >>= fun a => pure (f a)) = .error e ↔ step = .error e := by
  cases step with
  | error e' => simp [bind, Except.bind]
  | ok a => simp [bind, Except.bind, pure, Except.pure]

@[simp] theorem exists_eq_ok_unit {step : Except ε Unit} :
    (∃ done, step = .ok done) ↔ step = .ok () :=
  ⟨fun ⟨(), succeeded⟩ => succeeded, fun succeeded => ⟨(), succeeded⟩⟩

@[simp] theorem ok_bind {a : α} {next : α → Except ε β} : (Except.ok a >>= next) = next a := rfl

@[simp] theorem pure_eq_ok {a : α} : (pure a : Except ε α) = .ok a := rfl

instance decidableSucceeds {step : Except ε α} : Decidable (∃ a, step = .ok a) :=
  match step with
  | .ok a => isTrue ⟨a, rfl⟩
  | .error _ => isFalse (by simp)

instance decidableExistsOk {step : Except ε α} {p : α → Prop} [DecidablePred p] :
    Decidable (∃ a, step = .ok a ∧ p a) :=
  match step with
  | .ok a => decidable_of_iff (p a) (by simp)
  | .error _ => isFalse (by simp)

instance decidableExistsError {step : Except ε α} {p : ε → Prop} [DecidablePred p] :
    Decidable (∃ e, step = .error e ∧ p e) :=
  match step with
  | .ok _ => isFalse (by simp)
  | .error e => decidable_of_iff (p e) (by simp)

@[simp] theorem ok_map {f : α → β} {a : α} : (Except.ok a : Except ε α).map f = .ok (f a) := rfl

@[simp] theorem error_map {f : α → β} {e : ε} : (Except.error e).map f = .error e := rfl

@[simp] theorem ok_mapError {f : ε → ε'} {a : α} :
    (Except.ok a : Except ε α).mapError f = .ok a := rfl

@[simp] theorem error_mapError {f : ε → ε'} {e : ε} :
    (Except.error e : Except ε α).mapError f = .error (f e) := rfl

theorem map_eq_ok {step : Except ε α} {f : α → β} {b : β} :
    step.map f = .ok b ↔ ∃ a, step = .ok a ∧ f a = b := by
  cases step with
  | error e => simp
  | ok a => simp

theorem map_eq_error {step : Except ε α} {f : α → β} {e : ε} :
    step.map f = .error e ↔ step = .error e := by
  cases step with
  | error e' => simp
  | ok a => simp

theorem mapError_eq_ok {step : Except ε α} {f : ε → ε'} {a : α} :
    step.mapError f = .ok a ↔ step = .ok a := by
  cases step with
  | error e => simp
  | ok b => simp

theorem mapError_eq_error {step : Except ε α} {f : ε → ε'} {e' : ε'} :
    step.mapError f = .error e' ↔ ∃ e, step = .error e ∧ f e = e' := by
  cases step with
  | error e => simp
  | ok a => simp

theorem forM_eq_ok {check : α → Except ε Unit} {items : List α} :
    items.forM check = .ok () ↔ ∀ item ∈ items, check item = .ok () := by
  induction items with
  | nil => simp
  | cons first rest ih =>
      rw [List.forM, bind_eq_ok, List.forall_mem_cons, ← ih]
      exact ⟨fun ⟨(), head, tail⟩ => ⟨head, tail⟩, fun ⟨head, tail⟩ => ⟨(), head, tail⟩⟩

/-- A step that fails, if it does, with an error of a sort. -/
def FailsWith (P : ε → Prop) (step : Except ε α) : Prop := ∀ e, step = .error e → P e

section

variable {P : ε → Prop} {step : Except ε α} {next : α → Except ε β} {e : ε}

@[simp] theorem failsWith_ok {a : α} : FailsWith P (.ok a) := nofun

@[simp] theorem failsWith_pure {a : α} : FailsWith P (pure a : Except ε α) := nofun

@[simp] theorem failsWith_error : FailsWith P (.error e : Except ε α) ↔ P e :=
  ⟨fun fails => fails e rfl, fun sort _ same => Except.error.inj same ▸ sort⟩

@[simp] theorem failsWith_map {f : α → β} : FailsWith P (step.map f) ↔ FailsWith P step := by
  simp [FailsWith, map_eq_error]

theorem FailsWith.bind (first : FailsWith P step) (second : ∀ a, FailsWith P (next a)) :
    FailsWith P (step >>= next) := by
  cases step with
  | error e => exact failsWith_error.mpr (first e rfl)
  | ok a => exact second a

theorem failsWith_forM {check : α → Except ε PUnit} {items : List α}
    (each : ∀ item ∈ items, FailsWith P (check item)) : FailsWith P (items.forM check) := by
  induction items with
  | nil => exact failsWith_pure
  | cons first rest ih =>
      rw [List.forall_mem_cons] at each
      exact each.1.bind fun _ => ih each.2

theorem failsWith_mapM {read : α → Except ε β} {items : List α}
    (each : ∀ item ∈ items, FailsWith P (read item)) : FailsWith P (items.mapM read) := by
  induction items with
  | nil => exact failsWith_pure
  | cons first rest ih =>
      rw [List.forall_mem_cons] at each
      rw [List.mapM_cons]
      exact each.1.bind fun _ => (ih each.2).bind fun _ => failsWith_pure

theorem failsWith_foldlM {step : β → α → Except ε β} {items : List α} {b : β}
    (each : ∀ b, ∀ item ∈ items, FailsWith P (step b item)) :
    FailsWith P (items.foldlM step b) := by
  induction items generalizing b with
  | nil => exact failsWith_pure
  | cons first rest ih =>
      rw [List.foldlM_cons]
      exact (each b first List.mem_cons_self).bind fun b =>
        ih fun b item inside => each b item (List.mem_cons_of_mem _ inside)

end

theorem exists_of_mem_mapM {read : α → Option β} {items : List α} {results : List β}
    (succeeded : items.mapM read = some results) :
    ∀ result ∈ results, ∃ item ∈ items, read item = some result := by
  induction items generalizing results with
  | nil =>
      cases succeeded
      simp
  | cons first rest ih =>
      simp only [List.mapM_cons, Option.bind_eq_bind, Option.bind_eq_some_iff,
        Option.pure_def, Option.some.injEq] at succeeded
      obtain ⟨head, here, tail, behind, rfl⟩ := succeeded
      intro result mem
      obtain rfl | mem := List.mem_cons.mp mem
      · exact ⟨first, List.mem_cons_self, here⟩
      · obtain ⟨item, listed, read⟩ := ih behind result mem
        exact ⟨item, List.mem_cons_of_mem _ listed, read⟩

end AgentManifest
