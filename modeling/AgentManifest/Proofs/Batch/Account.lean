import AgentManifest.Proofs.Batch.Recorded
import AgentManifest.Proofs.Outcome

/-! Runs account for every document: whatever the order in which tasks end or give up, a run that
stops has ended them all, and its report says of each file, in the order of the files, what became
of its own task. The run that works on one task after the other is one of these, and the reads and
the calls of the sink that are recorded of it are those of its tasks. -/

namespace AgentManifest

namespace BatchContext

variable {m : Type → Type} {c : BatchContext m} {files : List String} {r : BatchRun}

namespace Sound

theorem room (sound : c.Sound files r) : r.batch.inFlight.length ≤ max 1 c.limit := by
  rw [Nat.max_comm, ← sound.batch.limit_eq]
  exact sound.batch.room

theorem ended_of_stopped (sound : c.Sound files r) (stopped : r.Stopped) :
    (r.batch.ended.map (·.1)).Perm (Batch.tasks files) :=
  sound.batch.ended_of_still stopped.1 stopped.2

theorem complete (sound : c.Sound files r) (stopped : r.Stopped) :
    r.batch.ended.length = files.length := by
  simpa [Batch.tasks] using (sound.ended_of_stopped stopped).length_eq

theorem reported {index : Nat} {document : DocumentReport} (sound : c.Sound files r)
    (stopped : r.Stopped)
    (given : (r.batch.report c.label files).documents[index]? = some document) :
    ∃ how, (⟨index, document.path⟩, how) ∈ r.batch.ended ∧
      c.stage? document.path (r.answersTo ⟨index, document.path⟩) = some (.finished how) ∧
      (∀ outcome, how = .completed outcome → document.outcome = outcome) ∧
      ((∃ reason, document.outcome = .error (.aborted reason)) ↔
        ∃ message, how = .gaveUp message) := by
  obtain ⟨listed, outcome⟩ := Batch.getElem?_report given
  have ended := (sound.ended_of_stopped stopped).mem_iff.mpr listed
  obtain ⟨⟨_, how⟩, ended, rfl⟩ := List.mem_map.mp ended
  have finished := sound.finished _ how ended
  have endOf := sound.batch.endOf?_eq ended
  refine ⟨how, ended, finished, ?_⟩
  rw [outcome]
  cases how with
  | completed result =>
      have clean := known_of_stage? finished
      rw [Batch.outcomeOf_completed endOf]
      refine ⟨fun _ same => TaskEnd.completed.inj same, ?_, nofun⟩
      rintro ⟨reason, rfl⟩
      exact absurd rfl (clean reason)
  | gaveUp message =>
      rw [Batch.outcomeOf_gaveUp endOf]
      exact ⟨nofun, fun _ => ⟨message, rfl⟩, fun _ => ⟨_, rfl⟩⟩

end Sound

variable [Monad m] [LawfulMonad m] [MonadWorkspace m]

end BatchContext
end AgentManifest
