import AgentManifest.Proofs.Delivery.Apart
import AgentManifest.Proofs.Keyed.Order

/-! What calls leave in the claims. A file is claimed before its directory is made and before it is
written, and a call that fails at one of the two keeps it. So a file belongs to the first call that
asks for it, whatever becomes of the call, and whoever asks later is refused in the name of an agent
that may never have been written. -/

namespace AgentManifest
namespace DirectorySink

variable {s : DirectorySink} {a b : Agent} {p q : Parcel} {claims claims' : Claims}
  {w w' : Workspace} {emission : Emission} {chain : ErrorChain} {path : String}

/-- A call from its start to its end, in memory. -/
def emitIn (s : DirectorySink) (a : Agent) (claims : Claims) (w : Workspace) :
    (Emission × Claims) × Workspace :=
  (((s.sink (m := StateM Workspace)).emit a).run claims).run w

/-- A call is its three turns, and what it answers is what the last one comes to. -/
theorem emitIn_eq_goOnIn (s : DirectorySink) (a : Agent) (claims : Claims) (w : Workspace) :
    let first := s.goOnIn a .called claims w
    let second := s.goOnIn a first.1.1 first.1.2 first.2
    let third := s.goOnIn a second.1.1 second.1.2 second.2
    let whole := s.emitIn a claims w
    ((third.1.1.emission?, third.1.2), third.2) = ((some whole.1.1, whole.1.2), whole.2) :=
  congrArg (fun step => (step.run claims).run w) (emit_eq_goOn (m := StateM Workspace) s a)

/-- A call that has answered takes no more turns. -/
theorem goOnIn_answered {stage : EmitStage} (answered : stage.emission? = some emission) :
    s.goOnIn a stage claims w = ((stage, claims), w) := by
  cases stage with
  | called | claimed | prepared => cases answered
  | delivered | refused | unwritten => rfl

theorem emitIn_of_turns {first second third : EmitStage} {claims₁ claims₂ claims₃ : Claims}
    {w₁ w₂ w₃ : Workspace} (one : s.goOnIn a .called claims w = ((first, claims₁), w₁))
    (two : s.goOnIn a first claims₁ w₁ = ((second, claims₂), w₂))
    (three : s.goOnIn a second claims₂ w₂ = ((third, claims₃), w₃))
    (answered : third.emission? = some emission) :
    s.emitIn a claims w = ((emission, claims₃), w₃) := by
  have turns := emitIn_eq_goOnIn s a claims w
  simp only [one, two, three, answered] at turns
  obtain ⟨answer, kept⟩ := Prod.mk.inj turns
  obtain ⟨same, left⟩ := Prod.mk.inj answer
  exact Prod.ext (Prod.ext (Option.some.inj same).symm left.symm) kept.symm

theorem emitIn_refused (refused : s.goOnIn a .called claims w = ((.refused chain, claims'), w')) :
    s.emitIn a claims w = ((.failed chain, claims'), w') :=
  emitIn_of_turns refused (goOnIn_answered rfl) (goOnIn_answered rfl) rfl

theorem emitIn_unrendered {e : RenderError} (failed : s.form.parcel s.mode a = .error e) :
    s.emitIn a claims w = ((.failed e.chain, claims), w) :=
  emitIn_refused (goOnIn_unrendered failed)

theorem emitIn_owned {owner : String} (rendered : s.form.parcel s.mode a = .ok p)
    (owned : claims.owner? (p.pathIn s.root) = some owner) :
    s.emitIn a claims w =
      ((.failed ⟨[Collision.text ⟨p.agent, p.pathIn s.root, owner⟩]⟩, claims), w) := by
  refine emitIn_refused ?_
  rw [goOnIn_called rendered, owned]

section

variable {made : FileTree}

theorem goOnIn_free (rendered : s.form.parcel s.mode a = .ok p)
    (free : claims.owner? (p.pathIn s.root) = none) :
    s.goOnIn a .called claims w = ((.claimed p, (p.pathIn s.root, p.agent) :: claims), w) := by
  rw [goOnIn_called rendered, free]

theorem emitIn_unprepared {e : FileFault} (rendered : s.form.parcel s.mode a = .ok p)
    (free : claims.owner? (p.pathIn s.root) = none)
    (failed : w.files.createDirectories s.root = (.error e, made)) :
    s.emitIn a claims w =
      ((.failed ⟨[s!"creating output directory {s.root}", e.text]⟩,
        (p.pathIn s.root, p.agent) :: claims), { w with files := made }) := by
  have second : s.goOnIn a (.claimed p) ((p.pathIn s.root, p.agent) :: claims) w =
      ((.unwritten p ⟨[s!"creating output directory {s.root}", e.text]⟩,
        (p.pathIn s.root, p.agent) :: claims), { w with files := made }) := by
    rw [goOnIn_claimed, failed]
  exact emitIn_of_turns (goOnIn_free rendered free) second (goOnIn_answered rfl) rfl

theorem emitIn_prepared (rendered : s.form.parcel s.mode a = .ok p)
    (free : claims.owner? (p.pathIn s.root) = none)
    (prepared : w.files.createDirectories s.root = (.ok (), made)) :
    s.emitIn a claims w =
      match made.write (p.pathIn s.root) p.text.toUTF8.toList with
      | .ok written =>
        ((.delivered ⟨p.agent, p.pathIn s.root⟩, (p.pathIn s.root, p.agent) :: claims),
          { w with files := written })
      | .error e =>
        ((.failed ⟨[s!"writing {p.pathIn s.root}", e.text]⟩,
          (p.pathIn s.root, p.agent) :: claims), { w with files := made }) := by
  have second : s.goOnIn a (.claimed p) ((p.pathIn s.root, p.agent) :: claims) w =
      ((.prepared p, (p.pathIn s.root, p.agent) :: claims), { w with files := made }) := by
    rw [goOnIn_claimed, prepared]
  cases outcome : made.write (p.pathIn s.root) p.text.toUTF8.toList with
  | ok written =>
      have third : s.goOnIn a (.prepared p) ((p.pathIn s.root, p.agent) :: claims)
          { w with files := made } = ((.delivered p ⟨p.agent, p.pathIn s.root⟩,
            (p.pathIn s.root, p.agent) :: claims), { w with files := written }) := by
        rw [goOnIn_prepared, outcome]
      exact emitIn_of_turns (goOnIn_free rendered free) second third rfl
  | error e =>
      have third : s.goOnIn a (.prepared p) ((p.pathIn s.root, p.agent) :: claims)
          { w with files := made } = ((.unwritten p ⟨[s!"writing {p.pathIn s.root}", e.text]⟩,
            (p.pathIn s.root, p.agent) :: claims), { w with files := made }) := by
        rw [goOnIn_prepared, outcome]
      exact emitIn_of_turns (goOnIn_free rendered free) second third rfl

/-- A call that finds its file without an owner has it from then on. If it fails all the same,
nothing but directories has been made. -/
theorem emitIn_free (rendered : s.form.parcel s.mode a = .ok p)
    (free : claims.owner? (p.pathIn s.root) = none) :
    (s.emitIn a claims w).1.2 = (p.pathIn s.root, p.agent) :: claims ∧
      ∀ chain, (s.emitIn a claims w).1.1 = .failed chain →
        (s.emitIn a claims w).2.files = (w.files.createDirectories s.root).2 := by
  cases outcome : w.files.createDirectories s.root with
  | mk result made =>
      cases result with
      | error e =>
          rw [emitIn_unprepared rendered free outcome]
          exact ⟨rfl, fun _ _ => rfl⟩
      | ok =>
          rw [emitIn_prepared rendered free outcome]
          split
          · exact ⟨rfl, nofun⟩
          · exact ⟨rfl, fun _ _ => rfl⟩

end

/-- The agent that is told to own a file if this agent's call is the first to ask for it. -/
def asksFor (s : DirectorySink) (path : String) (a : Agent) : Option String :=
  match s.form.parcel s.mode a with
  | .error _ => none
  | .ok p => if p.pathIn s.root = path then some p.agent else none

/-- The claims after calls that each find a workspace of their own, as it may have been changed
between them. -/
def claimsAfter (s : DirectorySink) (claims : Claims) (calls : List (Agent × Workspace)) : Claims :=
  calls.foldl (fun claims call => (s.emitIn call.1 claims call.2).1.2) claims

theorem owner?_cons {other agent : String} : Claims.owner? ((path, agent) :: claims) other =
    if other = path then some agent else claims.owner? other :=
  Keyed.get?_cons path agent claims

/-- What a call does to the owners of files does not depend on what becomes of it. -/
theorem owner?_emitIn (s : DirectorySink) (a : Agent) (claims : Claims) (w : Workspace)
    (path : String) :
    (s.emitIn a claims w).1.2.owner? path = (claims.owner? path).or (s.asksFor path a) := by
  cases rendered : s.form.parcel s.mode a with
  | error e => simp [emitIn_unrendered rendered, asksFor, rendered]
  | ok p =>
      cases owned : claims.owner? (p.pathIn s.root) with
      | some owner =>
          rw [emitIn_owned rendered owned]
          by_cases same : p.pathIn s.root = path
          · simp [← same, owned]
          · simp [asksFor, rendered, same]
      | none =>
          rw [(emitIn_free rendered owned).1]
          by_cases same : p.pathIn s.root = path
          · simp [asksFor, rendered, owner?_cons, ← same, owned]
          · simp [asksFor, rendered, owner?_cons, same, Ne.symm same]

/-- A file belongs to the first call that asks for it, whatever has become of the call. -/
theorem owner?_claimsAfter (s : DirectorySink) (claims : Claims)
    (calls : List (Agent × Workspace)) (path : String) :
    (s.claimsAfter claims calls).owner? path =
      (claims.owner? path).or (calls.findSome? fun call => s.asksFor path call.1) := by
  induction calls generalizing claims with
  | nil => simp [claimsAfter]
  | cons call rest ih =>
      have onward : s.claimsAfter claims (call :: rest) =
        s.claimsAfter (s.emitIn call.1 claims call.2).1.2 rest := rfl
      rw [onward, ih, owner?_emitIn, Option.or_assoc, List.findSome?_cons]
      cases s.asksFor path call.1 <;> simp

/-- A call that fails leaves the claims as they were exactly if it was refused: the agent has no
text in this form, or its file has an owner already. A call that fails later has made nothing but
directories, and still nobody else can have its file in any later call. -/
theorem failed_calls_keep_files (s : DirectorySink) (a : Agent) (claims : Claims) (w : Workspace)
    (failed : (s.emitIn a claims w).1.1 = .failed chain) :
    ((s.emitIn a claims w).1.2 = claims ↔
      ∀ p, s.form.parcel s.mode a = .ok p → claims.owner? (p.pathIn s.root) ≠ none) ∧
    ∀ p, s.form.parcel s.mode a = .ok p → claims.owner? (p.pathIn s.root) = none →
      (s.emitIn a claims w).2.files = (w.files.createDirectories s.root).2 ∧
      (s.emitIn a claims w).1.2 = (p.pathIn s.root, p.agent) :: claims ∧
      ∀ (later : List (Agent × Workspace)) (b : Agent) (q : Parcel) (w' : Workspace),
        s.form.parcel s.mode b = .ok q → q.pathIn s.root = p.pathIn s.root →
        let claimed := s.claimsAfter claims ((a, w) :: later)
        s.emitIn b claimed w' =
          ((.failed ⟨[Collision.text ⟨q.agent, p.pathIn s.root, p.agent⟩]⟩, claimed), w') := by
  refine ⟨⟨fun same p rendered free => ?_, fun refused => ?_⟩, fun p rendered free => ?_⟩
  · have claimed := (emitIn_free (w := w) rendered free).1
    rw [same] at claimed
    simp at claimed
  · cases rendered : s.form.parcel s.mode a with
    | error e => rw [emitIn_unrendered rendered]
    | ok p =>
        obtain ⟨owner, owned⟩ := Option.ne_none_iff_exists'.mp (refused p rendered)
        rw [emitIn_owned rendered owned]
  · obtain ⟨claimed, made⟩ := emitIn_free (w := w) rendered free
    refine ⟨made chain failed, claimed, fun later b q w' rendered' same => ?_⟩
    have owned : (s.claimsAfter claims ((a, w) :: later)).owner? (q.pathIn s.root) =
        some p.agent := by
      rw [owner?_claimsAfter, same, free]
      simp [asksFor, rendered]
    dsimp only
    rw [emitIn_owned rendered' owned, same]

/-- A workspace with a file where the directory should be. -/
def outIsFile : Workspace := { files := ⟨[(["work"], .directory), (["work", "out"], .file [120])],
  ["work"]⟩ }

/-- The call finds no directory and cannot make it, … -/
theorem emitIn_outIsFile : statementFiles.emitIn (nameOnly "a-b") [] outIsFile =
    ((.failed ⟨["creating output directory out", "File exists (os error 17)"]⟩,
      [("out/d_s_a_b.sql", "D.S.a-b")]), outIsFile) := by
  obtain ⟨p, rendered, agent, path⟩ := parcel_folding "a-b" (by simp)
  have unmade : outIsFile.files.createDirectory false ["out"] = .error .exists := by
    rw [FileTree.createDirectory, FileTree.create, FileTree.placeFor, FileTree.leadsToDirectory]
    simp only [List.getLast?_singleton, List.dropLast_singleton, FileTree.follow]
    rfl
  have failed : outIsFile.files.createDirectories statementFiles.root =
      (.error .exists, outIsFile.files) := by
    rw [statementFiles, createDirectories_out, unmade]
  rw [emitIn_unprepared rendered rfl failed, agent, path]
  rfl

/-- … and when the directory can be made no other agent gets the file, which nobody has written. -/
theorem failed_call_blocks_file :
    statementFiles.emitIn (nameOnly "a-b") [] outIsFile =
      ((.failed ⟨["creating output directory out", "File exists (os error 17)"]⟩,
        [("out/d_s_a_b.sql", "D.S.a-b")]), outIsFile) ∧
    statementFiles.emitIn (nameOnly "a_b") [("out/d_s_a_b.sql", "D.S.a-b")] {} =
      ((.failed ⟨["D.S.a_b would overwrite out/d_s_a_b.sql, already written for D.S.a-b"]⟩,
        [("out/d_s_a_b.sql", "D.S.a-b")]), {}) := by
  refine ⟨emitIn_outIsFile, ?_⟩
  obtain ⟨q, rendered, agent, path⟩ := parcel_folding "a_b" (by simp)
  have owned : Claims.owner? [("out/d_s_a_b.sql", "D.S.a-b")] (q.pathIn statementFiles.root) =
      some "D.S.a-b" := by
    rw [path]
    rfl
  rw [emitIn_owned rendered owned, agent, path]
  rfl

theorem failed_calls_keep_files_folding :
    (statementFiles.emitIn (nameOnly "a-b") [] outIsFile).1.1 =
      .failed ⟨["creating output directory out", "File exists (os error 17)"]⟩ ∧
    (statementFiles.emitIn (nameOnly "a-b") [] outIsFile).1.2 ≠ [] := by
  have failed : (statementFiles.emitIn (nameOnly "a-b") [] outIsFile).1.1 =
      .failed ⟨["creating output directory out", "File exists (os error 17)"]⟩ := by
    rw [emitIn_outIsFile]
  obtain ⟨p, rendered, -⟩ := parcel_folding "a-b" (by simp)
  obtain ⟨unchanged, -⟩ :=
    failed_calls_keep_files statementFiles (nameOnly "a-b") [] outIsFile failed
  exact ⟨failed, fun same => unchanged.mp same p rendered rfl⟩

end DirectorySink
end AgentManifest
