import AgentManifest.Proofs.Delivery.Calls
import AgentManifest.Proofs.Delivery.FileNames
import AgentManifest.Proofs.Files.Growth

/-! What holds of the calls of a sink side by side, after whatever turns. Each claimed file is one
that exactly one call has, a call is refused none but claimed files, and what has been written is in
its place as long as the directory had no links; no turn of another call changes that. -/

namespace AgentManifest

variable {s : DirectorySink} {agents : List Agent} {start files files' : FileTree}
  {r : SinkRun} {p q : Parcel} {a : Agent} {claims claims' : Claims} {stage stage' : EmitStage}
  {i j : Nat}

theorem Claims.owner?_eq_none {path : String} :
    claims.owner? path = none ↔ path ∉ claims.map (·.1) := by
  rw [owner?, List.lookup_eq_none_iff]
  constructor
  · intro absent claimed
    obtain ⟨claim, listed, rfl⟩ := List.mem_map.mp claimed
    simpa using absent claim listed
  · intro unclaimed claim listed
    simpa using fun same : path = claim.1 => unclaimed (same ▸ List.mem_map_of_mem listed)

namespace DirectorySink

/-- The file of a parcel is where it belongs, and holds its text. Links that had been in the
directory before can lead elsewhere. -/
def InPlace (s : DirectorySink) (start files : FileTree) (p : Parcel) : Prop :=
  ∃ d, files.directoryAt s.root = .ok d ∧ files.entry? d = some .directory ∧
    (start.NoLinksIn d → files.placeOf (p.pathIn s.root) = .ok (d ++ [p.fileName]) ∧
      files.entry? (d ++ [p.fileName]) = some (.file p.text.toUTF8.toList))

theorem InPlace.madeDirectories (inPlace : s.InPlace start files p)
    (made : files.MadeDirectories files') : s.InPlace start files' p := by
  obtain ⟨d, root, directory, file⟩ := inPlace
  exact ⟨d, made.grown.directoryAt root, made.stays directory, fun noLinks =>
    ⟨made.grown.placeOf (file noLinks).1, made.stays (file noLinks).2⟩⟩

/-- Where a file is put: into the directory, unless its name is a link. -/
theorem written_eq (rooted : files.Rooted) (grown : start.Grown files) (file : FileName q.fileName)
    {content : List UInt8} (written : files.write (q.pathIn s.root) content = .ok files') :
    files.Grown files' ∧ ∃ d, files.directoryAt s.root = .ok d ∧
      files.entry? d = some .directory ∧ (start.NoLinksIn d →
        files.placeOf (q.pathIn s.root) = .ok (d ++ [q.fileName]) ∧
          files' = files.put (d ++ [q.fileName]) (.file content)) := by
  refine ⟨FileTree.grown_of_write rooted written, ?_⟩
  obtain ⟨_, place, -, -, placed, -, rfl⟩ := FileTree.write_eq_ok.mp written
  obtain ⟨d, links, root, directory, -⟩ := FileTree.directoryAt_of_join file placed
  refine ⟨d, root, directory, fun noLinks => ?_⟩
  have stillNoLinks : files.NoLinksIn d := fun name target linked =>
    noLinks name target ((grown.link_iff _ target).mp linked)
  obtain rfl := FileTree.eq_of_join file placed root stillNoLinks
  exact ⟨placed, rfl⟩

theorem inPlace_of_write (rooted : files.Rooted) (grown : start.Grown files)
    (file : FileName p.fileName)
    (written : files.write (p.pathIn s.root) p.text.toUTF8.toList = .ok files') :
    s.InPlace start files' p := by
  obtain ⟨grows, d, root, directory, put⟩ := written_eq rooted grown file written
  refine ⟨d, grows.directoryAt root, grows.directory d directory, fun noLinks => ?_⟩
  obtain ⟨placed, rfl⟩ := put noLinks
  exact ⟨grows.placeOf placed, files.entry?_put_self _ (by simp)⟩

/-- A file stays in place when another is written. -/
theorem InPlace.write (inPlace : s.InPlace start files p) (rooted : files.Rooted)
    (grown : start.Grown files) (file : FileName q.fileName) {content : List UInt8}
    (written : files.write (q.pathIn s.root) content = .ok files')
    (other : p.pathIn s.root ≠ q.pathIn s.root) : s.InPlace start files' p := by
  obtain ⟨grows, d, root, directory, put⟩ := written_eq rooted grown file written
  obtain ⟨d', root', directory', kept⟩ := inPlace
  obtain rfl := Except.ok.inj (root.symm.trans root')
  refine ⟨d, grows.directoryAt root, grows.directory d directory, fun noLinks => ?_⟩
  obtain ⟨-, rfl⟩ := put noLinks
  obtain ⟨placed, found⟩ := kept noLinks
  have apart : d ++ [p.fileName] ≠ d ++ [q.fileName] := by
    intro same
    have name : p.fileName = q.fileName := by simpa using same
    exact other (by rw [Parcel.pathIn_eq, Parcel.pathIn_eq, name])
  exact ⟨grows.placeOf placed, by rw [FileTree.entry?_put_of_ne _ _ apart, found]⟩

/-- What holds of a call at any time. -/
structure CallSound (s : DirectorySink) (start : FileTree) (claims : Claims) (files : FileTree)
    (call : EmitCall) : Prop where
  /-- What it holds is what its agent looks like. -/
  parcel : ∀ p, call.stage.parcel? = some p → s.form.parcel s.mode call.agent = .ok p
  /-- What it holds is claimed. -/
  owns : ∀ p, call.stage.parcel? = some p → p.pathIn s.root ∈ claims.map (·.1)
  /-- It is refused what is claimed. -/
  refused : ∀ chain p, call.stage = .refused chain → s.form.parcel s.mode call.agent = .ok p →
    p.pathIn s.root ∈ claims.map (·.1)
  delivered : ∀ p receipt, call.stage = .delivered p receipt → receipt.agent = p.agent ∧
    receipt.destination = p.pathIn s.root ∧ s.InPlace start files p

theorem callSound_of_held (rendered : s.form.parcel s.mode a = .ok p)
    (claimed : p.pathIn s.root ∈ claims.map (·.1)) (held : stage.parcel? = some p)
    (delivered : ∀ q receipt, stage = .delivered q receipt → receipt.agent = q.agent ∧
      receipt.destination = q.pathIn s.root ∧ s.InPlace start files q) :
    s.CallSound start claims files ⟨a, stage⟩ := by
  refine ⟨fun q holds => ?_, fun q holds => ?_, fun chain q refused => ?_, delivered⟩
  · exact Option.some.inj (held.symm.trans holds) ▸ rendered
  · exact Option.some.inj (held.symm.trans holds) ▸ claimed
  · simp only at refused
    simp [refused, EmitStage.parcel?] at held

theorem callSound_of_refused (chain : ErrorChain)
    (claimed : ∀ p, s.form.parcel s.mode a = .ok p → p.pathIn s.root ∈ claims.map (·.1)) :
    s.CallSound start claims files ⟨a, .refused chain⟩ where
  parcel p held := by simp [EmitStage.parcel?] at held
  owns p held := by simp [EmitStage.parcel?] at held
  refused _ p _ rendered := claimed p rendered
  delivered p receipt stage := by simp at stage

/-- A call stays sound while others have their turns. -/
theorem CallSound.frame {call : EmitCall} (sound : s.CallSound start claims files call)
    (claimed : ∀ path ∈ claims.map (·.1), path ∈ claims'.map (·.1))
    (kept : ∀ p, call.stage.parcel? = some p → s.InPlace start files p →
      s.InPlace start files' p) : s.CallSound start claims' files' call where
  parcel := sound.parcel
  owns p held := claimed _ (sound.owns p held)
  refused chain p refused rendered := claimed _ (sound.refused chain p refused rendered)
  delivered p receipt stage := by
    obtain ⟨agent, destination, inPlace⟩ := sound.delivered p receipt stage
    exact ⟨agent, destination, kept p (by rw [stage]; rfl) inPlace⟩

end DirectorySink

namespace SinkRun

/-- What holds of calls side by side, whatever turns they have taken. -/
structure Sound (s : DirectorySink) (agents : List Agent) (start : FileTree) (r : SinkRun) :
    Prop where
  agents : r.calls.map (·.agent) = agents
  rooted : r.workspace.files.Rooted
  grown : start.Grown r.workspace.files
  calls : ∀ (i : Nat) call, r.calls[i]? = some call →
    s.CallSound start r.claims r.workspace.files call
  /-- No two calls have the same file, … -/
  apart : ∀ i j p q, r.Holds i p → r.Holds j q → p.pathIn s.root = q.pathIn s.root → i = j
  /-- … and each claimed file is one that a call has. -/
  held : ∀ path ∈ r.claims.map (·.1), ∃ i p, r.Holds i p ∧ p.pathIn s.root = path

theorem sound_start {w : Workspace} (s : DirectorySink) (agents : List Agent)
    (rooted : w.files.Rooted) : Sound s agents w.files (DirectorySink.start agents w) := by
  have called : ∀ (i : Nat) call, (DirectorySink.start agents w).calls[i]? = some call →
      call.stage = .called := by
    intro i call inside
    obtain ⟨a, -, rfl⟩ := List.mem_map.mp (List.mem_of_getElem? inside)
    rfl
  have nothing : ∀ (i : Nat) p, ¬(DirectorySink.start agents w).Holds i p := by
    rintro i p ⟨call, inside, held⟩
    rw [called i call inside] at held
    cases held
  refine ⟨by simp [DirectorySink.start, Function.comp_def], rooted, .refl _,
    fun i call inside => ?_, fun i j p q held => absurd held (nothing i p),
    fun path claimed => by cases claimed⟩
  have stage := called i call inside
  constructor <;> simp [stage, EmitStage.parcel?]

variable {call : EmitCall} {w' : Workspace}

/-- A call that neither claims a file nor gives one up leaves who holds what. -/
theorem Sound.moved (sound : Sound s agents start r) (inside : r.calls[i]? = some call)
    (sameParcel : stage.parcel? = call.stage.parcel?) (rooted : w'.files.Rooted)
    (grown : r.workspace.files.Grown w'.files)
    (here : s.CallSound start r.claims w'.files ⟨call.agent, stage⟩)
    (others : ∀ (j : Nat) other, j ≠ i → r.calls[j]? = some other →
      s.CallSound start r.claims w'.files other) :
    Sound s agents start (r.moved i call stage r.claims w') := by
  have holds : ∀ j q, (r.moved i call stage r.claims w').Holds j q ↔ r.Holds j q := by
    intro j q
    rw [holds_moved_iff inside]
    split
    next same => simp [same, Holds, inside, sameParcel]
    next => rfl
  refine ⟨(map_agent_moved inside).trans sound.agents, rooted, sound.grown.trans grown,
    fun j other found => ?_, fun j k p q first second => ?_, fun path claimed => ?_⟩
  · rw [getElem?_moved inside] at found
    split at found
    next =>
      cases found
      exact here
    next elsewhere => exact others j other elsewhere found
  · exact sound.apart j k p q ((holds j p).mp first) ((holds k q).mp second)
  · obtain ⟨j, p, held, same⟩ := sound.held path claimed
    exact ⟨j, p, (holds j p).mpr held, same⟩

theorem Sound.unchanged (sound : Sound s agents start r) (inside : r.calls[i]? = some call)
    (sameParcel : stage.parcel? = call.stage.parcel?)
    (unchanged : w'.files = r.workspace.files)
    (here : s.CallSound start r.claims r.workspace.files ⟨call.agent, stage⟩) :
    Sound s agents start (r.moved i call stage r.claims w') :=
  sound.moved inside sameParcel (unchanged ▸ sound.rooted) (unchanged ▸ .refl _)
    (unchanged ▸ here) fun j other _ found => unchanged ▸ sound.calls j other found

/-- A directory is made before a file is written; it stays also when the call fails. -/
theorem Sound.prepare (sound : Sound s agents start r) (inside : r.calls[i]? = some call)
    (before : call.stage = .claimed p) (held : stage.parcel? = some p)
    (undelivered : ∀ q receipt, stage ≠ .delivered q receipt)
    (made : w'.files = (r.workspace.files.createDirectories s.root).2) :
    Sound s agents start (r.moved i call stage r.claims w') := by
  have holds : call.stage.parcel? = some p := by rw [before]; rfl
  have own := sound.calls i call inside
  have directories := FileTree.madeDirectories_createDirectories sound.rooted s.root
  rw [← made] at directories
  refine sound.moved inside (held.trans holds.symm) directories.rooted directories.grown ?_
    fun j other _ found => (sound.calls j other found).frame (fun _ claimed => claimed)
      fun _ _ inPlace => inPlace.madeDirectories directories
  exact DirectorySink.callSound_of_held (own.parcel p holds) (own.owns p holds) held
    fun q receipt delivered => absurd delivered (undelivered q receipt)

/-- A call that writes its file leaves those of the others as they are. -/
theorem Sound.deliver (sound : Sound s agents start r) (inside : r.calls[i]? = some call)
    (before : call.stage = .prepared p)
    (written : r.workspace.files.write (p.pathIn s.root) p.text.toUTF8.toList = .ok w'.files) :
    Sound s agents start
      (r.moved i call (.delivered p ⟨p.agent, p.pathIn s.root⟩) r.claims w') := by
  have holds : call.stage.parcel? = some p := by rw [before]; rfl
  have own := sound.calls i call inside
  have file := OutputForm.fileName_of_parcel (own.parcel p holds)
  refine sound.moved inside holds.symm (FileTree.rooted_of_write sound.rooted written)
    (FileTree.grown_of_write sound.rooted written) ?_ fun j other elsewhere found => ?_
  · refine DirectorySink.callSound_of_held (own.parcel p holds) (own.owns p holds) rfl ?_
    intro q receipt stage
    obtain ⟨rfl, rfl⟩ := EmitStage.delivered.inj stage
    simp only [true_and]
    exact DirectorySink.inPlace_of_write sound.rooted sound.grown file written
  · refine (sound.calls j other found).frame (fun _ claimed => claimed) fun q held inPlace => ?_
    have apart : q.pathIn s.root ≠ p.pathIn s.root := fun same =>
      elsewhere (sound.apart j i q p ⟨other, found, held⟩ ⟨call, inside, holds⟩ same)
    exact inPlace.write sound.rooted sound.grown file written apart

/-- A call that claims a file takes none that another call has. -/
theorem Sound.claim (sound : Sound s agents start r) (inside : r.calls[i]? = some call)
    (fresh : call.stage.parcel? = none)
    (rendered : s.form.parcel s.mode call.agent = .ok p)
    (free : r.claims.owner? (p.pathIn s.root) = none)
    (unchanged : w'.files = r.workspace.files) :
    Sound s agents start (r.moved i call (.claimed p)
      ((p.pathIn s.root, p.agent) :: r.claims) w') := by
  have unclaimed := Claims.owner?_eq_none.mp free
  have others : ∀ j q, r.Holds j q → q.pathIn s.root ≠ p.pathIn s.root := by
    rintro j q ⟨other, found, held⟩ same
    exact unclaimed (same ▸ (sound.calls j other found).owns q held)
  have elsewhere : ∀ j q, r.Holds j q → j ≠ i := by
    rintro j q ⟨other, found, held⟩ rfl
    cases inside.symm.trans found
    simp [fresh] at held
  have holds : ∀ j q, (r.moved i call (.claimed p)
      ((p.pathIn s.root, p.agent) :: r.claims) w').Holds j q ↔
        j = i ∧ q = p ∨ r.Holds j q := by
    intro j q
    rw [holds_moved_iff inside]
    split
    next here =>
      have none : ¬r.Holds j q := fun held => elsewhere j q held here
      simp [here, EmitStage.parcel?, eq_comm, here ▸ none]
    next other => simp [other]
  refine ⟨(map_agent_moved inside).trans sound.agents, unchanged ▸ sound.rooted,
    unchanged ▸ sound.grown, fun j other found => ?_, fun j k q q' first second same => ?_,
    fun path claimed => ?_⟩
  · rw [getElem?_moved inside] at found
    split at found
    next =>
      cases found
      have claimed : p.pathIn s.root ∈ ((p.pathIn s.root, p.agent) :: r.claims).map (·.1) := by
        simp
      exact DirectorySink.callSound_of_held rendered claimed rfl (by simp)
    next =>
      exact (sound.calls j other found).frame (fun path claimed => List.mem_cons_of_mem _ claimed)
        fun _ _ kept => unchanged ▸ kept
  · rcases (holds j q).mp first, (holds k q').mp second with
      ⟨⟨rfl, rfl⟩ | held, ⟨rfl, rfl⟩ | held'⟩
    · rfl
    · exact absurd same.symm (others k q' held')
    · exact absurd same (others j q held)
    · exact sound.apart j k q q' held held' same
  · simp only [SinkRun.moved, List.map_cons, List.mem_cons] at claimed
    rcases claimed with here | claimed
    · exact ⟨i, p, (holds i p).mpr (.inl ⟨rfl, rfl⟩), here.symm⟩
    · obtain ⟨j, q, held, same⟩ := sound.held path claimed
      exact ⟨j, q, (holds j q).mpr (.inr held), same⟩

theorem Sound.turn (sound : Sound s agents start r) (i : Nat) :
    Sound s agents start (s.turn r i) := by
  obtain same | ⟨call, stage, claims, w, inside, goes, same⟩ := s.turn_cases r i
  · rwa [same]
  · rw [same]
    have own := sound.calls i call inside
    generalize before : call.stage = stage₀ at goes
    generalize after : w.files = files at goes
    cases goes with
    | unrendered failed =>
        refine sound.unchanged inside (by rw [before]; rfl) after ?_
        exact DirectorySink.callSound_of_refused _ fun p rendered => by simp [failed] at rendered
    | claims rendered free => exact sound.claim inside (by rw [before]; rfl) rendered free after
    | @collides q owner rendered owned =>
        refine sound.unchanged inside (by rw [before]; rfl) after ?_
        refine DirectorySink.callSound_of_refused _ fun p rendered' => ?_
        cases rendered.symm.trans rendered'
        refine Classical.byContradiction fun unclaimed => ?_
        simp [Claims.owner?_eq_none.mpr unclaimed] at owned
    | prepares made => exact sound.prepare inside before rfl (by simp) (by rw [after, made])
    | unprepared chain made =>
        exact sound.prepare inside before rfl (by simp) (by rw [after, made])
    | writes written => exact sound.deliver inside before (after ▸ written)
    | @unwritten p e chain failed =>
        have held : call.stage.parcel? = some p := by rw [before]; rfl
        refine sound.unchanged inside held.symm after ?_
        exact DirectorySink.callSound_of_held (own.parcel p held) (own.owns p held) rfl (by simp)
    | rests => exact sound.unchanged inside (by rw [before]) after (before ▸ own)

theorem sound_run {w : Workspace} (s : DirectorySink) (agents : List Agent)
    (rooted : w.files.Rooted) (turns : List Nat) :
    Sound s agents w.files (s.run agents w turns) := by
  have kept : ∀ r, Sound s agents w.files r → Sound s agents w.files (turns.foldl s.turn r) := by
    induction turns with
    | nil => exact fun r sound => sound
    | cons i turns ih => exact fun r sound => ih _ (sound.turn i)
  exact kept _ (sound_start s agents rooted)

end SinkRun

end AgentManifest
