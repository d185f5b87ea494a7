import AgentManifest.Delivery.Sink
import AgentManifest.Proofs.Outcome

/-! Calls of one sink side by side. A call that puts an agent into a directory claims a file, makes
the directory and writes the file, one after the other, and other calls can have their turn in
between. Undisturbed, its steps are `Sink.emit`. -/

namespace AgentManifest

namespace Destination

variable (p : Parcel) (path root : String) (claims : Claims) (w : Workspace)

theorem run_claim : ((claim (m := StateM Workspace) p path).run claims).run w =
    match claims.owner? path with
    | none => ((.ok (), (path, p.agent) :: claims), w)
    | some owner => ((.error ⟨[Collision.text ⟨p.agent, path, owner⟩]⟩, claims), w) := by
  cases owned : claims.owner? path with
  | none =>
      simp only [claim, Claims.claim, StateT.run_modifyGet, owned]
      rfl
  | some owner =>
      simp only [claim, Claims.claim, StateT.run_modifyGet, owned]
      rfl

theorem run_prepare :
    ((prepare (m := StateT Claims (StateM Workspace)) root).run claims).run w =
      (((w.files.createDirectories root).1.mapError fun e =>
          ⟨[s!"creating output directory {root}", e.text]⟩, claims),
        { w with files := (w.files.createDirectories root).2 }) := by
  cases made : (w.files.createDirectories root).1 with
  | ok =>
      simp [prepare, MonadWorkspace.createDirectories, made]
      rfl
  | error e =>
      simp [prepare, MonadWorkspace.createDirectories, made]
      rfl

theorem run_write :
    ((write (m := StateT Claims (StateM Workspace)) p path).run claims).run w =
      match w.files.write path p.text.toUTF8.toList with
      | .ok files => ((.ok ⟨p.agent, path⟩, claims), { w with files })
      | .error e => ((.error ⟨[s!"writing {path}", e.text]⟩, claims), w) := by
  cases written : w.files.write path p.text.toUTF8.toList with
  | ok files =>
      simp only [write, MonadWorkspace.writeFile, StateT.run_bind, StateT.run_lift,
        bind_pure_comp, bind_map_left, StateT.run_modifyGet, written, pure_bind, StateT.run_pure]
      rfl
  | error e =>
      simp only [write, MonadWorkspace.writeFile, StateT.run_bind, StateT.run_lift,
        bind_pure_comp, bind_map_left, StateT.run_modifyGet, written, pure_bind, StateT.run_pure]
      rfl

end Destination

/-- Where a call stands. -/
inductive EmitStage where
  | called
  | claimed (parcel : Parcel)
  | prepared (parcel : Parcel)
  | delivered (parcel : Parcel) (receipt : Receipt)
  /-- The agent has no text in this form, or its file has an owner already. -/
  | refused (chain : ErrorChain)
  /-- The directory could not be made, or the file not be written. -/
  | unwritten (parcel : Parcel) (chain : ErrorChain)
  deriving DecidableEq

namespace EmitStage

/-- The parcel whose file is claimed for the call. -/
def parcel? : EmitStage → Option Parcel
  | .claimed p | .prepared p | .delivered p _ | .unwritten p _ => some p
  | .called | .refused _ => none

/-- What a call that is over has answered. -/
def emission? : EmitStage → Option Emission
  | .delivered _ receipt => some (.delivered receipt)
  | .refused chain | .unwritten _ chain => some (.failed chain)
  | .called | .claimed _ | .prepared _ => none

/-- The call is over, and the files did what it asked of them. -/
def settled : EmitStage → Bool
  | .delivered .. | .refused _ => true
  | .called | .claimed _ | .prepared _ | .unwritten .. => false

end EmitStage

/-- What calls of a sink that puts agents into a directory share. -/
structure DirectorySink where
  form : OutputForm
  mode : CreateMode
  root : String

namespace DirectorySink

variable {m : Type → Type} [Monad m] [MonadWorkspace m]

def sink (s : DirectorySink) : Sink (StateT Claims m) := .writing s.form s.mode (.directory s.root)

/-- What a call does in one turn. -/
def goOn (s : DirectorySink) (a : Agent) : EmitStage → StateT Claims m EmitStage
  | .called =>
    match s.form.parcel s.mode a with
    | .error e => return .refused e.chain
    | .ok p => do
      match ← Destination.claim p (p.pathIn s.root) with
      | .ok () => return .claimed p
      | .error chain => return .refused chain
  | .claimed p => do
    match ← Destination.prepare s.root with
    | .ok () => return .prepared p
    | .error chain => return .unwritten p chain
  | .prepared p => do
    match ← Destination.write p (p.pathIn s.root) with
    | .ok receipt => return .delivered p receipt
    | .error chain => return .unwritten p chain
  | stage => return stage

/-- The steps of a call with no other call between them are the call. -/
theorem emit_eq_goOn [LawfulMonad m] (s : DirectorySink) (a : Agent) :
    (do
      let claimed ← s.goOn (m := m) a .called
      let prepared ← s.goOn a claimed
      let stage ← s.goOn a prepared
      return stage.emission?) = some <$> s.sink.emit a := by
  cases rendered : s.form.parcel s.mode a with
  | error e => simp [sink, Sink.writing, goOn, rendered, EmitStage.emission?]
  | ok p =>
      simp only [sink, Sink.writing, goOn, rendered, Destination.deliver, map_bind, bind_assoc]
      refine bind_congr fun claimed => ?_
      cases claimed with
      | error chain => simp [EmitStage.emission?]
      | ok =>
          simp only [pure_bind, bind_assoc]
          refine bind_congr fun prepared => ?_
          cases prepared with
          | error chain => simp [EmitStage.emission?]
          | ok =>
              simp only [pure_bind, bind_assoc]
              refine bind_congr fun written => ?_
              cases written with
              | error chain => simp [EmitStage.emission?]
              | ok receipt => simp [EmitStage.emission?]

/-- What one turn can do to a call, to the claims and to the files. -/
inductive Goes (s : DirectorySink) (a : Agent) (claims : Claims) (files : FileTree) :
    EmitStage → EmitStage → Claims → FileTree → Prop
  | unrendered {e : RenderError} : s.form.parcel s.mode a = .error e →
      Goes s a claims files .called (.refused e.chain) claims files
  | claims {p : Parcel} : s.form.parcel s.mode a = .ok p →
      claims.owner? (p.pathIn s.root) = none →
      Goes s a claims files .called (.claimed p) ((p.pathIn s.root, p.agent) :: claims) files
  | collides {p : Parcel} {owner : String} : s.form.parcel s.mode a = .ok p →
      claims.owner? (p.pathIn s.root) = some owner →
      Goes s a claims files .called
        (.refused ⟨[Collision.text ⟨p.agent, p.pathIn s.root, owner⟩]⟩) claims files
  | prepares {p : Parcel} {made : FileTree} : files.createDirectories s.root = (.ok (), made) →
      Goes s a claims files (.claimed p) (.prepared p) claims made
  | unprepared {p : Parcel} {made : FileTree} {e : FileFault} (chain : ErrorChain) :
      files.createDirectories s.root = (.error e, made) →
      Goes s a claims files (.claimed p) (.unwritten p chain) claims made
  | writes {p : Parcel} {written : FileTree} :
      files.write (p.pathIn s.root) p.text.toUTF8.toList = .ok written →
      Goes s a claims files (.prepared p) (.delivered p ⟨p.agent, p.pathIn s.root⟩) claims written
  | unwritten {p : Parcel} {e : FileFault} (chain : ErrorChain) :
      files.write (p.pathIn s.root) p.text.toUTF8.toList = .error e →
      Goes s a claims files (.prepared p) (.unwritten p chain) claims files
  | rests {stage : EmitStage} : Goes s a claims files stage stage claims files

/-- A turn of a call in memory. -/
def goOnIn (s : DirectorySink) (a : Agent) (stage : EmitStage) (claims : Claims) (w : Workspace) :
    (EmitStage × Claims) × Workspace :=
  ((s.goOn (m := StateM Workspace) a stage).run claims).run w

section Turns

variable {s : DirectorySink} {a : Agent} {p : Parcel} {claims claims' : Claims} {w w' : Workspace}
  {stage stage' : EmitStage}

theorem goOnIn_unrendered {e : RenderError} (failed : s.form.parcel s.mode a = .error e) :
    s.goOnIn a .called claims w = ((.refused e.chain, claims), w) := by
  simp only [goOnIn, goOn, failed]
  rfl

theorem goOnIn_called (rendered : s.form.parcel s.mode a = .ok p) :
    s.goOnIn a .called claims w =
      match claims.owner? (p.pathIn s.root) with
      | none => ((.claimed p, (p.pathIn s.root, p.agent) :: claims), w)
      | some owner =>
        ((.refused ⟨[Collision.text ⟨p.agent, p.pathIn s.root, owner⟩]⟩, claims), w) := by
  simp only [goOnIn, goOn, rendered, StateT.run_bind, Destination.run_claim]
  cases claims.owner? (p.pathIn s.root) <;> rfl

theorem goOnIn_claimed : s.goOnIn a (.claimed p) claims w =
    match w.files.createDirectories s.root with
    | (.ok (), files) => ((.prepared p, claims), { w with files })
    | (.error e, files) =>
      ((.unwritten p ⟨[s!"creating output directory {s.root}", e.text]⟩, claims),
        { w with files }) := by
  simp only [goOnIn, goOn, StateT.run_bind, Destination.run_prepare]
  obtain ⟨made, files⟩ := w.files.createDirectories s.root
  cases made <;> rfl

theorem goOnIn_prepared : s.goOnIn a (.prepared p) claims w =
    match w.files.write (p.pathIn s.root) p.text.toUTF8.toList with
    | .ok files => ((.delivered p ⟨p.agent, p.pathIn s.root⟩, claims), { w with files })
    | .error e =>
      ((.unwritten p ⟨[s!"writing {p.pathIn s.root}", e.text]⟩, claims), w) := by
  simp only [goOnIn, goOn, StateT.run_bind, Destination.run_write]
  cases w.files.write (p.pathIn s.root) p.text.toUTF8.toList <;> rfl

theorem goes_of_goOnIn (gone : s.goOnIn a stage claims w = ((stage', claims'), w')) :
    Goes s a claims w.files stage stage' claims' w'.files := by
  cases stage with
  | called =>
      cases rendered : s.form.parcel s.mode a with
      | error e =>
          cases (goOnIn_unrendered rendered).symm.trans gone
          exact .unrendered rendered
      | ok p =>
          rw [goOnIn_called rendered] at gone
          split at gone
          next free =>
            cases gone
            exact .claims rendered free
          next owned =>
            cases gone
            exact .collides rendered owned
  | claimed p =>
      rw [goOnIn_claimed] at gone
      split at gone
      next made =>
        cases gone
        exact .prepares made
      next made =>
        cases gone
        exact .unprepared _ made
  | prepared p =>
      rw [goOnIn_prepared] at gone
      split at gone
      next written =>
        cases gone
        exact .writes written
      next failed =>
        cases gone
        exact .unwritten _ failed
  | delivered | refused | unwritten =>
      cases gone
      exact .rests

end Turns

end DirectorySink

/-- A call of a sink with an agent. -/
structure EmitCall where
  agent : Agent
  stage : EmitStage

/-- Calls of one sink, with what the sink remembers and what it works on. -/
structure SinkRun where
  calls : List EmitCall
  claims : Claims
  workspace : Workspace

namespace DirectorySink

def start (agents : List Agent) (w : Workspace) : SinkRun := ⟨agents.map (⟨·, .called⟩), [], w⟩

/-- The run after a turn of one of its calls; there may be none of this number. -/
def turn (s : DirectorySink) (r : SinkRun) (i : Nat) : SinkRun :=
  match r.calls[i]? with
  | none => r
  | some call =>
    let ((stage, claims), workspace) := s.goOnIn call.agent call.stage r.claims r.workspace
    ⟨r.calls.set i ⟨call.agent, stage⟩, claims, workspace⟩

/-- The run in which calls with the given agents have their turns in the given order. -/
def run (s : DirectorySink) (agents : List Agent) (w : Workspace) (turns : List Nat) : SinkRun :=
  turns.foldl s.turn (start agents w)

end DirectorySink

section

variable {α β : Type} {listed : List α} {item other : α} {i j : Nat} {f : α → β}

theorem getElem?_set_of_getElem? (inside : listed[i]? = some item) :
    (listed.set i other)[j]? = if j = i then some other else listed[j]? := by
  have bound := (List.getElem?_eq_some_iff.mp inside).1
  rw [List.getElem?_set]
  by_cases same : i = j
  · simp [same, same ▸ bound]
  · simp [same, Ne.symm same]

theorem map_set_of_getElem? (inside : listed[i]? = some item) (same : f other = f item) :
    (listed.set i other).map f = listed.map f := by
  refine List.ext_getElem? fun j => ?_
  rw [List.getElem?_map, List.getElem?_map, getElem?_set_of_getElem? inside]
  split
  next here => simp [here, inside, same]
  next => rfl

end

variable {s : DirectorySink} {r : SinkRun} {call : EmitCall} {stage : EmitStage} {claims : Claims}
  {w : Workspace} {q : Parcel} {i j : Nat}

namespace SinkRun

/-- A call has a file claimed for a parcel. -/
def Holds (r : SinkRun) (i : Nat) (p : Parcel) : Prop :=
  ∃ call, r.calls[i]? = some call ∧ call.stage.parcel? = some p

/-- The run after one of its calls has come to another stage. -/
def moved (r : SinkRun) (i : Nat) (call : EmitCall) (stage : EmitStage) (claims : Claims)
    (w : Workspace) : SinkRun :=
  ⟨r.calls.set i ⟨call.agent, stage⟩, claims, w⟩

theorem getElem?_moved (inside : r.calls[i]? = some call) :
    (r.moved i call stage claims w).calls[j]? =
      if j = i then some ⟨call.agent, stage⟩ else r.calls[j]? :=
  getElem?_set_of_getElem? inside

theorem holds_moved_iff (inside : r.calls[i]? = some call) :
    (r.moved i call stage claims w).Holds j q ↔
      if j = i then stage.parcel? = some q else r.Holds j q := by
  rw [Holds, getElem?_moved inside]
  split
  · simp
  · rfl

theorem map_agent_moved (inside : r.calls[i]? = some call) :
    (r.moved i call stage claims w).calls.map (·.agent) = r.calls.map (·.agent) :=
  map_set_of_getElem? inside rfl

end SinkRun

namespace DirectorySink

theorem turn_eq_moved (inside : r.calls[i]? = some call)
    (gone : s.goOnIn call.agent call.stage r.claims r.workspace = ((stage, claims), w)) :
    s.turn r i = r.moved i call stage claims w := by
  simp only [turn, inside, gone]
  rfl

theorem turn_cases (s : DirectorySink) (r : SinkRun) (i : Nat) : s.turn r i = r ∨
    ∃ call stage claims w, r.calls[i]? = some call ∧
      s.Goes call.agent r.claims r.workspace.files call.stage stage claims w.files ∧
      s.turn r i = r.moved i call stage claims w := by
  cases inside : r.calls[i]? with
  | none => exact .inl (by rw [turn, inside])
  | some call => exact .inr ⟨call, _, _, _, rfl, goes_of_goOnIn rfl, turn_eq_moved inside rfl⟩

end DirectorySink
end AgentManifest
