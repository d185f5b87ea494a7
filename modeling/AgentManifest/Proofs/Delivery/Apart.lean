import Mathlib.Data.List.Basic
import AgentManifest.Proofs.Delivery.Directory

/-! Files of agents are kept apart. Whatever turns the calls of a sink take, no two of them have the
same file: who gets a receipt has a file of its own in the directory, which holds what the agent
looks like in the form of the sink. Of the calls that ask for one file, exactly one gets it. -/

namespace AgentManifest

variable {s : DirectorySink} {agents : List Agent} {start : FileTree} {r : SinkRun} {p q : Parcel}
  {stage : EmitStage} {i j : Nat}

namespace EmitStage

theorem emission?_eq_delivered {receipt : Receipt} :
    stage.emission? = some (.delivered receipt) ↔ ∃ p, stage = .delivered p receipt := by
  cases stage <;> simp [emission?]

theorem settled_cases (settled : stage.settled) : (∃ p receipt, stage = .delivered p receipt) ∨
    ∃ chain, stage = .refused chain := by
  cases stage <;> simp_all [EmitStage.settled]

end EmitStage

namespace SinkRun.Sound

variable {call other : EmitCall} {receipt receipt' : Receipt}

/-- What a call with a receipt has, if the directory had no links. -/
theorem delivered (sound : Sound s agents start r)
    (noLinks : ∀ d, r.workspace.files.directoryAt s.root = .ok d → start.NoLinksIn d)
    (inside : r.calls[i]? = some call)
    (told : call.stage.emission? = some (.delivered receipt)) : ∃ d p,
      r.Holds i p ∧ s.form.parcel s.mode call.agent = .ok p ∧
      receipt.agent = p.agent ∧ receipt.destination = p.pathIn s.root ∧
      r.workspace.files.directoryAt s.root = .ok d ∧
      r.workspace.files.entry? d = some .directory ∧
      r.workspace.files.placeOf receipt.destination = .ok (d ++ [p.fileName]) ∧
      r.workspace.files.entry? (d ++ [p.fileName]) = some (.file p.text.toUTF8.toList) := by
  obtain ⟨p, stage⟩ := EmitStage.emission?_eq_delivered.mp told
  have own := sound.calls i call inside
  have held : call.stage.parcel? = some p := by rw [stage]; rfl
  obtain ⟨agent, destination, d, root, directory, file⟩ := own.delivered p receipt stage
  obtain ⟨placed, found⟩ := file (noLinks d root)
  rw [← destination] at placed
  exact ⟨d, p, ⟨call, inside, held⟩, own.parcel p held, agent, destination, root, directory,
    placed, found⟩

theorem inPlace (sound : Sound s agents start r)
    (noLinks : ∀ d, r.workspace.files.directoryAt s.root = .ok d → start.NoLinksIn d)
    (inside : r.calls[i]? = some call)
    (told : call.stage.emission? = some (.delivered receipt)) :
    receipt.agent = call.agent.qualifiedName ∧ ∃ d name text,
      r.workspace.files.directoryAt s.root = .ok d ∧
      r.workspace.files.entry? d = some .directory ∧
      r.workspace.files.placeOf receipt.destination = .ok (d ++ [name]) ∧
      s.form.render s.mode call.agent = .ok text ∧
      r.workspace.files.read receipt.destination = .ok text.toUTF8.toList := by
  obtain ⟨d, p, -, rendered, agent, -, root, directory, placed, found⟩ :=
    sound.delivered noLinks inside told
  have holds := FileTree.read_eq_ok placed found
  obtain ⟨text, drawn, rfl⟩ := OutputForm.parcel_eq_ok.mp rendered
  exact ⟨agent, d, _, text, root, directory, placed, drawn, holds⟩

/-- When all is done, a file that is asked for belongs to one call, and the others fail. -/
theorem one (sound : Sound s agents start r) (settled : ∀ call ∈ r.calls, call.stage.settled)
    {text : String} (inside : r.calls[i]? = some call)
    (drawn : s.form.render s.mode call.agent = .ok text) : ∃ (j : Nat) (winner : EmitCall)
      (receipt : Receipt), r.calls[j]? = some winner ∧
      winner.stage.emission? = some (.delivered receipt) ∧
      safeName winner.agent.qualifiedName = safeName call.agent.qualifiedName ∧
      ∀ (k : Nat) loser, r.calls[k]? = some loser → k ≠ j →
        safeName loser.agent.qualifiedName = safeName call.agent.qualifiedName →
        ∃ chain, loser.stage.emission? = some (.failed chain) := by
  have rendered : s.form.parcel s.mode call.agent = .ok _ :=
    OutputForm.parcel_eq_ok.mpr ⟨text, drawn, rfl⟩
  generalize (⟨call.agent.qualifiedName, s.form.name, text⟩ : Parcel) = p at rendered
  have cases : ∀ {k : Nat} {c : EmitCall}, r.calls[k]? = some c →
      (∃ p receipt, c.stage = .delivered p receipt) ∨ ∃ chain, c.stage = .refused chain :=
    fun found => EmitStage.settled_cases (settled _ (List.mem_of_getElem? found))
  -- The call has the file itself, or was refused it because of another.
  have claimed : p.pathIn s.root ∈ r.claims.map (·.1) := by
    have own := sound.calls i call inside
    rcases cases inside with ⟨q, receipt, stage⟩ | ⟨chain, stage⟩
    · have held : call.stage.parcel? = some q := by rw [stage]; rfl
      cases rendered.symm.trans (own.parcel q held)
      exact own.owns p held
    · exact own.refused chain p stage rendered
  obtain ⟨j, q, ⟨winner, found, held⟩, same⟩ := sound.held _ claimed
  have renderedWinner := (sound.calls j winner found).parcel q held
  rcases cases found with ⟨q', receipt, stage⟩ | ⟨chain, stage⟩
  · have name := (OutputForm.pathIn_eq_iff renderedWinner rendered).mp same
    refine ⟨j, winner, receipt, found, by rw [stage]; rfl, name, ?_⟩
    intro k loser foundLoser other sameName
    rcases cases foundLoser with ⟨q'', receipt', stage'⟩ | ⟨chain, stage'⟩
    · have heldLoser : loser.stage.parcel? = some q'' := by rw [stage']; rfl
      have renderedLoser := (sound.calls k loser foundLoser).parcel q'' heldLoser
      have path : q''.pathIn s.root = q.pathIn s.root :=
        (OutputForm.pathIn_eq_iff renderedLoser renderedWinner).mpr (sameName.trans name.symm)
      exact absurd (sound.apart k j q'' q ⟨loser, foundLoser, heldLoser⟩
        ⟨winner, found, held⟩ path) other
    · exact ⟨chain, by rw [stage']; rfl⟩
  · simp [stage, EmitStage.parcel?] at held

end SinkRun.Sound

/-- An agent of which nothing but the name is known. -/
def nameOnly (name : String) : Agent where
  database := "D"
  schema := "S"
  name := name
  comment := none
  profile := none
  models := none
  instructions := none
  orchestration := none
  tools := []
  resources := []

def statementFiles : DirectorySink := ⟨.statement, .orReplace, "out"⟩

theorem render_nameOnly (name : String) :
    ∃ text, statementFiles.form.render statementFiles.mode (nameOnly name) = .ok text := by
  -- The name is no part of the specification.
  have known : (nameOnly name).specification = (nameOnly "").specification := rfl
  have whole : CreateStatement.hasDollarQuote
      (nameOnly name).specification.pretty.toList = false := by
    rw [known]
    decide
  cases drawn : CreateStatement.ofAgent (nameOnly name) .orReplace with
  | error e => simp [CreateStatement.ofAgent, whole] at drawn
  | ok statement => exact ⟨statement.text, congrArg (·.map CreateStatement.text) drawn⟩

theorem parcel_folding : ∀ name ∈ ["a-b", "a_b"], ∃ p,
    statementFiles.form.parcel statementFiles.mode (nameOnly name) = .ok p ∧
      p.agent = "D.S." ++ name ∧ p.pathIn statementFiles.root = "out/d_s_a_b.sql" := by
  have named : ∀ name ∈ ["a-b", "a_b"], (nameOnly name).qualifiedName = "D.S." ++ name ∧
      Parcel.pathIn ⟨(nameOnly name).qualifiedName, "sql", ""⟩ "out" = "out/d_s_a_b.sql" := by
    decide
  intro name listed
  obtain ⟨text, drawn⟩ := render_nameOnly name
  exact ⟨_, OutputForm.parcel_eq_ok.mpr ⟨text, drawn, rfl⟩, named name listed⟩

def withOut : FileTree := ⟨[(["work"], .directory), (["work", "out"], .directory)], ["work"]⟩

/-- There is one directory to make for a path of one name. -/
theorem createDirectories_out (t : FileTree) : t.createDirectories "out" =
    match t.createDirectory false ["out"] with
    | .ok made => (.ok (), made)
    | .error e => (.error e, t) := by
  have read : Route.ofText "out" = .ok ⟨false, ["out"], false⟩ :=
    Route.ofText_eq_ok.mpr (by decide)
  rw [FileTree.createDirectories, if_neg (by decide), read]
  show t.createAll false ["out"] [] = _
  rewrite [FileTree.createAll]
  rfl

theorem createDirectories_out_empty :
    FileTree.empty.createDirectories statementFiles.root = (.ok (), withOut) := by
  have made : FileTree.empty.createDirectory false ["out"] = .ok withOut := by
    rw [FileTree.createDirectory, FileTree.create, FileTree.placeFor]
    simp only [List.getLast?_singleton, List.dropLast_singleton, FileTree.follow]
    rfl
  rw [statementFiles, createDirectories_out, made]

theorem withOut_noLink (p : Place) (target : String) : withOut.entry? p ≠ some (.link target) := by
  rw [FileTree.entry?]
  split
  · simp
  · simp only [withOut, List.lookup_cons, List.lookup_nil]
    split
    · simp
    · split <;> simp

theorem placeOf_withOut {path name : String}
    (read : Route.ofText path = .ok ⟨false, ["out", name], false⟩) (plain : FileTree.Plain name) :
    withOut.placeOf path = .ok ["work", "out", name] := by
  have led : withOut.Leads FileTree.linkLimit ["work"] ["out", name] ["work", "out", name] :=
    .into rfl ⟨by decide, by decide, by decide⟩ rfl (by simp) (.new rfl plain rfl)
  exact FileTree.placeOf_eq_ok.mpr ⟨_, read, led⟩

theorem write_into_withOut {path name : String} (content : List UInt8)
    (read : Route.ofText path = .ok ⟨false, ["out", name], false⟩) (plain : FileTree.Plain name) :
    withOut.write path content = .ok (withOut.put ["work", "out", name] (.file content)) := by
  have nothing : withOut.entry? ["work", "out", name] = none := rfl
  exact FileTree.write_eq_ok.mpr
    ⟨_, _, read, rfl, placeOf_withOut read plain, by simp [nothing], rfl⟩

end AgentManifest
