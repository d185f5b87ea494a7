import Mathlib.Data.List.Forall2
import AgentManifest.Proofs.Delivery.FailedCalls

/-! Where agents are put. Whatever its name is made of, an agent's file is in the directory of the
sink itself, and files that are not the same have names that differ by more than the case of
letters. -/

namespace AgentManifest

variable {root path name other : String} {a : Agent} {s : DirectorySink} {c : Char}

/-- What holds of the path of a file in a directory itself: one name follows what the directory is
made of, … -/
structure ChildOf (root path name : String) : Prop where
  file : FileName name
  components : FilePath.components path = FilePath.components root ++ [name.toList]
  absolute : path.toList.head? = some '/' ↔ root.toList.head? = some '/'
  /-- … and a path that leads somewhere leads into the directory, unless the name is a link. -/
  leads : ∀ (t : FileTree) p, t.placeOf path = .ok p → ∃ d, t.directoryAt root = .ok d ∧
    t.entry? d = some .directory ∧
    ((∀ target, t.entry? (d ++ [name]) ≠ some (.link target)) → p = d ++ [name])

theorem FilePath.components_eq (path : String) :
    components path = (Route.pieces path.toList).filter (· ≠ ['.']) := by
  rw [components, Route.pieces, List.filter_filter]
  exact List.filter_congr fun piece _ => by simp [Bool.and_comm]

theorem FilePath.components_fileName (file : FileName name) : components name = [name.toList] := by
  have noDot : name.toList ≠ ['.'] := fun same => file.noDot (String.toList_inj.mp same)
  rw [components_eq, Route.pieces_of_fileName file]
  simp [noDot]

theorem FilePath.components_join (file : FileName name) (root : String) :
    components (join root name) = components root ++ [name.toList] := by
  by_cases given : root = ""
  · rw [given, Route.join_empty file, components_fileName file]
    rfl
  · obtain ⟨before, ends, joined⟩ := Route.toList_join file given
    have last := components_fileName file
    rw [components_eq, Route.pieces_of_fileName file] at last
    rw [components_eq, components_eq, joined, Route.pieces_above file, List.filter_append, last,
      Route.pieces_directory ends]

theorem FilePath.head?_join (file : FileName name) (root : String) :
    (join root name).toList.head? = some '/' ↔ root.toList.head? = some '/' := by
  by_cases given : root = ""
  · have first : name.toList.head? ≠ some '/' :=
      fun slash => file.noSlash (List.mem_of_head? slash)
    rw [given, Route.join_empty file]
    simp [first]
  · obtain ⟨behind, extended⟩ := Route.join_extends file root
    obtain ⟨c, rest, letters⟩ := List.exists_cons_of_ne_nil
      fun none => given (String.toList_eq_nil_iff.mp none)
    rw [extended, String.toList_append, letters]
    rfl

theorem childOf_join (file : FileName name) (root : String) :
    ChildOf root (FilePath.join root name) name where
  file := file
  components := FilePath.components_join file root
  absolute := FilePath.head?_join file root
  leads t p placed := by
    obtain ⟨d, links, found, directory, led⟩ := FileTree.directoryAt_of_join file placed
    exact ⟨d, found, directory, led.eq_of_noLink file.noDot file.noDots⟩

/-- The name of an agent's file in a form. -/
def OutputForm.fileFor (form : OutputForm) (a : Agent) : String :=
  s!"{safeName a.qualifiedName}.{form.name}"

theorem OutputForm.toList_fileFor (form : OutputForm) (a : Agent) : (form.fileFor a).toList =
    (safeName a.qualifiedName).toList ++ '.' :: form.name.toList :=
  Parcel.toList_fileName ⟨a.qualifiedName, form.name, ""⟩

theorem OutputForm.fileName_fileFor (form : OutputForm) (a : Agent) : FileName (form.fileFor a) :=
  form.fileName_fileName a.qualifiedName ""

namespace DirectorySink

/-- The path of an agent's file. -/
def pathOf (s : DirectorySink) (a : Agent) : String := FilePath.join s.root (s.form.fileFor a)

theorem pathOf_of_parcel {p : Parcel} (rendered : s.form.parcel s.mode a = .ok p) :
    p.agent = a.qualifiedName ∧ p.pathIn s.root = s.pathOf a := by
  obtain ⟨text, -, rfl⟩ := OutputForm.parcel_eq_ok.mp rendered
  exact ⟨rfl, rfl⟩

/-- A receipt tells of the agent that was handed in and of its path. -/
theorem emitIn_delivered {claims : Claims} {w : Workspace} {receipt : Receipt}
    (delivered : (s.emitIn a claims w).1.1 = .delivered receipt) :
    receipt = ⟨a.qualifiedName, s.pathOf a⟩ := by
  cases rendered : s.form.parcel s.mode a with
  | error e =>
      rw [emitIn_unrendered rendered] at delivered
      cases delivered
  | ok p =>
      obtain ⟨agent, path⟩ := pathOf_of_parcel rendered
      cases owned : claims.owner? (p.pathIn s.root) with
      | some owner =>
          rw [emitIn_owned rendered owned] at delivered
          cases delivered
      | none =>
          cases outcome : w.files.createDirectories s.root with
          | mk result made =>
              cases result with
              | error e =>
                  rw [emitIn_unprepared rendered owned outcome] at delivered
                  cases delivered
              | ok =>
                  rw [emitIn_prepared rendered owned outcome] at delivered
                  split at delivered
                  · cases delivered
                    rw [agent, path]
                  · cases delivered

end DirectorySink

section

open DirectorySink

theorem pathOf_above : statementFiles.pathOf (nameOnly "../É") = "out/d_s.sql" := by
  decide

theorem ofText_above : Route.ofText "out/d_s.sql" = .ok ⟨false, ["out", "d_s.sql"], false⟩ :=
  Route.ofText_eq_ok.mpr (by decide)

theorem plain_above : FileTree.Plain "d_s.sql" := ⟨by decide, by decide, by decide⟩

/-- An agent that is called as if it were in the directory above is written into the directory. -/
theorem delivered_above : (statementFiles.emitIn (nameOnly "../É") [] {}).1.1 =
    .delivered ⟨"D.S.../É", "out/d_s.sql"⟩ := by
  have called : (nameOnly "../É").qualifiedName = "D.S.../É" := by decide
  obtain ⟨text, drawn⟩ := render_nameOnly "../É"
  have rendered := OutputForm.parcel_eq_ok.mpr ⟨text, drawn, rfl⟩
  have there := (pathOf_of_parcel rendered).2.trans pathOf_above
  rw [emitIn_prepared rendered rfl createDirectories_out_empty, there,
    write_into_withOut _ ofText_above plain_above]
  exact congrArg (fun agent => Emission.delivered ⟨agent, "out/d_s.sql"⟩) called

end

/-- What a file system takes for the same name if it tells names of ASCII characters apart that
differ by more than the case of letters. -/
def OnlyFoldsCase (same : List Char → List Char → Prop) : Prop :=
  ∀ name other, (∀ c ∈ name, c.toNat < 128) → (∀ c ∈ other, c.toNat < 128) → same name other →
    Text.foldCase name = Text.foldCase other

theorem IsSafeChar.toNat_lt (safe : IsSafeChar c) : c.toNat < 128 := by
  rcases safe with ⟨-, last⟩ | ⟨-, last⟩ | rfl
  · exact Nat.lt_of_le_of_lt (Char.le_def.mp last) (by decide)
  · exact Nat.lt_of_le_of_lt (Char.le_def.mp last) (by decide)
  · decide

namespace OutputForm

theorem isSafeChar_of_mem_name (form : OutputForm) : ∀ c ∈ form.name.toList, IsSafeChar c := by
  cases form <;> simp [name, IsSafeChar, Char.le_def]

/-- Names of files are ASCII, and none of their letters is a capital. -/
theorem chars_fileFor (form : OutputForm) (a : Agent) :
    ∀ c ∈ (form.fileFor a).toList, c.toNat < 128 ∧ c.toLower = c := by
  have safe : ∀ c, IsSafeChar c → c.toNat < 128 ∧ c.toLower = c :=
    fun _ safe => ⟨safe.toNat_lt, toLower_of_isSafeChar safe⟩
  intro c inside
  rw [toList_fileFor, List.mem_append, List.mem_cons] at inside
  rcases inside with inside | rfl | inside
  · exact safe c ((isSafeName_safeName a.qualifiedName).chars c inside)
  · decide
  · exact safe c (form.isSafeChar_of_mem_name c inside)

theorem foldCase_fileFor (form : OutputForm) (a : Agent) :
    Text.foldCase (form.fileFor a).toList = (form.fileFor a).toList :=
  (List.map_congr_left fun c inside => (form.chars_fileFor a c inside).2).trans (List.map_id _)

end OutputForm

/-- Paths in one directory differ only by case if their names do. -/
theorem foldCase_of_join (file : FileName name) (file' : FileName other)
    (same : Text.foldCase (FilePath.join root name).toList =
      Text.foldCase (FilePath.join root other).toList) :
    Text.foldCase name.toList = Text.foldCase other.toList := by
  rw [Route.join_of_fileName file, Route.join_of_fileName file'] at same
  split at same
  · simpa [Text.foldCase] using same
  · simpa [Text.foldCase] using same

/-- Paths that are taken for the same, name by name, are so in their last names. -/
theorem ChildOf.same_name {path' : String} {same : List Char → List Char → Prop}
    (child : ChildOf root path name) (child' : ChildOf root path' other)
    (taken : List.Forall₂ same (FilePath.components path) (FilePath.components path')) :
    same name.toList other.toList := by
  rw [child.components, child'.components] at taken
  have backwards := List.forall₂_reverse_iff.mpr taken
  rw [List.reverse_concat, List.reverse_concat, List.forall₂_cons] at backwards
  exact backwards.1

/-- Files of agents in one directory are told apart whatever is thought of the case of letters. -/
theorem OutputForm.files_differ (root : String) (form form' : OutputForm) (a b : Agent)
    (differ : FilePath.join root (form.fileFor a) ≠ FilePath.join root (form'.fileFor b)) :
    Text.foldCase (FilePath.join root (form.fileFor a)).toList ≠
        Text.foldCase (FilePath.join root (form'.fileFor b)).toList ∧
      ∀ same, OnlyFoldsCase same →
        ¬List.Forall₂ same (FilePath.components (FilePath.join root (form.fileFor a)))
          (FilePath.components (FilePath.join root (form'.fileFor b))) := by
  have file := form.fileName_fileFor a
  have file' := form'.fileName_fileFor b
  have apart : Text.foldCase (form.fileFor a).toList ≠ Text.foldCase (form'.fileFor b).toList := by
    intro folded
    rw [foldCase_fileFor, foldCase_fileFor] at folded
    exact differ (by rw [String.toList_inj.mp folded])
  refine ⟨fun folded => apart (foldCase_of_join file file' folded), fun same onlyCase taken => ?_⟩
  exact apart (onlyCase _ _ (fun c inside => (form.chars_fileFor a c inside).1)
    (fun c inside => (form'.chars_fileFor b c inside).1)
    ((childOf_join file root).same_name (childOf_join file' root) taken))

/-- Safe names consist of lower-case letters, digits and underscores between their ends, are no
longer than the names that they stand for, and stay as they are. They do not depend on the case of
letters, on what the characters are that are neither letters nor digits, nor on such characters at
an end. So an agent's file is in the directory of the sink itself, which is where a receipt says
that it is, and no two files that differ are one where the case of letters does not count. -/
theorem safe_names_contain_files :
    (∀ name, IsSafeName (safeName name) ∧ (safeName name).length ≤ name.length ∧
      safeName (safeName name) = safeName name) ∧
    (∀ name other : String, Text.foldCase name.toList = Text.foldCase other.toList →
      safeName name = safeName other) ∧
    (∀ (before behind : String) (c d : Char), c.isAlphanum = false → d.isAlphanum = false →
      safeName (before ++ String.singleton c ++ behind) =
        safeName (before ++ String.singleton d ++ behind)) ∧
    (∀ lead name tail : String, (∀ c ∈ lead.toList, c.isAlphanum = false) →
      (∀ c ∈ tail.toList, c.isAlphanum = false) →
        safeName (lead ++ name ++ tail) = safeName name) ∧
    (∀ (s : DirectorySink) (a : Agent), ChildOf s.root (s.pathOf a) (s.form.fileFor a) ∧
      ∀ claims w receipt, (s.emitIn a claims w).1.1 = .delivered receipt →
        receipt = ⟨a.qualifiedName, s.pathOf a⟩) ∧
    ∀ (root : String) (form form' : OutputForm) (a b : Agent),
      FilePath.join root (form.fileFor a) ≠ FilePath.join root (form'.fileFor b) →
      Text.foldCase (FilePath.join root (form.fileFor a)).toList ≠
          Text.foldCase (FilePath.join root (form'.fileFor b)).toList ∧
        ∀ same, OnlyFoldsCase same →
          ¬List.Forall₂ same (FilePath.components (FilePath.join root (form.fileFor a)))
            (FilePath.components (FilePath.join root (form'.fileFor b))) := by
  refine ⟨fun name => ?_, fun name other => safeName_of_foldCase, fun before behind c d => ?_,
    fun lead name tail => safeName_between, fun s a => ?_, OutputForm.files_differ⟩
  · have safe := isSafeName_safeName name
    exact ⟨safe, length_safeName_le name, safeName_of_isSafeName safe⟩
  · exact safeName_of_marks before behind
  · exact ⟨childOf_join (s.form.fileName_fileFor a) s.root,
      fun claims w receipt => DirectorySink.emitIn_delivered⟩

/-- Letters outside of ASCII are marks like slashes and dots. -/
theorem safe_names_contain_files_above :
    (Text.foldCase "D.S.Été".toList = Text.foldCase "d.s.ÉTé".toList ∧
      safeName "D.S.Été" = safeName "d.s.ÉTé") ∧
    ('/'.isAlphanum = false ∧ 'É'.isAlphanum = false ∧
      safeName ("a" ++ String.singleton '/' ++ "b") =
        safeName ("a" ++ String.singleton 'É' ++ "b")) ∧
    ((∀ c ∈ "../".toList, c.isAlphanum = false) ∧ (∀ c ∈ "/É".toList, c.isAlphanum = false) ∧
      safeName ("../" ++ "D.S.A" ++ "/É") = safeName "D.S.A") ∧
    ((statementFiles.emitIn (nameOnly "../É") [] {}).1.1 =
        .delivered ⟨"D.S.../É", "out/d_s.sql"⟩ ∧
      ChildOf "out" (statementFiles.pathOf (nameOnly "../É")) "d_s.sql" ∧
      (∃ d, withOut.directoryAt "out" = .ok d ∧ withOut.entry? d = some .directory ∧
        withOut.placeOf (statementFiles.pathOf (nameOnly "../É")) = .ok (d ++ ["d_s.sql"])) ∧
      (⟨"D.S.../É", "out/d_s.sql"⟩ : Receipt) =
        ⟨(nameOnly "../É").qualifiedName, statementFiles.pathOf (nameOnly "../É")⟩) ∧
    (statementFiles.pathOf (nameOnly "../É") ≠ statementFiles.pathOf (nameOnly "../Éa") ∧
      Text.foldCase (statementFiles.pathOf (nameOnly "../É")).toList ≠
        Text.foldCase (statementFiles.pathOf (nameOnly "../Éa")).toList ∧
      OnlyFoldsCase (fun name other => Text.foldCase name = Text.foldCase other) ∧
      ¬List.Forall₂ (fun name other => Text.foldCase name = Text.foldCase other)
        (FilePath.components (statementFiles.pathOf (nameOnly "../É")))
        (FilePath.components (statementFiles.pathOf (nameOnly "../Éa")))) := by
  obtain ⟨-, cases, marks, ends, inside, apart⟩ := safe_names_contain_files
  obtain ⟨child, receipts⟩ := inside statementFiles (nameOnly "../É")
  have folded : Text.foldCase "D.S.Été".toList = Text.foldCase "d.s.ÉTé".toList := by
    decide
  have lead : ∀ c ∈ "../".toList, c.isAlphanum = false := by simp
  have tail : ∀ c ∈ "/É".toList, c.isAlphanum = false := by simp
  have name : statementFiles.form.fileFor (nameOnly "../É") = "d_s.sql" := by decide
  have differ : statementFiles.pathOf (nameOnly "../É") ≠
      statementFiles.pathOf (nameOnly "../Éa") := by decide
  have onlyCase : OnlyFoldsCase fun name other => Text.foldCase name = Text.foldCase other :=
    fun _ _ _ _ same => same
  obtain ⟨paths, taken⟩ := apart "out" .statement .statement _ _ differ
  rw [name] at child
  have placed := pathOf_above ▸ placeOf_withOut ofText_above plain_above
  obtain ⟨d, found, directory, place⟩ := child.leads withOut _ placed
  rw [place fun target => withOut_noLink _ target] at placed
  exact ⟨⟨folded, cases _ _ folded⟩, ⟨by decide, by decide, marks _ _ _ _ (by decide) (by decide)⟩,
    ⟨lead, tail, ends _ _ _ lead tail⟩,
    ⟨delivered_above, child, ⟨d, found, directory, placed⟩, receipts _ _ _ delivered_above⟩,
    differ, paths, onlyCase, taken _ onlyCase⟩

end AgentManifest
