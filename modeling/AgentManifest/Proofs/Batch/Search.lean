import Mathlib.Data.List.Nodup
import Mathlib.Data.String.Basic
import AgentManifest.Documents
import AgentManifest.Proofs.Files.Path
import AgentManifest.Proofs.Text.Utf8

/-! The search of a directory for documents. Whatever order the directory is listed in, the same
documents are found in the same order, and a name that cannot be followed costs no more than a
warning. -/

namespace AgentManifest

namespace FilePath

variable {stem extension chars : List Char} {name : String}

theorem extensionOf?_append (whole : '.' ∉ extension) :
    extensionOf? (stem ++ '.' :: extension) = if stem = [] then none else some extension := by
  have pieces : Text.splitAt '.' (stem ++ '.' :: extension) =
      Text.splitAt '.' stem ++ [extension] := by
    rw [Text.splitAt_append, Text.splitAt_of_not_mem whole]
  rw [extensionOf?, pieces, List.reverse_append, List.reverse_singleton, List.singleton_append]
  cases stem with
  | nil => rfl
  | cons c rest =>
      rw [if_neg (List.cons_ne_nil c rest)]
      match back : (Text.splitAt '.' (c :: rest)).reverse with
      | [] => exact absurd (List.reverse_eq_nil_iff.mp back) (Text.splitAt_ne_nil _ _)
      | [[]] =>
          -- A text of a single empty piece is empty.
          have joined := Text.joinWith_splitAt '.' (c :: rest)
          rw [List.reverse_eq_iff.mp back] at joined
          cases joined
      | (_ :: _) :: _ => rfl
      | [] :: _ :: _ => rfl

/-- An extension stands behind the last dot, and something stands before that dot. -/
theorem extensionOf?_eq_some : extensionOf? chars = some extension ↔
    ∃ stem, stem ≠ [] ∧ '.' ∉ extension ∧ chars = stem ++ '.' :: extension := by
  constructor
  · intro found
    by_cases dotted : '.' ∈ chars
    · obtain ⟨behind, before, reversed, whole⟩ :=
        List.eq_append_cons_of_mem (List.mem_reverse.mpr dotted)
      have form : chars = before.reverse ++ '.' :: behind.reverse := by
        rw [← List.reverse_reverse chars, reversed]
        simp
      have whole : '.' ∉ behind.reverse := by simpa using whole
      rw [form, extensionOf?_append whole] at found
      split at found
      next => cases found
      next nonempty =>
        cases found
        exact ⟨_, nonempty, whole, form⟩
    · rw [extensionOf?, Text.splitAt_of_not_mem dotted] at found
      cases found
  · rintro ⟨stem, nonempty, whole, rfl⟩
    rw [extensionOf?_append whole, if_neg nonempty]

theorem fileName?_of_fileName (file : FileName name) : fileName? name = some name.toList := by
  have nonempty : name.toList ≠ [] := fun none => file.nonempty (String.toList_eq_nil_iff.mp none)
  have noDot : name.toList ≠ ['.'] := fun dot => file.noDot (String.toList_injective dot)
  have noDots : name.toList ≠ ['.', '.'] := fun dots => file.noDots (String.toList_injective dots)
  rw [fileName?, components, Text.splitAt_of_not_mem file.noSlash]
  simp [nonempty, noDot, noDots]

end FilePath

namespace Documents

variable {name directory : String} {names found : List String}
  {leads : String → Except FileFault Bool}

/-- The name of a document: something, a dot and the extension of a format in whatever case. -/
def Named (name : String) : Prop :=
  ∃ stem extension, stem ≠ [] ∧ name.toList = stem ++ '.' :: extension ∧
    String.ofList (Text.foldCase extension) ∈ ["json", "yaml", "yml", "toml"]

theorem ofExtension?_isSome {extension : List Char} :
    (DocumentFormat.ofExtension? extension).isSome ↔
      String.ofList (Text.foldCase extension) ∈ ["json", "yaml", "yml", "toml"] := by
  rw [DocumentFormat.ofExtension?]
  split <;> simp_all

/-- No extension of a format has a dot in it. -/
theorem dot_not_mem {extension : List Char}
    (format : String.ofList (Text.foldCase extension) ∈ ["json", "yaml", "yml", "toml"]) :
    '.' ∉ extension := by
  intro dot
  have folded : '.' ∈ (String.ofList (Text.foldCase extension)).toList := by
    rw [String.toList_ofList]
    exact List.mem_map.mpr ⟨'.', dot, by decide⟩
  generalize String.ofList (Text.foldCase extension) = format' at format folded
  have none : ∀ format ∈ ["json", "yaml", "yml", "toml"], '.' ∉ format.toList := by decide
  exact none format' format folded

theorem Named.fileName (named : Named name) (noSlash : '/' ∉ name.toList) : FileName name := by
  obtain ⟨stem, extension, nonempty, form, format⟩ := named
  refine ⟨fun same => ?_, noSlash, fun same => ?_, fun same => ?_⟩
  · simp [same] at form
  · rw [same] at form
    cases stem with
    | nil => exact nonempty rfl
    | cons c rest => simp at form
  · rw [same] at form
    match stem, nonempty with
    | [c], _ =>
        have bare : '.' = c ∧ extension = [] := by simpa using form
        simp [bare.2, Text.foldCase] at format
    | c :: d :: rest, _ => simp at form

theorem isSupported_iff (noSlash : '/' ∉ name.toList) : isSupported name = true ↔ Named name := by
  rw [isSupported, DocumentFormat.named?, FilePath.extension?]
  constructor
  · intro supported
    have file : FileName name := by
      refine ⟨?_, noSlash, ?_, ?_⟩ <;> rintro rfl <;> exact absurd supported (by decide)
    rw [FilePath.fileName?_of_fileName file, Option.bind_some] at supported
    cases some : FilePath.extensionOf? name.toList with
    | none => simp [some] at supported
    | some extension =>
        obtain ⟨stem, nonempty, -, form⟩ := FilePath.extensionOf?_eq_some.mp some
        rw [some, Option.bind_some] at supported
        exact ⟨stem, extension, nonempty, form, ofExtension?_isSome.mp supported⟩
  · intro named
    rw [FilePath.fileName?_of_fileName (named.fileName noSlash), Option.bind_some]
    obtain ⟨stem, extension, nonempty, form, format⟩ := named
    have some := FilePath.extensionOf?_eq_some.mpr ⟨stem, nonempty, dot_not_mem format, form⟩
    rw [some, Option.bind_some]
    exact ofExtension?_isSome.mpr format

section Standing

variable {σ : Type} [MonadWorkspace (StateM σ)] {state : List LogLine → σ} {log : List LogLine}

/-- A directory that stands still while it is searched. Whatever has been logged, it lists the same
names, in whatever order, and each path leads where it did. The names are those of entries of a
directory: there are no two of them alike, and none has a slash in it. -/
structure Standing (state : List LogLine → σ) (directory : String) (names : List String)
    (leads : String → Except FileFault Bool) : Prop where
  lists : ∀ log, (MonadWorkspace.listDirectory directory : StateM σ _).run (state log) =
    (.ok names, state log)
  follows : ∀ log path, (MonadWorkspace.isFile path : StateM σ _).run (state log) =
    (leads path, state log)
  logs : ∀ log lines, (MonadWorkspace.log lines : StateM σ _).run (state log) =
    ((), state (log ++ lines))
  distinct : names.Nodup
  noSlash : ∀ name ∈ names, '/' ∉ name.toList

/-- What is logged of a name that leads nowhere. -/
def skipping (directory : String) (dangling : String × FileFault) : LogLine :=
  .warning s!"skipping {FilePath.join directory dangling.1}: {dangling.2.text}"

/-- Whether a name leads to a file, links followed. -/
def leadsToFile (directory : String) (leads : String → Except FileFault Bool) (name : String) :
    Bool :=
  leads (FilePath.join directory name) = .ok true

/-- A name that leads nowhere, with what became of it. -/
def dangling? (directory : String) (leads : String → Except FileFault Bool) (name : String) :
    Option (String × FileFault) :=
  match leads (FilePath.join directory name) with
  | .error e => some (name, e)
  | .ok _ => none

/-- The names of documents that lead to a file, in the order they are listed. -/
def documents (directory : String) (leads : String → Except FileFault Bool) (names : List String) :
    List String :=
  (names.filter isSupported).filter (leadsToFile directory leads)

/-- The names of documents that lead nowhere, in the order they are listed. -/
def danglings (directory : String) (leads : String → Except FileFault Bool) (names : List String) :
    List (String × FileFault) :=
  (names.filter isSupported).filterMap (dangling? directory leads)

def sorted (names : List String) : List String := names.mergeSort fun a b => decide (a ≤ b)

theorem run_files_cons (standing : Standing state directory names leads) (name : String)
    (rest : List String) (log : List LogLine) (supported : isSupported name = true) :
    (files directory (name :: rest) : StateM σ _).run (state log) =
      match leads (FilePath.join directory name) with
      | .ok true =>
        let (found, s) := (files directory rest : StateM σ _).run (state log)
        (name :: found, s)
      | .ok false => (files directory rest : StateM σ _).run (state log)
      | .error e =>
        (files directory rest : StateM σ _).run
          (state (log ++ [skipping directory (name, e)])) := by
  rw [files, if_pos supported, StateT.run_bind, standing.follows]
  match led : leads (FilePath.join directory name) with
  | .ok true => rfl
  | .ok false => rfl
  | .error e =>
      have logged := standing.logs log [skipping directory (name, e)]
      exact congrArg (fun r : Unit × σ => (files directory rest : StateM σ _).run r.2) logged

theorem run_files (standing : Standing state directory names leads) (looked : List String)
    (log : List LogLine) : (files directory looked : StateM σ _).run (state log) =
      (documents directory leads looked,
        state (log ++ (danglings directory leads looked).map (skipping directory))) := by
  induction looked generalizing log with
  | nil =>
      rw [danglings, List.filter_nil, List.filterMap_nil, List.map_nil, List.append_nil]
      rfl
  | cons name rest ih =>
      cases supported : isSupported name with
      | false => simp [files, ih, documents, danglings, supported]
      | true =>
          rw [run_files_cons standing name rest log supported]
          match led : leads (FilePath.join directory name) with
          | .ok true => simp [ih, documents, danglings, supported, leadsToFile, dangling?, led]
          | .ok false => simp [ih, documents, danglings, supported, leadsToFile, dangling?, led]
          | .error e => simp [ih, documents, danglings, supported, leadsToFile, dangling?, led]

theorem run_find (standing : Standing state directory names leads) (log : List LogLine) :
    (find directory : StateM σ _).run (state log) =
      (.ok ((sorted (documents directory leads names)).map (FilePath.join directory)),
        state (log ++ (danglings directory leads names).map (skipping directory))) := by
  rw [find, StateT.run_bind, standing.lists]
  have looked := run_files standing names log
  exact congrArg (fun r : List String × σ =>
    (Except.ok ((sorted r.1).map (FilePath.join directory)), r.2)) looked

theorem mem_documents (standing : Standing state directory names leads) :
    name ∈ documents directory leads names ↔
      name ∈ names ∧ Named name ∧ leads (FilePath.join directory name) = .ok true := by
  rw [documents, List.mem_filter, List.mem_filter, leadsToFile, decide_eq_true_iff, and_assoc]
  refine and_congr_right fun listed => ?_
  rw [isSupported_iff (standing.noSlash name listed)]

theorem sorted_ascending (distinct : names.Nodup) : (sorted names).Pairwise (· < ·) := by
  have le : (sorted names).Pairwise fun a b => decide (a ≤ b) = true := by
    refine List.pairwise_mergeSort (fun a b c ab bc => ?_) (fun a b => ?_) _
    · exact decide_eq_true (le_trans (of_decide_eq_true ab) (of_decide_eq_true bc))
    · simpa using le_total a b
  have nodup : (sorted names).Nodup := (List.mergeSort_perm _ _).nodup_iff.mpr distinct
  exact (le.and nodup).imp fun ⟨le, ne⟩ => lt_of_le_of_ne (of_decide_eq_true le) ne

theorem sorted_of_perm {names' : List String} (distinct : names.Nodup) (same : names'.Perm names) :
    sorted names' = sorted names := by
  have ascending := sorted_ascending distinct
  have ascending' := sorted_ascending (same.nodup_iff.mpr distinct)
  have perm : (sorted names').Perm (sorted names) :=
    (List.mergeSort_perm _ _).trans (same.trans (List.mergeSort_perm _ _).symm)
  exact perm.eq_of_pairwise (fun a b _ _ ab ba => absurd ab (lt_asymm ba)) ascending' ascending

/-- What a search comes to: the paths it gives are those of the names found, and of the names that
lead nowhere it logs a warning each. -/
structure Found (directory : String) (names : List String) (leads : String → Except FileFault Bool)
    (found : List String) (dangling : List (String × FileFault)) : Prop where
  mem_iff : ∀ name, name ∈ found ↔
    name ∈ names ∧ Named name ∧ leads (FilePath.join directory name) = .ok true
  ascending : found.Pairwise fun a b => a.toUTF8.toList < b.toUTF8.toList
  once : (found.map (FilePath.join directory)).Nodup
  mem_dangling_iff : ∀ name e, (name, e) ∈ dangling ↔
    name ∈ names ∧ Named name ∧ leads (FilePath.join directory name) = .error e
  warnedOnce : (dangling.map (·.1)).Nodup

theorem dangling?_eq_some {e : String × FileFault} : dangling? directory leads name = some e ↔
    e.1 = name ∧ leads (FilePath.join directory name) = .error e.2 := by
  obtain ⟨dangling, fault⟩ := e
  rw [dangling?]
  split
  next led => simp [led, eq_comm]
  next led => simp [led]

theorem documents_nodup (directory : String) (leads : String → Except FileFault Bool)
    (distinct : names.Nodup) : (documents directory leads names).Nodup :=
  (distinct.filter _).filter _

theorem found_of_standing (standing : Standing state directory names leads) :
    Found directory names leads (sorted (documents directory leads names))
      (danglings directory leads names) := by
  have ascending := sorted_ascending (documents_nodup directory leads standing.distinct)
  have mem : ∀ name, name ∈ sorted (documents directory leads names) ↔
      name ∈ names ∧ Named name ∧ leads (FilePath.join directory name) = .ok true := fun name =>
    (List.mergeSort_perm _ _).mem_iff.trans (mem_documents standing)
  have fileName : ∀ name ∈ sorted (documents directory leads names), FileName name :=
    fun name listed =>
      have ⟨listed, named, _⟩ := (mem name).mp listed
      named.fileName (standing.noSlash name listed)
  refine ⟨mem, ascending.imp Utf8.toUTF8_lt, ?_, fun name e => ?_, ?_⟩
  · rw [List.Nodup, List.pairwise_map]
    refine ascending.imp_of_mem fun mem mem' less same => ne_of_lt less ?_
    exact Route.join_inj (fileName _ mem) (fileName _ mem') same
  · rw [danglings, List.mem_filterMap]
    constructor
    · rintro ⟨name', listed, given⟩
      obtain ⟨rfl, led⟩ := dangling?_eq_some.mp given
      obtain ⟨listed, supported⟩ := List.mem_filter.mp listed
      exact ⟨listed, (isSupported_iff (standing.noSlash _ listed)).mp supported, led⟩
    · rintro ⟨listed, named, led⟩
      have supported := (isSupported_iff (standing.noSlash _ listed)).mpr named
      exact ⟨name, List.mem_filter.mpr ⟨listed, supported⟩, dangling?_eq_some.mpr ⟨rfl, led⟩⟩
  · rw [List.Nodup, danglings, List.pairwise_map, List.pairwise_filterMap]
    refine (standing.distinct.filter _).imp fun other e given e' given' same => other ?_
    rw [← (dangling?_eq_some.mp given).1, ← (dangling?_eq_some.mp given').1, same]

/-- A search succeeds with the documents in the order of the bytes of their names, and warns of the
names that lead nowhere. It gives the same list in whatever order the directory is listed. -/
theorem documents_found (standing : Standing state directory names leads) (log : List LogLine) :
    ∃ found dangling, Found directory names leads found dangling ∧
      (find directory : StateM σ _).run (state log) =
        (.ok (found.map (FilePath.join directory)),
          state (log ++ dangling.map (skipping directory))) ∧
      ∀ {σ' : Type} [MonadWorkspace (StateM σ')] {state' : List LogLine → σ'} (names' : List String)
        (log' : List LogLine), names'.Perm names → Standing state' directory names' leads →
        ((find directory : StateM σ' _).run (state' log')).1 =
          .ok (found.map (FilePath.join directory)) := by
  refine ⟨_, _, found_of_standing standing, run_find standing log, ?_⟩
  intro σ' _ state' names' log' same standing'
  have listed : (documents directory leads names').Perm (documents directory leads names) :=
    (same.filter _).filter _
  rw [run_find standing' log',
    sorted_of_perm (documents_nodup directory leads standing.distinct) listed]

end Standing

/-- A workspace in memory stands still while it is searched. -/
theorem standing_workspace {w : Workspace} (lists : w.files.list directory = .ok names)
    (distinct : names.Nodup) (noSlash : ∀ name ∈ names, '/' ∉ name.toList) :
    Standing (fun log => { w with log }) directory names w.files.isFile where
  lists _ := congrArg (·, _) lists
  follows _ _ := rfl
  logs _ _ := rfl
  distinct := distinct
  noSlash := noSlash

/-- Documents among other entries: one of them stands behind a link, and one link leads nowhere. -/
def amongOthers : Workspace where
  files.entries := [
    (["work"], .directory), (["work", "text"], .file []), (["work", "docs"], .directory),
    (["work", "docs", "z.yaml"], .file []), (["work", "docs", "a.JSON"], .link "../text"),
    (["work", "docs", "gone.toml"], .link "nowhere"), (["work", "docs", "nested.json"], .directory),
    (["work", "docs", ".json"], .file []), (["work", "docs", "notes.md"], .file [])]
  files.workingDirectory := ["work"]

theorem documents_found_amongOthers :
    Standing (fun log => { amongOthers with log }) "docs"
      ["z.yaml", "a.JSON", "gone.toml", "nested.json", ".json", "notes.md"]
      amongOthers.files.isFile ∧
    ∃ found dangling, Found "docs"
      ["z.yaml", "a.JSON", "gone.toml", "nested.json", ".json", "notes.md"]
      amongOthers.files.isFile found dangling ∧
      (find "docs" : StateM Workspace _).run amongOthers =
        (.ok (found.map (FilePath.join "docs")),
          { amongOthers with log := dangling.map (skipping "docs") }) := by
  have standing : Standing (fun log => { amongOthers with log }) "docs"
      ["z.yaml", "a.JSON", "gone.toml", "nested.json", ".json", "notes.md"]
      amongOthers.files.isFile := by
    have placed : amongOthers.files.placeOf "docs" = .ok ["work", "docs"] :=
      FileTree.placeOf_eq_ok.mpr ⟨⟨false, ["docs"], false⟩,
        Route.ofText_eq_ok.mpr (by decide),
        .into rfl ⟨by decide, by decide, by decide⟩ rfl (by simp) (.here _ _)⟩
    refine standing_workspace ?_ (by decide) (by decide)
    rw [FileTree.list, FileTree.find, placed]
    rfl
  obtain ⟨found, dangling, all, result, -⟩ := documents_found standing []
  exact ⟨standing, found, dangling, all, result⟩

end Documents
end AgentManifest
