import AgentManifest.Proofs.Build.Places
import AgentManifest.Proofs.Document.Messages
import AgentManifest.Proofs.Validation.Messages

/-! The lines of the report on a failed document. There are always as many details as are counted,
and a detail is on one line if the names it shows are: names of fields, tools and files are shown as
they are, so that one with a line feed in it has its detail on two lines that are counted as one. -/

namespace AgentManifest

open Text

theorem ResourceIssue.length_lines (i : ResourceIssue) : i.lines.length = i.count := by
  cases i with
  | invalidPayload name t found =>
      cases found with
      | nil => rfl
      | cons first rest => simp [lines, count]
  | _ => rfl

theorem ResolveError.length_lines (e : ResolveError) : e.lines.length = e.count := by
  obtain ⟨issues⟩ := e
  induction issues with
  | nil => rfl
  | cons i rest ih =>
      have whole : lines ⟨i :: rest⟩ = i.lines ++ lines ⟨rest⟩ := List.flatMap_cons
      have sum : count ⟨i :: rest⟩ = i.count + count ⟨rest⟩ := rfl
      rw [whole, sum, List.length_append, i.length_lines, ih]

namespace DocumentFailure

/-- There are as many details as are counted, whatever failed. -/
theorem length_details (f : DocumentFailure) : f.details.length = f.count := by
  cases f with
  | build e =>
      cases e with
      | validation e => exact List.length_map _
      | resolution e => exact e.length_lines
      | _ => rfl
  | _ => rfl

theorem length_lines_eq_count_iff {f : DocumentFailure} :
    (f.details.flatMap lines).length = f.count ↔ ∀ detail ∈ f.details, OneLine detail := by
  rw [← f.length_details, length_flatMap_lines_eq_iff]

theorem lines_of_join (texts : List String) (behind : String) :
    lines (String.join (texts.map (· ++ "\n")) ++ behind) =
      texts.flatMap lines ++ lines behind := by
  induction texts with
  | nil => simp
  | cons text rest ih =>
      rw [List.map_cons, String.join_cons, List.flatMap_cons, String.append_assoc,
        lines_append_line, ih, List.append_assoc]

theorem lines_report (file : String) (f : DocumentFailure) :
    lines (f.report file) =
      ["# Error summary"] ++ lines (file ++ ": " ++ f.summary) ++ ["", "# Error details"]
        ++ f.details.flatMap lines ++ ["", "# Error count", toString f.count, ""] := by
  have summary : lines "# Error summary" = ["# Error summary"] :=
    lines_of_oneLine (oneLine_ofList (by decide))
  have details : lines "# Error details" = ["# Error details"] :=
    lines_of_oneLine (oneLine_ofList (by decide))
  have counted : lines "# Error count" = ["# Error count"] :=
    lines_of_oneLine (oneLine_ofList (by decide))
  have number : lines (toString f.count) = [toString f.count] :=
    lines_of_oneLine (oneLine_nat f.count)
  have nothing : lines "" = [""] := rfl
  have first : "# Error summary\n" = "# Error summary" ++ "\n" := rfl
  have middle : "\n\n# Error details\n" = "\n" ++ ("" ++ "\n" ++ "# Error details" ++ "\n") := rfl
  have last : "\n# Error count\n" = "" ++ "\n" ++ "# Error count" ++ "\n" := rfl
  have cut : f.report file =
      "# Error summary" ++ "\n" ++ (file ++ ": " ++ f.summary ++ "\n" ++ ("" ++ "\n" ++
        ("# Error details" ++ "\n" ++ (String.join (f.details.map (· ++ "\n")) ++
          ("" ++ "\n" ++ ("# Error count" ++ "\n" ++ (toString f.count ++ "\n" ++ ""))))))) := by
    have whole : f.report file = "# Error summary\n" ++ file ++ ": " ++ f.summary
        ++ "\n\n# Error details\n" ++ String.join (f.details.map (· ++ "\n"))
        ++ ("\n# Error count\n" ++ toString f.count ++ "\n") := rfl
    rw [whole, first, middle, last]
    simp only [String.append_assoc, String.append_empty]
  rw [cut, lines_append_line, lines_append_line, lines_append_line, lines_append_line,
    lines_of_join, lines_append_line, lines_append_line, lines_append_line, summary, details,
    counted, number, nothing]
  simp

end DocumentFailure

theorem ToolType.oneLine_name (t : ToolType) : OneLine t.name := by
  cases t <;> exact oneLine_ofList (by decide)

namespace ResourceIssue

/-- The names that are shown with an issue. -/
def shownNames : ResourceIssue → List String
  | .invalidPayload name _ found => name :: found.flatMap (·.path.names)
  | i => [i.name]

/-- The violations of a payload say what they say on one line. -/
def Plain (i : ResourceIssue) : Prop :=
  ∀ name t found, i = .invalidPayload name t found → ∀ w ∈ found, OneLine w.message

theorem oneLine_lines {i : ResourceIssue} (plain : i.Plain) :
    (∀ line ∈ i.lines, OneLine line) ↔ ∀ name ∈ i.shownNames, OneLine name := by
  have tool : OneLine "tool '" := oneLine_ofList (by decide)
  have resource : OneLine "tool resource '" := oneLine_ofList (by decide)
  cases i with
  | unmatched name =>
      have rest : OneLine "' does not match any declared tool" := oneLine_ofList (by decide)
      simp only [lines, shownNames, List.forall_mem_singleton]
      exact oneLine_between resource rest
  | missing name t =>
      have opening : OneLine "' (" := oneLine_ofList (by decide)
      have rest : OneLine ") has no tool resource" := oneLine_ofList (by decide)
      simp only [lines, shownNames, List.forall_mem_singleton]
      refine (oneLine_append.trans (and_iff_left rest)).trans ?_
      exact (oneLine_append.trans (and_iff_left t.oneLine_name)).trans (oneLine_between tool opening)
  | duplicateTool name =>
      have rest : OneLine "' is declared more than once" := oneLine_ofList (by decide)
      simp only [lines, shownNames, List.forall_mem_singleton]
      exact oneLine_between tool rest
  | duplicateResource name =>
      have rest : OneLine "' is given more than once" := oneLine_ofList (by decide)
      simp only [lines, shownNames, List.forall_mem_singleton]
      exact oneLine_between resource rest
  | invalidPayload name t found =>
      have shown := plain name t found rfl
      cases found with
      | nil =>
          have invalid : OneLine "' is not a valid " := oneLine_ofList (by decide)
          have rest : OneLine " resource: " := oneLine_ofList (by decide)
          have nothing : OneLine "no details" := oneLine_ofList (by decide)
          simp only [lines, shownNames, List.flatMap_nil, List.forall_mem_singleton]
          refine (oneLine_append.trans (and_iff_left nothing)).trans ?_
          refine (oneLine_append.trans (and_iff_left rest)).trans ?_
          refine (oneLine_append.trans (and_iff_left t.oneLine_name)).trans ?_
          exact oneLine_between resource invalid
      | cons first rest =>
          have opening : OneLine " (tool resource '" := oneLine_ofList (by decide)
          have closing : OneLine "')" := oneLine_ofList (by decide)
          have line (w : Violation) : OneLine s!"{w.text} (tool resource '{name}')" ↔
              OneLine w.text ∧ OneLine name := by
            simp [opening, closing]
          have each : ∀ w ∈ first :: rest, OneLine w.text ↔ ∀ name ∈ w.path.names, OneLine name :=
            fun w inside => Violation.oneLine_text (shown w inside)
          constructor
          · intro whole shownName inside
            rcases List.mem_cons.mp inside with rfl | inside
            · exact ((line first).mp (whole _ List.mem_cons_self)).2
            · obtain ⟨w, listed, within⟩ := List.mem_flatMap.mp inside
              have text := ((line w).mp (whole _ (List.mem_map_of_mem listed))).1
              exact (each w listed).mp text _ within
          · intro whole text inside
            obtain ⟨w, listed, rfl⟩ := List.mem_map.mp inside
            refine (line w).mpr ⟨(each w listed).mpr fun shownName within => ?_,
              whole _ List.mem_cons_self⟩
            exact whole _ (List.mem_cons_of_mem _ (List.mem_flatMap.mpr ⟨w, listed, within⟩))

end ResourceIssue

namespace AgentSchema

variable {policy : MissingResourcePolicy} {t : ToolType} {payload : Members} {place : FieldPath}
  {found : List Violation}

theorem oneLine_of_refuses (wellFormed : (Json.object payload).WellFormed)
    (refused : Resolution.Refuses (builder policy).resources place payload t found) :
    ∀ w ∈ found, OneLine w.message := by
  cases refused with
  | noResource none_ =>
      have rest : OneLine " tools do not take a tool resource" := oneLine_ofList (by decide)
      exact List.forall_mem_singleton.mpr (oneLine_append.mpr ⟨t.oneLine_name, rest⟩)
  | undecodable drifts => exact absurd drifts ((builder_agrees policy).not_drifts wellFormed)
  | unmet called unmet =>
      obtain ⟨-, rfl⟩ := SubSchema.validate_eq_error_iff.mp unmet
      intro w inside
      obtain ⟨own, listed, rfl⟩ := List.mem_map.mp inside
      have plain : OneLine own.message := SubSchema.oneLine_of_violations listed
      exact plain
  | twoSources met decoded both => exact List.forall_mem_singleton.mpr (oneLine_ofList (by decide))
  | noSource met decoded neither => exact List.forall_mem_singleton.mpr (oneLine_ofList (by decide))

theorem plain_of_buildTree {v : Json} {e : ResolveError} (wellFormed : v.WellFormed)
    (refused : ((builder policy).buildTree v).result = .error (.resolution e)) :
    ∀ i ∈ e.issues, i.Plain := by
  obtain ⟨w, r, met, read, resolved⟩ := Builder.resolve_of_buildTree refused
  rintro i inside name t found rfl
  obtain ⟨position, entry, listed, -, reported⟩ :=
    Resolution.refuses_of_invalidPayload resolved inside
  exact oneLine_of_refuses
    (payloads_of_accepted wellFormed met read entry (List.mem_of_getElem? listed)) reported

end AgentSchema

namespace DocumentFailure

/-- The names that are shown with the failure of a document: those of fields, tools and files, and
for other failures the sentences of others. -/
def shownNames (file : String) (bytes : List UInt8) : DocumentFailure → List String
  | .build (.parse _) => file :: Document.shownNames (.ofPath file) bytes
  | .build (.validation e) => e.violations.flatMap (·.path.names)
  | .build (.resolution e) => e.issues.flatMap ResourceIssue.shownNames
  | .build (.decode _) => []
  | .read path message => [path, message]
  | .sink name chain => name :: chain.contexts
  | .aborted reason => [reason]

variable {policy : MissingResourcePolicy} {overrides : Overrides} {file : String}
  {bytes : List UInt8}

/-- With the agent schema, the details of a failure are on one line each if the names are. -/
theorem oneLine_details {f : DocumentFailure} (produced : ∀ e, f = .build e →
      ((AgentSchema.builder policy).build overrides file bytes).result = .error e) :
    (∀ detail ∈ f.details, OneLine detail) ↔ ∀ name ∈ f.shownNames file bytes, OneLine name := by
  cases f with
  | read path message =>
      have lead : OneLine "could not read " := oneLine_ofList (by decide)
      have colon : OneLine ": " := oneLine_ofList (by decide)
      refine List.forall_mem_singleton.trans (Iff.trans ?_ List.forall_mem_cons.symm)
      rw [List.forall_mem_singleton]
      exact oneLine_append.trans (and_congr_left' (oneLine_between lead colon))
  | sink name chain =>
      have failed : OneLine " sink failed: " := oneLine_ofList (by decide)
      have colon : OneLine ": " := oneLine_ofList (by decide)
      refine List.forall_mem_singleton.trans (Iff.trans ?_ List.forall_mem_cons.symm)
      rw [← oneLine_intercalate colon]
      exact oneLine_append.trans (and_congr_left' (oneLine_append.trans (and_iff_left failed)))
  | aborted reason =>
      have lead : OneLine "processing task aborted: " := oneLine_ofList (by decide)
      refine List.forall_mem_singleton.trans (Iff.trans ?_ List.forall_mem_singleton.symm)
      exact oneLine_append.trans (and_iff_right lead)
  | build e =>
      rcases Builder.build_eq_error (produced e rfl) with ⟨unread, failed, rfl⟩ | ⟨tree, read, refused⟩
      · refine List.forall_mem_singleton.trans (Iff.trans ?_ List.forall_mem_cons.symm)
        exact Document.oneLine_of_read failed
      have wellFormed := overrides.apply_wellFormed (Document.wellFormed_of_read read)
      cases e with
      | parse e => exact absurd refused (Builder.buildTree_ne_parse e)
      | decode m =>
          exact absurd (produced _ rfl)
            ((AgentSchema.build_never_drifts policy overrides file bytes).1 m)
      | validation e =>
          have unmet := Builder.validate_of_buildTree refused
          obtain ⟨-, rfl⟩ := SubSchema.validate_eq_error_iff.mp unmet
          refine List.forall_mem_map.trans (Iff.trans ?_ List.forall_mem_flatMap.symm)
          exact forall₂_congr fun w inside =>
            Violation.oneLine_text (SubSchema.oneLine_of_violations inside)
      | resolution e =>
          have plain := AgentSchema.plain_of_buildTree wellFormed refused
          refine List.forall_mem_flatMap.trans (Iff.trans ?_ List.forall_mem_flatMap.symm)
          exact forall₂_congr fun i inside => ResourceIssue.oneLine_lines (plain i inside)

/-- A report lists as many details as it counts, between the lines that announce the two. Each
detail has a line, and there are no more lines than are counted if every detail is on one. With the
agent schema that depends on names alone: the names that are shown of fields, tools and files, and
what others say of files, sinks and tasks. Everything else that is quoted is escaped. -/
theorem report_counts_details (f : DocumentFailure) (file : String) :
    f.details.length = f.count ∧
    lines (f.report file) =
      ["# Error summary"] ++ lines (file ++ ": " ++ f.summary) ++ ["", "# Error details"]
        ++ f.details.flatMap lines ++ ["", "# Error count", toString f.count, ""] ∧
    ((f.details.flatMap lines).length = f.count ↔ ∀ detail ∈ f.details, OneLine detail) ∧
    ∀ policy b, Builder.ofStore AgentSchema.store policy = .ok b → ∀ overrides bytes,
      (∀ e, f = .build e → (b.build overrides file bytes).result = .error e) →
        ((f.details.flatMap lines).length = f.count ↔
          ∀ name ∈ f.shownNames file bytes, OneLine name) := by
  refine ⟨length_details f, lines_report file f, length_lines_eq_count_iff, ?_⟩
  intro policy b chosen overrides bytes produced
  rw [AgentSchema.ofStore_eq_builder] at chosen
  cases chosen
  exact length_lines_eq_count_iff.trans (oneLine_details produced)

/-- An agent with one more field, whose name is spelled as it stands. -/
def oneMoreFieldBytes (spelling : String) : List UInt8 :=
  ("\x7b\"database_name\":\"D\",\"schema_name\":\"S\",\"name\":\"n\",\"" ++ spelling
    ++ "\":1\x7d").toUTF8.toList

def oneMoreField (key : String) : Json :=
  .object [("database_name", .string "D"), ("schema_name", .string "S"), ("name", .string "n"),
    (key, .number (.integer 1))]

theorem report_counts_details_one_more_field :
    ∃ e, ((AgentSchema.builder .strict).build ⟨none, none, none⟩ "a.json"
        (oneMoreFieldBytes "a b")).result = .error e ∧
      ((build e).details.flatMap lines).length = (build e).count := by
  have read : Document.read "a.json" (oneMoreFieldBytes "a b") =
      .ok (oneMoreField "a b").canonical :=
    Document.read_chars rfl (spelled_append (spelled_append rfl rfl) rfl) rfl
  have fails : ∃ e, ((AgentSchema.builder .strict).build ⟨none, none, none⟩ "a.json"
        (oneMoreFieldBytes "a b")).result = .error e ∧
      shownNames "a.json" (oneMoreFieldBytes "a b") (build e) = ["a b"] := by
    rw [Builder.build, read]
    decide
  obtain ⟨e, refused, shown⟩ := fails
  have produced : ∀ e', build e = build e' →
      ((AgentSchema.builder .strict).build ⟨none, none, none⟩ "a.json"
        (oneMoreFieldBytes "a b")).result = .error e' := by
    intro e' same
    cases same
    exact refused
  have counted := (report_counts_details _ "a.json").2.2.2 .strict _
    (AgentSchema.ofStore_eq_builder .strict) ⟨none, none, none⟩ _ produced
  rw [shown] at counted
  exact ⟨e, refused, counted.mpr (List.forall_mem_singleton.mpr (oneLine_ofList (by decide)))⟩

/-- The name of a field with a line feed puts its detail on two lines, which are counted as one. -/
theorem field_breaks_line :
    ∃ e, ((AgentSchema.builder .strict).build ⟨none, none, none⟩ "a.json"
        (oneMoreFieldBytes "a\\nb")).result = .error e ∧
      (build e).details.flatMap lines = ["a", "b: field is not allowed"] ∧ (build e).count = 1 := by
  have read : Document.read "a.json" (oneMoreFieldBytes "a\\nb") =
      .ok (oneMoreField "a\nb").canonical :=
    Document.read_chars rfl (spelled_append (spelled_append rfl rfl) rfl) rfl
  rw [Builder.build, read]
  decide

end DocumentFailure
end AgentManifest
