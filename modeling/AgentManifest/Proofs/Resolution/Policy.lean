import AgentManifest.Proofs.Resolution.Order

/-! What the policy on missing resources makes of a join. The lenient policy drops the issues about
missing resources and logs a warning for each of them instead; all else is as under the strict
one. -/

namespace AgentManifest

namespace ResourceIssue

/-- Whether the issue is a tool without a resource. -/
def isMissing : ResourceIssue → Bool
  | .missing .. => true
  | _ => false

end ResourceIssue

namespace Resolution

variable {schemas : ResourceSchemas} {policy : MissingResourcePolicy} {tools : List Tool}
  {entries : List ResourceEntry}

/-- The warning on a tool that is left without a resource. -/
def missingWarning (name : String) (t : ToolType) : LogLine :=
  .warning s!"tool '{name}' ({t.name}) has no tool resource; continuing without one"

/-- The warning that says what an issue about a missing resource says. -/
def warning? : ResourceIssue → Option LogLine
  | .missing name t => some (missingWarning name t)
  | _ => none

/-- The issues that a join ends with. -/
def reported (joined : Except ResolveError (Keyed ToolResource)) : List ResourceIssue :=
  match joined with
  | .ok _ => []
  | .error e => e.issues

theorem reported_resolve :
    reported (resolve schemas policy tools entries) = issues schemas policy tools entries := by
  unfold resolve
  split
  next none_ => exact none_.symm
  next => rfl

theorem warning?_of_not_missing {issue : ResourceIssue} (other : issue.isMissing = false) :
    warning? issue = none := by
  cases issue with
  | missing => cases other
  | _ => rfl

theorem not_missing_of_duplicateTools : ∀ issue ∈ duplicateTools tools, issue.isMissing = false := by
  intro issue listed
  obtain ⟨⟨earlier, tool⟩, -, raised⟩ := List.mem_filterMap.mp listed
  dsimp only at raised
  split at raised
  · cases raised
    rfl
  · cases raised

theorem not_missing_of_verdict {entry : List ResourceEntry × ResourceEntry} {issue : ResourceIssue}
    (raised : (verdict schemas tools entry).issue? = some issue) : issue.isMissing = false := by
  have told : EntryIssue schemas tools entry (verdict schemas tools entry).issue? :=
    entryIssue_of_verdict entry
  rw [raised] at told
  cases told <;> rfl

/-- The issues that no policy changes: those of tools declared again and those of entries. -/
def keptIssues (schemas : ResourceSchemas) (tools : List Tool) (entries : List ResourceEntry) :
    List ResourceIssue :=
  duplicateTools tools ++
    (preceded entries).filterMap fun entry => (verdict schemas tools entry).issue?

theorem not_missing_of_keptIssues :
    ∀ issue ∈ keptIssues schemas tools entries, issue.isMissing = false := by
  intro issue listed
  rcases List.mem_append.mp listed with again | raised
  · exact not_missing_of_duplicateTools issue again
  · obtain ⟨entry, -, raised⟩ := List.mem_filterMap.mp raised
    exact not_missing_of_verdict raised

theorem issues_lenient : issues schemas .lenient tools entries = keptIssues schemas tools entries := by
  rw [issues_eq, missingResources, List.append_nil, keptIssues]

theorem issues_strict : issues schemas .strict tools entries = keptIssues schemas tools entries ++
    (unserved tools entries).map fun t => .missing t.name t.toolType := by
  rw [issues_eq, ← missingResources_eq, unservedIssues, keptIssues]

theorem issues_lenient_eq_filter : issues schemas .lenient tools entries =
    (issues schemas .strict tools entries).filter (!·.isMissing) := by
  have kept : (keptIssues schemas tools entries).filter (!·.isMissing) =
      keptIssues schemas tools entries :=
    List.filter_eq_self.mpr fun issue listed => by simp [not_missing_of_keptIssues issue listed]
  rw [issues_lenient, issues_strict, List.filter_append, kept, List.filter_map]
  simp [Function.comp_def, ResourceIssue.isMissing]

variable {name : String} {t : ToolType}

/-- What a check remarks on a schema is no such warning: the two begin with other letters. -/
theorem warning_ne_missingWarning {sub : SubSchema} {v : Json} {notice : String}
    (remarked : notice ∈ sub.notices v) : LogLine.warning notice ≠ missingWarning name t := by
  obtain ⟨finding, -, said⟩ := List.mem_filterMap.mp remarked
  cases finding with
  | violation => cases said
  | endlessReference target path =>
      cases said
      intro same
      have front := congrArg (fun line => line.message.toList.head?) same
      simp [LogLine.warning, missingWarning, toString] at front

theorem missingWarning_not_mem_accept {asked : ToolType} {place : FieldPath} {payload : Members} :
    missingWarning name t ∉ (accept schemas asked place payload).log := by
  intro logged
  unfold accept at logged
  split at logged
  next => cases logged
  next sub called =>
    have unremarked : missingWarning name t ∉ (sub.notices (.object payload)).map .warning := by
      intro listed
      obtain ⟨notice, remarked, same⟩ := List.mem_map.mp listed
      exact warning_ne_missingWarning remarked same
    dsimp only at logged
    split at logged
    next =>
      split at logged
      next => exact unremarked logged
      next fault decided =>
        rcases List.mem_append.mp logged with listed | listed
        · exact unremarked listed
        · cases fault with
          | unreadable m => cases congrArg LogLine.level (List.mem_singleton.mp listed)
          | noResourceTaken | twoSources | noSource => cases listed
    next => exact unremarked logged

theorem missingWarning_not_mem_judge {earlier : List String} {position : Nat} {e : ResourceEntry} :
    missingWarning name t ∉ (judge schemas tools earlier position e).log := by
  unfold judge
  split
  · exact List.not_mem_nil
  · split
    · exact List.not_mem_nil
    · dsimp only
      split <;> exact missingWarning_not_mem_accept

theorem missingWarning_not_mem_log : missingWarning name t ∉ log schemas .strict tools entries := by
  rw [log, unservedLog, List.append_nil, judgeAll_eq]
  intro logged
  obtain ⟨judged, listed, logged⟩ := List.mem_flatMap.mp logged
  obtain ⟨entry, -, rfl⟩ := List.mem_map.mp listed
  exact missingWarning_not_mem_judge logged

theorem filterMap_warning?_issues : (issues schemas .strict tools entries).filterMap warning? =
    (unserved tools entries).map fun t => missingWarning t.name t.toolType := by
  have quiet : (keptIssues schemas tools entries).filterMap warning? = [] :=
    List.filterMap_eq_nil_iff.mpr fun issue listed =>
      warning?_of_not_missing (not_missing_of_keptIssues issue listed)
  rw [issues_strict, List.filterMap_append, quiet, List.filterMap_map, List.nil_append,
    ← List.filterMap_eq_map]
  rfl

theorem log_lenient : log schemas .lenient tools entries = log schemas .strict tools entries ++
    (issues schemas .strict tools entries).filterMap warning? := by
  rw [filterMap_warning?_issues, log, log, unservedLog, unservedLog, List.append_nil]
  rfl

/-- The lenient policy relaxes the strict one by missing resources only. A join ends with the same
issues in the same order, those about missing resources left out; one that succeeds under the strict
policy succeeds with the same resources. What is logged is the same as well, with a warning behind
it for each issue left out, in their order; under the strict policy there are no such warnings. -/
theorem lenient_relaxes_missing (schemas : ResourceSchemas) (tools : List Tool)
    (entries : List ResourceEntry) :
    reported (resolve schemas .lenient tools entries) =
      (reported (resolve schemas .strict tools entries)).filter (!·.isMissing) ∧
    (∀ m, resolve schemas .strict tools entries = .ok m →
      resolve schemas .lenient tools entries = .ok m) ∧
    log schemas .lenient tools entries = log schemas .strict tools entries ++
      (reported (resolve schemas .strict tools entries)).filterMap warning? ∧
    ∀ name t, missingWarning name t ∉ log schemas .strict tools entries := by
  rw [reported_resolve, reported_resolve]
  refine ⟨issues_lenient_eq_filter, fun m resolved => ?_, log_lenient,
    fun name t => missingWarning_not_mem_log⟩
  have quiet : issues schemas .strict tools entries = [] := by
    rw [← reported_resolve, resolved, reported]
  have quiet' : issues schemas .lenient tools entries = [] := by
    rw [issues_lenient_eq_filter, quiet, List.filter_nil]
  rw [resolve, quiet] at resolved
  rwa [resolve, quiet']

theorem lenient_relaxes_missing_mixed : ∃ schemas,
    ResourceSchemas.ofStore AgentSchema.store = .ok schemas ∧
      (∃ m, resolve schemas .strict mixedTools mixedEntries = .ok m ∧
        Keyed.keys m = ["docs", "sales"] ∧
        resolve schemas .lenient mixedTools mixedEntries = .ok m) ∧
      reported (resolve schemas .strict mixedTools []) =
        [.missing "docs" .search, .missing "sales" .analyst] ∧
      log schemas .lenient mixedTools [] =
        [missingWarning "docs" .search, missingWarning "sales" .analyst] := by
  have given : ∃ schemas, ResourceSchemas.ofStore AgentSchema.store = .ok schemas ∧
      (∃ m, resolve schemas .strict mixedTools mixedEntries = .ok m ∧
        Keyed.keys m = ["docs", "sales"]) ∧
      reported (resolve schemas .strict mixedTools []) =
        [.missing "docs" .search, .missing "sales" .analyst] := by
    decide
  obtain ⟨schemas, chosen, ⟨m, joined, keys⟩, missing⟩ := given
  obtain ⟨-, keeps, -, -⟩ := lenient_relaxes_missing schemas mixedTools mixedEntries
  obtain ⟨-, -, logged, -⟩ := lenient_relaxes_missing schemas mixedTools []
  refine ⟨schemas, chosen, ⟨m, joined, keys, keeps m joined⟩, missing, ?_⟩
  rw [logged, missing]
  rfl

end Resolution
end AgentManifest
