import Mathlib.Data.List.ReduceOption
import AgentManifest.Proofs.Keyed.Order
import AgentManifest.Proofs.Resolution.Payload

/-! The issues between tools and tool resource entries, stated for each tool and each entry from
what stands in front of it, and the join of the two when there is no issue. -/

namespace AgentManifest.Resolution

section Preceded

variable {α β : Type}

/-- The elements of a list, each with those in front of it. -/
def preceded (items : List α) : List (List α × α) :=
  items.mapIdx fun position item => (items.take position, item)

@[simp] theorem preceded_nil : preceded ([] : List α) = [] := rfl

@[simp] theorem preceded_cons (first : α) (rest : List α) :
    preceded (first :: rest) =
      ([], first) :: (preceded rest).map fun entry => (first :: entry.1, entry.2) := by
  refine List.ext_getElem? fun i => ?_
  cases i with
  | zero => simp [preceded]
  | succ i => simp [preceded, Function.comp_def]

theorem map_snd_preceded (items : List α) : (preceded items).map (·.2) = items := by
  induction items with
  | nil => rfl
  | cons first rest ih => simpa [Function.comp_def] using ih

/-- A relation holds pairwise if it holds of each element and all that precede it. -/
theorem pairwise_iff_preceded {R : α → α → Prop} {items : List α} :
    items.Pairwise R ↔ ∀ entry ∈ preceded items, ∀ other ∈ entry.1, R other entry.2 := by
  induction items with
  | nil => simp
  | cons first rest ih =>
      have behind : (∀ item ∈ rest, R first item) ↔ ∀ entry ∈ preceded rest, R first entry.2 := by
        conv_lhs => rw [← map_snd_preceded rest]
        exact List.forall_mem_map
      rw [List.pairwise_cons, ih, behind, preceded_cons, List.forall_mem_cons, List.forall_mem_map]
      simp only [List.not_mem_nil, false_implies, implies_true, true_and, List.forall_mem_cons]
      exact ⟨fun ⟨first, later⟩ entry inside => ⟨first entry inside, later entry inside⟩,
        fun each => ⟨fun entry inside => (each entry inside).1, fun entry inside =>
          (each entry inside).2⟩⟩

end Preceded

variable {schemas : ResourceSchemas} {policy : MissingResourcePolicy} {tools : List Tool}
  {entries : List ResourceEntry}

/-- One issue for each tool whose name occurred before, in the order of the tools. -/
def duplicateTools (tools : List Tool) : List ResourceIssue :=
  (preceded tools).filterMap fun (earlier, tool) =>
    if ∃ other ∈ earlier, other.name = tool.name then some (.duplicateTool tool.name) else none

/-- One issue for each name whose first tool needs a resource that no entry gives, in the order of
the tools, under the strict policy only. -/
def missingResources (policy : MissingResourcePolicy) (tools : List Tool)
    (entries : List ResourceEntry) : List ResourceIssue :=
  match policy with
  | .strict => (preceded tools).filterMap fun (earlier, tool) =>
    if (∀ other ∈ earlier, other.name ≠ tool.name) ∧ tool.toolType.takesResource = true ∧
        ∀ entry ∈ entries, entry.name ≠ tool.name then
      some (.missing tool.name tool.toolType)
    else none
  | .lenient => []

/-- What issue there is with an entry behind the given ones. The first tool of its name decides. -/
inductive EntryIssue (schemas : ResourceSchemas) (tools : List Tool) :
    List ResourceEntry × ResourceEntry → Option ResourceIssue → Prop where
  /-- An earlier entry has the name, whatever became of it. -/
  | duplicate {earlier : List ResourceEntry} {entry : ResourceEntry}
      (again : ∃ other ∈ earlier, other.name = entry.name) :
      EntryIssue schemas tools (earlier, entry) (some (.duplicateResource entry.name))
  | unmatched {earlier : List ResourceEntry} {entry : ResourceEntry}
      (first : ∀ other ∈ earlier, other.name ≠ entry.name)
      (unknown : ∀ tool ∈ tools, tool.name ≠ entry.name) :
      EntryIssue schemas tools (earlier, entry) (some (.unmatched entry.name))
  | invalid {earlier : List ResourceEntry} {entry : ResourceEntry} {tool : Tool}
      {violations : List Violation}
      (first : ∀ other ∈ earlier, other.name ≠ entry.name)
      (known : tools.find? (·.name = entry.name) = some tool)
      (unacceptable : ∀ resource, ¬ Takes schemas entry.payload tool.toolType resource)
      (reported : Refuses schemas ((FieldPath.root.field "tool_resources").index earlier.length)
        entry.payload tool.toolType violations) :
      EntryIssue schemas tools (earlier, entry)
        (some (.invalidPayload entry.name tool.toolType violations))
  | none {earlier : List ResourceEntry} {entry : ResourceEntry} {tool : Tool}
      {resource : ToolResource}
      (first : ∀ other ∈ earlier, other.name ≠ entry.name)
      (known : tools.find? (·.name = entry.name) = some tool)
      (taken : Takes schemas entry.payload tool.toolType resource) :
      EntryIssue schemas tools (earlier, entry) none

/-- A name that occurs before the first element, or in front of a later one. -/
def Occurred (earlier : List String) (entry : List Tool × Tool) : Prop :=
  entry.2.name ∈ earlier ∨ ∃ other ∈ entry.1, other.name = entry.2.name

instance (earlier : List String) : DecidablePred (Occurred earlier) := fun entry =>
  inferInstanceAs
    (Decidable (entry.2.name ∈ earlier ∨ ∃ other ∈ entry.1, other.name = entry.2.name))

theorem occurred_behind {earlier : List String} {first : Tool} {entry : List Tool × Tool} :
    Occurred earlier (first :: entry.1, entry.2) ↔ Occurred (first.name :: earlier) entry := by
  simp only [Occurred, List.mem_cons, exists_eq_or_imp, eq_comm (a := first.name)]
  tauto

theorem occurred_again {earlier : List String} {first : Tool} {entry : List Tool × Tool}
    (again : first.name ∈ earlier) :
    Occurred (first.name :: earlier) entry ↔ Occurred earlier entry := by
  have same : entry.2.name ∈ first.name :: earlier ↔ entry.2.name ∈ earlier := by
    rw [List.mem_cons]
    exact ⟨fun given => given.elim (· ▸ again) id, .inr⟩
  rw [Occurred, Occurred, same]

theorem repeated_eq (earlier : List String) (tools : List Tool) :
    (repeated earlier (tools.map (·.name))).map ResourceIssue.duplicateTool =
      (preceded tools).filterMap fun entry =>
        if Occurred earlier entry then some (.duplicateTool entry.2.name) else none := by
  -- The scan carries the names it has passed, so the induction is over every such list.
  induction tools generalizing earlier with
  | nil => rfl
  | cons first rest ih =>
      rw [List.map_cons, repeated, preceded_cons, List.filterMap_cons, List.filterMap_map]
      simp only [Function.comp_def, occurred_behind]
      by_cases again : first.name ∈ earlier
      · have now : Occurred earlier ([], first) := .inl again
        simp only [again, now, if_true, List.map_cons, ih, occurred_again again]
      · have notNow : ¬ Occurred earlier ([], first) := by simpa [Occurred] using again
        simp only [again, notNow, if_false, ih]

theorem firstOfName_eq {β : Type} (earlier : List String) (tools : List Tool)
    (report : Tool → Option β) :
    (firstOfName earlier tools).filterMap report =
      (preceded tools).filterMap fun entry =>
        if Occurred earlier entry then none else report entry.2 := by
  induction tools generalizing earlier with
  | nil => rfl
  | cons first rest ih =>
      rw [firstOfName, preceded_cons, List.filterMap_cons, List.filterMap_map]
      simp only [Function.comp_def, occurred_behind]
      by_cases again : first.name ∈ earlier
      · have now : Occurred earlier ([], first) := .inl again
        simp only [again, now, if_true, ih, occurred_again again]
      · have notNow : ¬ Occurred earlier ([], first) := by simpa [Occurred] using again
        simp only [again, notNow, if_false, List.filterMap_cons, ih]

theorem duplicateTools_eq (tools : List Tool) :
    (repeated [] (tools.map (·.name))).map ResourceIssue.duplicateTool = duplicateTools tools := by
  rw [repeated_eq, duplicateTools]
  simp [Occurred]

theorem missingResources_eq (policy : MissingResourcePolicy) (tools : List Tool)
    (entries : List ResourceEntry) :
    unservedIssues policy (unserved tools entries) = missingResources policy tools entries := by
  cases policy with
  | lenient => rfl
  | strict =>
      rw [unservedIssues, missingResources, unserved, ← List.filterMap_eq_map,
        List.filterMap_filter, firstOfName_eq]
      refine List.filterMap_congr fun entry _ => ?_
      obtain ⟨earlier, tool⟩ := entry
      by_cases before : Occurred [] (earlier, tool)
      · have again : ¬ ∀ other ∈ earlier, other.name ≠ tool.name := by
          simpa [Occurred] using before
        simp only [before, again, if_true, false_and, if_false]
      · have first : (∀ other ∈ earlier, other.name ≠ tool.name) = True := by
          simpa [Occurred] using before
        simp only [before, first, if_false, true_and]
        simp

theorem judgeAll_eq (earlier : List String) (position : Nat) :
    judgeAll schemas tools earlier position entries =
      (preceded entries).map fun entry =>
        judge schemas tools ((entry.1.map (·.name)).reverse ++ earlier) (position + entry.1.length)
          entry.2 := by
  induction entries generalizing earlier position with
  | nil => rfl
  | cons first rest ih =>
      rw [judgeAll, ih, preceded_cons, List.map_cons, List.map_map]
      simp [Function.comp_def, Nat.add_assoc, Nat.add_comm 1]

/-- The verdict on an entry behind others. -/
def verdict (schemas : ResourceSchemas) (tools : List Tool)
    (entry : List ResourceEntry × ResourceEntry) : Verdict :=
  (judge schemas tools (entry.1.map (·.name)).reverse entry.1.length entry.2).result

/-- What is gathered from the judgements is gathered from the verdicts on the entries. -/
theorem filterMap_judgeAll {β : Type} (pick : Verdict → Option β) :
    (judgeAll schemas tools [] 0 entries).filterMap (fun judged => pick judged.result) =
      (preceded entries).filterMap fun entry => pick (verdict schemas tools entry) := by
  rw [judgeAll_eq, List.filterMap_map]
  refine List.filterMap_congr fun entry _ => ?_
  simp only [Function.comp_def, List.append_nil, Nat.zero_add]
  rfl

/-- The issue that a verdict raises. -/
def Verdict.issue? : Verdict → Option ResourceIssue
  | .ok _ => none
  | .error issue => some issue

theorem typeOf?_eq_some_iff {name : String} {t : ToolType} :
    typeOf? tools name = some t ↔
      ∃ tool, tools.find? (·.name = name) = some tool ∧ tool.toolType = t := by
  rw [typeOf?, Option.map_eq_some_iff]

theorem entryIssue_of_verdict (entry : List ResourceEntry × ResourceEntry) :
    EntryIssue schemas tools entry (verdict schemas tools entry).issue? := by
  obtain ⟨earlier, e⟩ := entry
  rw [verdict, judge]
  split
  next again =>
    have found : ∃ other ∈ earlier, other.name = e.name := by simpa using again
    exact .duplicate found
  next notAgain =>
    have first : ∀ other ∈ earlier, other.name ≠ e.name := by simpa using notAgain
    split
    next unknown =>
      refine .unmatched first ?_
      simpa [typeOf?] using unknown
    next t known =>
      obtain ⟨tool, found, rfl⟩ := typeOf?_eq_some_iff.mp known
      dsimp only
      split
      next resource accepted => exact .none first found (takes_of_accept accepted)
      next violations refused =>
        exact .invalid first found (fun resource => not_takes_of_accept refused)
          (refuses_of_accept refused)

theorem issues_eq (policy : MissingResourcePolicy) :
    issues schemas policy tools entries =
      duplicateTools tools
        ++ (preceded entries).filterMap (fun entry => (verdict schemas tools entry).issue?)
        ++ missingResources policy tools entries := by
  rw [issues, duplicateTools_eq, missingResources_eq, ← filterMap_judgeAll]
  rfl

/-- What an entry comes to when there is no issue: a resource that the first tool of its name takes,
under that name. -/
def Joined (schemas : ResourceSchemas) (tools : List Tool) (e : ResourceEntry)
    (item : String × ToolResource) : Prop :=
  item.1 = e.name ∧ ∃ tool, tools.find? (·.name = e.name) = some tool ∧
    Takes schemas e.payload tool.toolType item.2

theorem joined_of_verdict {entry : List ResourceEntry × ResourceEntry}
    {item : String × ToolResource} (accepted : verdict schemas tools entry = .ok item) :
    Joined schemas tools entry.2 item := by
  rw [verdict, judge] at accepted
  split at accepted
  · cases accepted
  · split at accepted
    · cases accepted
    next t known =>
      obtain ⟨tool, found, rfl⟩ := typeOf?_eq_some_iff.mp known
      dsimp only at accepted
      split at accepted
      next resource taken =>
        cases accepted
        exact ⟨rfl, tool, found, takes_of_accept taken⟩
      next => cases accepted

theorem joined_of_verdicts {judged : List (List ResourceEntry × ResourceEntry)}
    (quiet : ∀ entry ∈ judged, (verdict schemas tools entry).issue? = none) :
    List.Forall₂ (Joined schemas tools) (judged.map (·.2))
      (judged.filterMap fun entry => (verdict schemas tools entry).toOption) := by
  induction judged with
  | nil => exact .nil
  | cons first rest ih =>
      obtain ⟨quiet_first, quiet_rest⟩ := List.forall_mem_cons.mp quiet
      cases accepted : verdict schemas tools first with
      | error issue => simp [accepted, Verdict.issue?] at quiet_first
      | ok item =>
          have kept : (verdict schemas tools first).toOption = some item := by
            simp [accepted, Except.toOption]
          rw [List.map_cons, List.filterMap_cons, kept]
          exact .cons (joined_of_verdict accepted) (ih quiet_rest)

theorem resources_eq : resources schemas tools entries =
    Keyed.ofList ((preceded entries).filterMap fun entry =>
      (verdict schemas tools entry).toOption) := by
  rw [resources, ← filterMap_judgeAll]

theorem nodup_of_verdicts
    (quiet : ∀ entry ∈ preceded entries, (verdict schemas tools entry).issue? = none) :
    (entries.map (·.name)).Nodup := by
  refine List.pairwise_map.mpr (pairwise_iff_preceded.mpr fun entry inside => ?_)
  have raised : EntryIssue schemas tools entry (verdict schemas tools entry).issue? :=
    entryIssue_of_verdict entry
  rw [quiet entry inside] at raised
  cases raised with
  | none first known taken => exact first

/-- Without issues the names of the entries are distinct, and the join holds what each of them comes
to. -/
theorem joined_of_resolve {m : Keyed ToolResource}
    (resolved : resolve schemas policy tools entries = .ok m) :
    (entries.map (·.name)).Nodup ∧
      ∃ listed, List.Forall₂ (Joined schemas tools) entries listed ∧ m = Keyed.ofList listed := by
  unfold resolve at resolved
  split at resolved
  next none_ =>
    cases resolved
    rw [issues_eq, List.append_eq_nil_iff, List.append_eq_nil_iff,
      List.filterMap_eq_nil_iff] at none_
    obtain ⟨⟨-, quiet⟩, -⟩ := none_
    have joined := joined_of_verdicts quiet
    rw [map_snd_preceded] at joined
    exact ⟨nodup_of_verdicts quiet, _, joined, resources_eq⟩
  next => cases resolved

theorem keys_of_joined {listed : List (String × ToolResource)}
    (joined : List.Forall₂ (Joined schemas tools) entries listed) :
    listed.map (·.1) = entries.map (·.name) := by
  induction joined with
  | nil => rfl
  | cons head tail ih => rw [List.map_cons, List.map_cons, ih, head.1]

theorem item_of_joined {listed : List (String × ToolResource)} {e : ResourceEntry}
    (joined : List.Forall₂ (Joined schemas tools) entries listed) (inside : e ∈ entries) :
    ∃ item ∈ listed, Joined schemas tools e item := by
  induction joined with
  | nil => cases inside
  | cons head tail ih =>
      rcases List.mem_cons.mp inside with rfl | inside
      · exact ⟨_, List.mem_cons_self, head⟩
      · obtain ⟨item, listed, found⟩ := ih inside
        exact ⟨item, List.mem_cons_of_mem _ listed, found⟩

/-- The issues are those of the tools declared again, then those of the entries as they stand, at
most one of each, then those of the tools without a resource. The join succeeds exactly when there
is none, and then holds for each entry, under its name, a resource that the first tool of the name
takes, and nothing else. -/
theorem resolve_reports (schemas : ResourceSchemas) (policy : MissingResourcePolicy)
    (tools : List Tool) (entries : List ResourceEntry) :
    ∃ found : List (Option ResourceIssue),
      List.Forall₂ (EntryIssue schemas tools) (preceded entries) found ∧
      issues schemas policy tools entries =
        duplicateTools tools ++ found.reduceOption ++ missingResources policy tools entries ∧
      ((∃ m, resolve schemas policy tools entries = .ok m) ↔
        duplicateTools tools ++ found.reduceOption ++ missingResources policy tools entries = []) ∧
      (∀ e, resolve schemas policy tools entries = .error e →
        e.issues = duplicateTools tools ++ found.reduceOption ++
          missingResources policy tools entries) ∧
      ∀ m, resolve schemas policy tools entries = .ok m →
        (Keyed.keys m).Perm (entries.map (·.name)) ∧
        ∀ entry ∈ entries, ∃ tool resource, tools.find? (·.name = entry.name) = some tool ∧
          Takes schemas entry.payload tool.toolType resource ∧
          Keyed.get? entry.name m = some resource := by
  refine ⟨(preceded entries).map fun entry => (verdict schemas tools entry).issue?, ?_, ?_⟩
  · rw [List.forall₂_map_right_iff, List.forall₂_same]
    exact fun entry _ => entryIssue_of_verdict entry
  have same : issues schemas policy tools entries = duplicateTools tools ++
      ((preceded entries).map fun entry => (verdict schemas tools entry).issue?).reduceOption ++
        missingResources policy tools entries := by
    rw [issues_eq, List.reduceOption, List.filterMap_map]
    rfl
  rw [← same]
  refine ⟨rfl, ?_, ?_, ?_⟩
  · unfold resolve
    split
    next none_ => simp [none_]
    next some_ => simpa using some_
  · intro e refused
    unfold resolve at refused
    split at refused
    · cases refused
    · cases refused
      rfl
  · intro m resolved
    obtain ⟨distinct, listed, joined, rfl⟩ := joined_of_resolve resolved
    have keys := keys_of_joined joined
    have distinct' : (listed.map (·.1)).Nodup := keys ▸ distinct
    refine ⟨?_, fun entry inside => ?_⟩
    · rw [← keys]
      exact (Keyed.ofList_perm distinct').map _
    · obtain ⟨item, inside, named, tool, found, taken⟩ := item_of_joined joined inside
      refine ⟨tool, item.2, found, taken, ?_⟩
      rw [(Keyed.ordered_ofList listed).get?_eq_some_iff, ← named]
      exact (Keyed.ofList_perm distinct').mem_iff.mpr inside

end AgentManifest.Resolution
