import Mathlib.Data.List.Find
import AgentManifest.Proofs.Resolution.Service
import AgentManifest.Schema.AgentSchema

/-! The order of tools and of tool resource entries does not matter to a join: what is joined in one
order is joined to the same resources in any other. The first tool and the first entry of a name
count, but where there is no issue there is only one of each. -/

namespace AgentManifest.Resolution

variable {schemas : ResourceSchemas} {policy : MissingResourcePolicy} {tools tools' : List Tool}
  {entries entries' : List ResourceEntry} {m : Keyed ToolResource}
  {listed : List (String × ToolResource)}

/-- An entry with a name of its own comes to what its payload does, wherever it stands. -/
theorem verdict_of_joined {entry : List ResourceEntry × ResourceEntry}
    {item : String × ToolResource} (first : ∀ other ∈ entry.1, other.name ≠ entry.2.name)
    (joined : Joined schemas tools entry.2 item) : verdict schemas tools entry = .ok item := by
  obtain ⟨earlier, e⟩ := entry
  obtain ⟨name, resource⟩ := item
  obtain ⟨rfl, tool, found, takes⟩ := joined
  have notAgain : e.name ∉ (earlier.map (·.name)).reverse := by simpa using first
  have known : typeOf? tools e.name = some tool.toolType :=
    typeOf?_eq_some_iff.mpr ⟨tool, found, rfl⟩
  simp only [verdict, judge, notAgain, if_false, known, accept_of_takes takes]

theorem verdicts_of_joined {judged : List (List ResourceEntry × ResourceEntry)}
    (first : ∀ entry ∈ judged, ∀ other ∈ entry.1, other.name ≠ entry.2.name)
    (joined : List.Forall₂ (Joined schemas tools) (judged.map (·.2)) listed) :
    judged.map (verdict schemas tools) = listed.map .ok := by
  induction judged generalizing listed with
  | nil =>
      cases joined
      rfl
  | cons entry rest ih =>
      obtain ⟨first, first_rest⟩ := List.forall_mem_cons.mp first
      cases joined with
      | cons head tail =>
          rw [List.map_cons, List.map_cons, verdict_of_joined first head, ih first_rest tail]

/-- Entries with distinct names, each joined with a resource, make a join if nothing is against the
tools. -/
theorem resolve_of_joined (distinct : (entries.map (·.name)).Nodup)
    (joined : List.Forall₂ (Joined schemas tools) entries listed)
    (noDuplicate : duplicateTools tools = [])
    (noneMissing : missingResources policy tools entries = []) :
    resolve schemas policy tools entries = .ok (Keyed.ofList listed) := by
  have first := pairwise_iff_preceded.mp (List.pairwise_map.mp distinct)
  rw [← map_snd_preceded entries] at joined
  have verdicts := verdicts_of_joined first joined
  have picked : ∀ {β : Type} (pick : Verdict → Option β),
      ((preceded entries).filterMap fun entry => pick (verdict schemas tools entry)) =
        listed.filterMap fun item => pick (.ok item) := fun pick => by
    have gathered := congrArg (List.filterMap pick) verdicts
    rwa [List.filterMap_map, List.filterMap_map] at gathered
  have quiet : issues schemas policy tools entries = [] := by
    rw [issues_eq, noDuplicate, noneMissing, picked Verdict.issue?]
    simp [Verdict.issue?]
  have gathered : resources schemas tools entries = Keyed.ofList listed := by
    rw [resources_eq, picked Except.toOption]
    simp [Except.toOption]
  rw [resolve, quiet, gathered]

/-- Of tools with distinct names the first of a name is the same in any order. -/
theorem find?_perm (perm : tools'.Perm tools) (distinct : (tools.map (·.name)).Nodup)
    (name : String) : tools'.find? (·.name = name) = tools.find? (·.name = name) := by
  refine (List.find?_eq_find?_of_perm perm.symm fun tool declared other declared' => ?_).symm
  obtain ⟨listed, named⟩ := declared
  obtain ⟨listed', named'⟩ := declared'
  simp only [decide_eq_true_eq] at named named'
  exact List.inj_on_of_nodup_map distinct listed listed' (named.trans named'.symm)

theorem Joined.perm {e : ResourceEntry} {item : String × ToolResource}
    (joined : Joined schemas tools e item) (perm : tools'.Perm tools)
    (distinct : (tools.map (·.name)).Nodup) : Joined schemas tools' e item := by
  obtain ⟨named, tool, found, takes⟩ := joined
  exact ⟨named, tool, (find?_perm perm distinct e.name).trans found, takes⟩

theorem missingResources_perm (toolsPerm : tools'.Perm tools) (perm : entries'.Perm entries)
    (distinct : (tools.map (·.name)).Nodup) (noneMissing : missingResources policy tools entries = []) :
    missingResources policy tools' entries' = [] := by
  have distinct' : (tools'.map (·.name)).Nodup := (toolsPerm.map _).nodup_iff.mpr distinct
  rw [missingResources_eq_nil_iff distinct] at noneMissing
  rw [missingResources_eq_nil_iff distinct']
  simpa only [toolsPerm.mem_iff, perm.mem_iff] using noneMissing

theorem resolve_perm (toolsPerm : tools'.Perm tools) (perm : entries'.Perm entries)
    (resolved : resolve schemas policy tools entries = .ok m) :
    resolve schemas policy tools' entries' = .ok m := by
  obtain ⟨distinct, listed, joined, rfl⟩ := joined_of_resolve resolved
  obtain ⟨noDuplicate, noneMissing⟩ := issues_of_resolve resolved
  have toolsDistinct := duplicateTools_eq_nil_iff.mp noDuplicate
  have noDuplicate' : duplicateTools tools' = [] :=
    duplicateTools_eq_nil_iff.mpr ((toolsPerm.map _).nodup_iff.mpr toolsDistinct)
  obtain ⟨listed', joined', perm'⟩ := List.perm_comp_forall₂ perm joined
  have distinct' : (entries'.map (·.name)).Nodup := (perm.map _).nodup_iff.mpr distinct
  have names := keys_of_joined joined'
  rw [resolve_of_joined distinct' (joined'.imp fun e item each => each.perm toolsPerm toolsDistinct)
      noDuplicate' (missingResources_perm toolsPerm perm toolsDistinct noneMissing),
    Keyed.ofList_eq_of_perm perm' (names ▸ distinct')]

/-- Tools and entries that are joined in one order are joined to the same resources in any other,
and those that are not joined in one order are not joined in any. -/
theorem resolve_in_any_order (toolsPerm : tools'.Perm tools) (perm : entries'.Perm entries) :
    resolve schemas policy tools' entries' = .ok m ↔ resolve schemas policy tools entries = .ok m :=
  ⟨resolve_perm toolsPerm.symm perm.symm, resolve_perm toolsPerm perm⟩

/-- Three tools, of which the last takes no resource. -/
def mixedTools : List Tool :=
  [⟨.search, "docs", none, none⟩, ⟨.analyst, "sales", none, none⟩, ⟨.chart, "plot", none, none⟩]

def mixedEntries : List ResourceEntry :=
  [⟨"sales", [("semantic_view", .string "V")]⟩, ⟨"docs", [("search_service", .string "S")]⟩]

theorem resolve_in_any_order_reversed : ∃ schemas,
    ResourceSchemas.ofStore AgentSchema.store = .ok schemas ∧
      ∃ m, resolve schemas .strict mixedTools mixedEntries = .ok m ∧
        Keyed.keys m = ["docs", "sales"] ∧
        resolve schemas .strict mixedTools.reverse mixedEntries.reverse = .ok m := by
  have given : ∃ schemas, ResourceSchemas.ofStore AgentSchema.store = .ok schemas ∧
      ∃ m, resolve schemas .strict mixedTools mixedEntries = .ok m ∧
        Keyed.keys m = ["docs", "sales"] := by
    decide
  obtain ⟨schemas, chosen, m, joined, keys⟩ := given
  exact ⟨schemas, chosen, m, joined, keys,
    (resolve_in_any_order (List.reverse_perm _) (List.reverse_perm _)).mpr joined⟩

end AgentManifest.Resolution
