import AgentManifest.Proofs.Resolution.Issues

/-! What a join without issues says of the tools: no two of them have one name, each resource is one
that a declared tool takes, and under the strict policy no tool that takes a resource goes
without. -/

namespace AgentManifest.Resolution

variable {schemas : ResourceSchemas} {policy : MissingResourcePolicy} {tools : List Tool}
  {entries : List ResourceEntry} {m : Keyed ToolResource}

theorem exists_preceded {α : Type} {items : List α} {item : α} (inside : item ∈ items) :
    ∃ earlier, (earlier, item) ∈ preceded items := by
  rw [← map_snd_preceded items] at inside
  obtain ⟨⟨earlier, _⟩, listed, rfl⟩ := List.mem_map.mp inside
  exact ⟨earlier, listed⟩

theorem issues_of_resolve (resolved : resolve schemas policy tools entries = .ok m) :
    duplicateTools tools = [] ∧ missingResources policy tools entries = [] := by
  unfold resolve at resolved
  split at resolved
  next none_ =>
    rw [issues_eq, List.append_eq_nil_iff, List.append_eq_nil_iff] at none_
    exact ⟨none_.1.1, none_.2⟩
  next => cases resolved

theorem duplicateTools_eq_nil_iff : duplicateTools tools = [] ↔ (tools.map (·.name)).Nodup := by
  rw [duplicateTools, List.filterMap_eq_nil_iff, List.Nodup, List.pairwise_map,
    pairwise_iff_preceded]
  refine forall₂_congr fun entry _ => ?_
  simp

theorem nodup_of_resolve (resolved : resolve schemas policy tools entries = .ok m) :
    (tools.map (·.name)).Nodup :=
  duplicateTools_eq_nil_iff.mp (issues_of_resolve resolved).1

/-- Of tools with distinct names the strict policy misses those that take a resource and have none;
the lenient policy misses nothing. -/
theorem missingResources_eq_nil_iff (distinct : (tools.map (·.name)).Nodup) :
    missingResources policy tools entries = [] ↔ (policy = .strict →
      ∀ tool ∈ tools, tool.toolType.takesResource = true → ∃ e ∈ entries, e.name = tool.name) := by
  have first := pairwise_iff_preceded.mp (List.pairwise_map.mp distinct)
  cases policy with
  | lenient => simp [missingResources]
  | strict =>
      rw [missingResources, List.filterMap_eq_nil_iff]
      constructor
      · intro noneMissing _ tool declared takes
        obtain ⟨earlier, inside⟩ := exists_preceded declared
        by_contra unserved
        push Not at unserved
        have reported := noneMissing _ inside
        dsimp only at reported
        rw [if_pos ⟨first _ inside, takes, unserved⟩] at reported
        cases reported
      · rintro served ⟨earlier, tool⟩ inside
        have declared : tool ∈ tools := by
          rw [← map_snd_preceded tools]
          exact List.mem_map_of_mem inside
        refine if_neg ?_
        rintro ⟨-, takes, unserved⟩
        obtain ⟨e, given, named⟩ := served rfl tool declared takes
        exact unserved e given named

/-- Under the strict policy each name whose first tool takes a resource is the name of an entry. -/
theorem served_of_resolve (resolved : resolve schemas .strict tools entries = .ok m) {tool : Tool}
    (declared : tool ∈ tools) (takes : tool.toolType.takesResource = true) :
    ∃ e ∈ entries, e.name = tool.name :=
  (missingResources_eq_nil_iff (nodup_of_resolve resolved)).mp (issues_of_resolve resolved).2 rfl
    tool declared takes

theorem keys_of_resolve (resolved : resolve schemas policy tools entries = .ok m) :
    (Keyed.keys m).Perm (entries.map (·.name)) := by
  obtain ⟨distinct, listed, joined, rfl⟩ := joined_of_resolve resolved
  have names := keys_of_joined joined
  rw [← names]
  exact (Keyed.ofList_perm (names ▸ distinct)).map _

theorem entry_of_joined {listed : List (String × ToolResource)} {item : String × ToolResource}
    (joined : List.Forall₂ (Joined schemas tools) entries listed) (inside : item ∈ listed) :
    ∃ e ∈ entries, Joined schemas tools e item := by
  induction joined with
  | nil => cases inside
  | cons head tail ih =>
      rcases List.mem_cons.mp inside with rfl | inside
      · exact ⟨_, List.mem_cons_self, head⟩
      · obtain ⟨e, given, found⟩ := ih inside
        exact ⟨e, List.mem_cons_of_mem _ given, found⟩

/-- A resource is what the payload of the entry of its name comes to for a declared tool of that
name. -/
theorem taken_of_resolve (resolved : resolve schemas policy tools entries = .ok m) {name : String}
    {resource : ToolResource} (inside : (name, resource) ∈ m) :
    ∃ e ∈ entries, e.name = name ∧ ∃ tool ∈ tools, tool.name = name ∧
      Takes schemas e.payload tool.toolType resource := by
  obtain ⟨distinct, listed, joined, rfl⟩ := joined_of_resolve resolved
  obtain ⟨e, given, named, tool, found, taken⟩ :=
    entry_of_joined joined (Keyed.mem_of_mem_ofList inside)
  have same : tool.name = e.name := by simpa using List.find?_some found
  exact ⟨e, given, named.symm, tool, List.mem_of_find?_eq_some found, same.trans named.symm, taken⟩

theorem toolType_of_takes {payload : Members} {t : ToolType} {resource : ToolResource}
    (taken : Takes schemas payload t resource) :
    resource.toolType = t ∧ t.takesResource = true := by
  cases taken <;> exact ⟨rfl, rfl⟩

end AgentManifest.Resolution
