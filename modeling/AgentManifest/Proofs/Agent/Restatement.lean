import AgentManifest.Proofs.Agent.Delivery
import AgentManifest.Proofs.Json.Distinct

/-! Documents that say the same. Empty lists can be left out of a document and its tool resource
entries can be put into another order: the document is still one, and its request is the same but
for the order of the entries. -/

namespace AgentManifest

open SchemaStore AgentSchema

section

variable {α : Type} {name : String} {read : Reading α} {members members' : Members}

theorem Reading.text_eq_ok {v : Json} {content : String} (taken : Reading.text v = .ok content) :
    v = .string content := by
  cases v with
  | string text =>
      cases taken
      rfl
  | null | bool | number | array | object => cases taken

theorem get?_of_neededMember_text {content : String}
    (taken : neededMember name Reading.text members = .ok content) :
    Keyed.get? name members = some (.string content) := by
  rw [neededMember] at taken
  split at taken
  next v given =>
    obtain rfl := Reading.text_eq_ok taken
    exact given
  next => cases taken

/-- The place and the name that a document gives are those that its request has. -/
theorem CreateRequest.identity_of_read {r : CreateRequest}
    (read : CreateRequest.read (.object members) = .ok r) :
    Keyed.get? "database_name" members = some (.string r.database) ∧
      Keyed.get? "schema_name" members = some (.string r.schema) ∧
      Keyed.get? "name" members = some (.string r.name) := by
  rw [CreateRequest.read, Reading.record_eq_ok_iff] at read
  obtain ⟨-, body⟩ := read
  simp only [bind_eq_ok, pure_eq_ok, Except.ok.injEq] at body
  obtain ⟨database, readDatabase, schema, readSchema, name, readName, body⟩ := body
  obtain ⟨_, -, _, -, _, -, _, -, _, -, _, -, _, -, rfl⟩ := body
  exact ⟨get?_of_neededMember_text readDatabase, get?_of_neededMember_text readSchema,
    get?_of_neededMember_text readName⟩

theorem given_of_optionMember {a : α} (taken : optionMember name read members = .ok (some a)) :
    ∃ v, Keyed.get? name members = some v := by
  cases given : Keyed.get? name members with
  | some v => exact ⟨v, rfl⟩
  | none =>
      rw [optionMember, optionalMember, show members.lookup name = none from given] at taken
      cases taken

theorem null_of_optionMember {v : Json} (taken : optionMember name read members = .ok none)
    (given : Keyed.get? name members = some v) : v = .null := by
  rw [optionMember, optionalMember, show members.lookup name = some v from given] at taken
  cases v with
  | null => rfl
  | _ =>
      obtain ⟨a, -, same⟩ := map_eq_ok.mp taken
      cases same

theorem neededMember_congr (same : Keyed.get? name members' = Keyed.get? name members) :
    neededMember name read members' = neededMember name read members := by
  rw [neededMember, neededMember, show members'.lookup name = members.lookup name from same]

theorem optionMember_congr (same : Keyed.get? name members' = Keyed.get? name members) :
    optionMember name read members' = optionMember name read members := by
  rw [optionMember, optionalMember, optionMember, optionalMember,
    show members'.lookup name = members.lookup name from same]

/-- A list that is not there is read as an empty one. -/
theorem listMember_of_empty (empty : Keyed.get? name members = some (.array []))
    (absent : Keyed.get? name members' = none) :
    listMember name read members' = listMember name read members := by
  rw [listMember, optionalMember, listMember, optionalMember,
    show members'.lookup name = none from absent,
    show members.lookup name = some (.array []) from empty]
  rfl

theorem listMember_congr (same : Keyed.get? name members' = Keyed.get? name members) :
    listMember name read members' = listMember name read members := by
  rw [listMember, optionalMember, listMember, optionalMember,
    show members'.lookup name = members.lookup name from same]

theorem Reading.all_eq_ok_iff {elements : List Json} {as : List α} :
    Reading.all read elements = .ok as ↔ List.Forall₂ (fun v a => read v = .ok a) elements as := by
  induction elements generalizing as with
  | nil => cases as <;> simp [Reading.all]
  | cons first rest ih =>
      simp only [Reading.all, bind_eq_ok, pure_eq_ok, Except.ok.injEq, ih]
      constructor
      · rintro ⟨a, readFirst, others, readRest, rfl⟩
        exact .cons readFirst readRest
      · rintro (_ | ⟨readFirst, readRest⟩)
        exact ⟨_, readFirst, _, readRest, rfl⟩

/-- A list that is not empty is read from the elements of an array. -/
theorem elements_of_listMember {a : α} {as : List α} (taken : listMember name read members = .ok as)
    (listed : a ∈ as) : ∃ elements, Keyed.get? name members = some (.array elements) ∧
      List.Forall₂ (fun v a => read v = .ok a) elements as := by
  rw [listMember, optionalMember] at taken
  cases given : members.lookup name with
  | none =>
      rw [given] at taken
      cases taken
      cases listed
  | some v =>
      rw [given] at taken
      cases v with
      | array elements => exact ⟨elements, given, Reading.all_eq_ok_iff.mp taken⟩
      | null | bool | number | string | object => cases taken

/-- A list of texts is left out and empty, or it is written as it is read. -/
theorem get?_of_listMember_text {contents : List String}
    (taken : listMember name Reading.text members = .ok contents) :
    (Keyed.get? name members = none ∧ contents = []) ∨
      Keyed.get? name members = some (.array (contents.map .string)) := by
  rw [listMember, optionalMember] at taken
  cases given : members.lookup name with
  | none =>
      rw [given] at taken
      cases taken
      exact .inl ⟨given, rfl⟩
  | some v =>
      rw [given] at taken
      cases v with
      | array elements =>
          have each := (Reading.all_eq_ok_iff.mp taken).imp fun _ _ => Reading.text_eq_ok
          have same : elements = contents.map .string := by
            rw [← List.forall₂_eq_eq_eq, List.forall₂_map_right_iff]
            exact each
          exact .inr (same ▸ given)
      | null | bool | number | string | object => cases taken

/-- Elements in another order are read in that order. -/
theorem listMember_perm {elements elements' : List Json} {as : List α}
    (perm : elements'.Perm elements) (given : Keyed.get? name members = some (.array elements))
    (given' : Keyed.get? name members' = some (.array elements'))
    (readAll : listMember name read members = .ok as) :
    ∃ as', listMember name read members' = .ok as' ∧ as'.Perm as := by
  rw [listMember, optionalMember, show members.lookup name = _ from given] at readAll
  rw [listMember, optionalMember, show members'.lookup name = _ from given']
  obtain ⟨as', perm', readAll'⟩ :=
    List.perm_comp_forall₂ perm (Reading.all_eq_ok_iff.mp readAll)
  exact ⟨as', Reading.all_eq_ok_iff.mpr perm', readAll'⟩

end

/-- An entry keeps the members of its object, its name apart. -/
theorem ResourceEntry.read_eq_ok {v : Json} {e : ResourceEntry} (taken : read v = .ok e) :
    ∃ members, v = .object members ∧ Keyed.get? "name" members = some (.string e.name) ∧
      e.payload = Keyed.erase "name" members := by
  cases v with
  | object members =>
      obtain ⟨-, taken⟩ := Reading.record_eq_ok_iff.mp taken
      obtain ⟨name, named, same⟩ := bind_eq_ok.mp taken
      cases same
      exact ⟨members, rfl, get?_of_neededMember_text named, rfl⟩
  | _ => cases taken

/-- The entries of a request are read from the array of tool resources, place by place. -/
theorem CreateRequest.entry_of_read {members : Members} {r : CreateRequest} {i : Nat}
    {e : ResourceEntry} (taken : read (.object members) = .ok r)
    (listed : r.resources[i]? = some e) :
    ∃ v, (Json.object members).at? [.field "tool_resources", .index i] = some v ∧
      ResourceEntry.read v = .ok e := by
  obtain ⟨-, taken⟩ := Reading.record_eq_ok_iff.mp taken
  simp only [bind_eq_ok, pure_eq_ok, Except.ok.injEq] at taken
  obtain ⟨database, -, schema, -, name, -, comment, -, profile, -, models, -, instructions, -,
    orchestration, -, tools, -, resources, readResources, rfl⟩ := taken
  obtain ⟨elements, given, each⟩ :=
    elements_of_listMember readResources (List.mem_of_getElem? listed)
  obtain ⟨inside, same⟩ := List.getElem?_eq_some_iff.mp listed
  have inside' : i < elements.length := each.length_eq ▸ inside
  refine ⟨elements[i], ?_, ?_⟩
  · simp [Json.at?, given, List.getElem?_eq_getElem inside']
  · have taken := each.get inside' inside
    simpa [← same] using taken

namespace Instructions

variable {members : Members}

theorem keep_unchanged (key : String) (v v' : Json) (kept : keep key v = some v') : v' = v := by
  unfold keep at kept
  split at kept <;> cases kept
  rfl

theorem keep_eq_some {key : String} {v : Json} (other : key ≠ "sample_questions") :
    keep key v = some v := by
  unfold keep
  split
  · exact absurd rfl other
  · rfl

theorem edited_conforms (wellFormed : (Json.object members).WellFormed)
    (conforms : store.Conforms instructions (.object members)) :
    store.Conforms instructions (.object (Keyed.edited keep members)) := by
  obtain ⟨_, ⟨⟩, record⟩ := recordOf_of_conforms conforms
  exact (record.edited wellFormed.ordered keep_unchanged (by simp)).conforms

theorem edited_wellFormed (wellFormed : (Json.object members).WellFormed) :
    (Json.object (Keyed.edited keep members)).WellFormed := by
  refine .object wellFormed.ordered.edited fun member inside => ?_
  obtain ⟨given, inside, kept⟩ := Keyed.mem_edited.mp inside
  rw [keep_unchanged _ _ _ kept]
  exact wellFormed.of_object _ inside

/-- Leaving out an empty list of sample questions changes nothing. -/
theorem read_edited (wellFormed : (Json.object members).WellFormed)
    (conforms : store.Conforms instructions (.object members)) :
    read (.object (Keyed.edited keep members)) = read (.object members) := by
  have checked := fits _ wellFormed conforms
  have checked' := fits _ (edited_wellFormed wellFormed) (edited_conforms wellFormed conforms)
  have lookup : ∀ key, Keyed.get? key (Keyed.edited keep members) =
      (Keyed.get? key members).bind (keep key) := fun key => wellFormed.ordered.get?_edited
  have same : ∀ key, key ≠ "sample_questions" →
      Keyed.get? key (Keyed.edited keep members) = Keyed.get? key members := by
    intro key other
    rw [lookup]
    cases Keyed.get? key members with
    | none => rfl
    | some v => exact keep_eq_some other
  have samples : listMember "sample_questions" SampleQuestion.read (Keyed.edited keep members) =
      listMember "sample_questions" SampleQuestion.read members := by
    have found := lookup "sample_questions"
    by_cases empty : Keyed.get? "sample_questions" members = some (.array [])
    · rw [empty] at found
      exact listMember_of_empty empty found
    · refine listMember_congr (found.trans ?_)
      cases given : Keyed.get? "sample_questions" members with
      | none => rfl
      | some v =>
          rw [Option.bind_some, keep]
          rintro ⟨⟩ rfl
          exact empty given
  have members_eq : ∀ members', shape.members (.object members') = members' := fun _ => rfl
  simp only [read, Reading.record, checked, checked', ok_bind, members_eq,
    optionMember_congr (same "response" (by decide)),
    optionMember_congr (same "orchestration" (by decide)),
    optionMember_congr (same "system" (by decide)), samples]

end Instructions

/-- What may become of a member of a document: lists can be left out if they are empty, in
instructions as well, and tool resource entries can be put into another order. -/
inductive Restated : String → Option Json → Option Json → Prop where
  | same {key : String} (v : Option Json) : Restated key v v
  | instructions (members : Members) :
      Restated "instructions" (some (.object members))
        (some (.object (Keyed.edited Instructions.keep members)))
  | empty {key : String} (list : key ∈ ["tools", "tool_resources"]) :
      Restated key (some (.array [])) none
  | reordered {elements elements' : List Json} (perm : elements'.Perm elements) :
      Restated "tool_resources" (some (.array elements)) (some (.array elements'))

/-- The second document says what the first says. -/
structure Restates (members members' : Members) : Prop where
  ordered : Keyed.Ordered members'
  each : ∀ key, Restated key (Keyed.get? key members) (Keyed.get? key members')

namespace Restated

variable {key : String} {v v' : Option Json} {w : Json}

theorem eq_of_plain (restated : Restated key v v')
    (plain : key ∉ ["instructions", "tools", "tool_resources"]) : v' = v := by
  cases restated with
  | same => rfl
  | instructions | reordered => simp at plain
  | empty list =>
      simp only [List.mem_cons, List.not_mem_nil, or_false] at list
      rcases list with rfl | rfl <;> simp at plain

theorem given (restated : Restated key v (some w)) : ∃ u, v = some u := by
  cases restated with
  | same | instructions | reordered => exact ⟨_, rfl⟩

theorem wellFormed (restated : Restated key v (some w))
    (given : ∀ u, v = some u → u.WellFormed) : w.WellFormed := by
  cases restated with
  | same => exact given w rfl
  | instructions => exact Instructions.edited_wellFormed (given _ rfl)
  | reordered perm =>
      exact .array fun element inside => (given _ rfl).of_array element (perm.mem_iff.mp inside)

/-- What a member has to conform to, it conforms to when it is restated. -/
theorem conforms (restated : Restated key v (some w)) (given : ∀ u, v = some u → u.WellFormed)
    {property : Schema} (listed : Keyed.get? key agent.properties = some property)
    (met : ∀ u, v = some u → store.Conforms property u) : store.Conforms property w := by
  cases restated with
  | same => exact met w rfl
  | instructions members =>
      cases listed
      exact .of_definition rfl
        (Instructions.edited_conforms (given _ rfl) ((met _ rfl).definition rfl))
  | reordered perm =>
      cases listed
      obtain ⟨elements, ⟨⟩, each⟩ := (met _ rfl).listOf
      exact .of_listOf fun element inside => each element (perm.mem_iff.mp inside)

end Restated

namespace Restates

variable {members members' : Members} {r : CreateRequest}

theorem wellFormed (restates : Restates members members')
    (wellFormed : (Json.object members).WellFormed) : (Json.object members').WellFormed := by
  refine .object restates.ordered fun ⟨key, w⟩ inside => ?_
  have restated := restates.each key
  rw [restates.ordered.get?_eq_some_iff.mpr inside] at restated
  exact restated.wellFormed fun u given => wellFormed.member given

theorem conforms (restates : Restates members members')
    (wellFormed : (Json.object members).WellFormed)
    (conforms : store.Conforms agent (.object members)) :
    store.Conforms agent (.object members') := by
  obtain ⟨_, ⟨⟩, record⟩ := recordOf_of_conforms conforms
  refine RecordOf.conforms ⟨fun name needed => ?_, fun key w inside => ?_⟩
  · obtain ⟨v, given⟩ := record.required name needed
    have plain : name ∉ ["instructions", "tools", "tool_resources"] := by
      simp only [List.mem_cons, List.not_mem_nil, or_false] at needed
      rcases needed with rfl | rfl | rfl <;> decide
    exact ⟨v, ((restates.each name).eq_of_plain plain).trans given⟩
  · have restated := restates.each key
    rw [restates.ordered.get?_eq_some_iff.mpr inside] at restated
    obtain ⟨u, given⟩ := restated.given
    obtain ⟨property, listed, met⟩ := record.listed key u (Keyed.mem_of_get? given)
    refine ⟨property, listed, restated.conforms (fun u given => wellFormed.member given) listed ?_⟩
    intro u' given'
    cases given.symm.trans given'
    exact met

theorem instructions (restates : Restates members members')
    (wellFormed : (Json.object members).WellFormed)
    (conforms : store.Conforms agent (.object members)) :
    optionMember "instructions" Instructions.read members' =
      optionMember "instructions" Instructions.read members := by
  obtain ⟨_, ⟨⟩, record⟩ := recordOf_of_conforms conforms
  have restated := restates.each "instructions"
  generalize given : Keyed.get? "instructions" members = v at restated
  generalize given' : Keyed.get? "instructions" members' = v' at restated
  generalize named : "instructions" = key at restated
  cases restated with
  | same =>
      subst named
      exact optionMember_congr (given'.trans given.symm)
  | instructions inner =>
      have same := Instructions.read_edited (wellFormed.member given)
        ((record.field rfl given).definition rfl)
      rw [optionMember, optionalMember, optionMember, optionalMember,
        show members'.lookup "instructions" = _ from given',
        show members.lookup "instructions" = _ from given]
      simp only [Reading.nullable, same]
  | empty list => simp [← named] at list
  | reordered => simp at named

theorem tools (restates : Restates members members') :
    listMember "tools" Tool.read members' = listMember "tools" Tool.read members := by
  have restated := restates.each "tools"
  generalize given : Keyed.get? "tools" members = v at restated
  generalize given' : Keyed.get? "tools" members' = v' at restated
  generalize named : "tools" = key at restated
  cases restated with
  | same =>
      subst named
      exact listMember_congr (given'.trans given.symm)
  | empty =>
      subst named
      exact listMember_of_empty given given'
  | instructions | reordered => simp at named

theorem resources {entries : List ResourceEntry} (restates : Restates members members')
    (read : listMember "tool_resources" ResourceEntry.read members = .ok entries) :
    ∃ entries', entries'.Perm entries ∧
      listMember "tool_resources" ResourceEntry.read members' = .ok entries' := by
  have restated := restates.each "tool_resources"
  generalize given : Keyed.get? "tool_resources" members = v at restated
  generalize given' : Keyed.get? "tool_resources" members' = v' at restated
  generalize named : "tool_resources" = key at restated
  cases restated with
  | same =>
      subst named
      rw [← listMember_congr (given'.trans given.symm)] at read
      exact ⟨entries, .refl _, read⟩
  | empty =>
      subst named
      rw [← listMember_of_empty given given'] at read
      exact ⟨entries, .refl _, read⟩
  | reordered perm =>
      obtain ⟨entries', read', perm'⟩ := listMember_perm perm given given' read
      exact ⟨entries', perm', read'⟩
  | instructions => simp at named

/-- A restated document is read as the same request, with its entries in their order. -/
theorem read (restates : Restates members members') (wellFormed : (Json.object members).WellFormed)
    (conforms : store.Conforms agent (.object members))
    (given : CreateRequest.read (.object members) = .ok r) :
    ∃ resources, resources.Perm r.resources ∧
      CreateRequest.read (.object members') = .ok { r with resources } := by
  have checked' := CreateRequest.fits _ (restates.wellFormed wellFormed)
    (restates.conforms wellFormed conforms)
  rw [CreateRequest.read, Reading.record_eq_ok_iff] at given
  obtain ⟨-, body⟩ := given
  have plain : ∀ key, key ∉ ["instructions", "tools", "tool_resources"] →
      Keyed.get? key members' = Keyed.get? key members :=
    fun key plain => (restates.each key).eq_of_plain plain
  have readInstructions := restates.instructions wellFormed conforms
  have readTools := restates.tools
  simp only [bind_eq_ok, pure_eq_ok, Except.ok.injEq] at body
  obtain ⟨database, readDatabase, schema, readSchema, name, readName, comment, readComment, profile,
    readProfile, models, readModels, instructions, readInstructions', orchestration,
    readOrchestration, tools, readTools', entries, readEntries, rfl⟩ := body
  obtain ⟨entries', perm, readEntries'⟩ := restates.resources readEntries
  refine ⟨entries', perm, Reading.record_eq_ok checked' ?_⟩
  simp only [neededMember_congr (plain "database_name" (by decide)), readDatabase,
    neededMember_congr (plain "schema_name" (by decide)), readSchema,
    neededMember_congr (plain "name" (by decide)), readName,
    optionMember_congr (plain "comment" (by decide)), readComment,
    optionMember_congr (plain "profile" (by decide)), readProfile,
    optionMember_congr (plain "models" (by decide)), readModels, readInstructions,
    readInstructions', optionMember_congr (plain "orchestration" (by decide)), readOrchestration,
    readTools, readTools', readEntries', ok_bind, pure_eq_ok]

end Restates
end AgentManifest
