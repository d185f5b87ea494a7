import AgentManifest.Proofs.Toml.Definitions

/-! The reader of TOML texts takes one definition after the other, so it reads no text in which some
table gives a key twice. An entry is set inside the open table, which is put in its place only when
the next header comes; the definitions are followed in the tables as they would be if the open table
were in its place after every statement. -/

namespace AgentManifest.Toml

open Keyed (get? insert get?_insert)

variable {names : List String} {name : String} {node value : Node} {kind : DefinitionKind}
  {path key : List KeyPart} {last : KeyPart} {origin next : Origin}
  {entries found held after : Keyed Node} {put : Keyed Node → Keyed Node}

namespace Definition

open Node

/-- An entry may be set where there is none, added to a list, or put in the place of a table that
was implied. -/
theorem taken_insert (kind : DefinitionKind) (form : node.form = Definition.form ⟨kind, [name]⟩)
    (replaced : ∀ old, get? name found = some old →
      kind = .item ∧ old.form = .list ∨
        kind = .table ∧ old.form = .table .implied ∧ old.inner = node.inner) :
    Taken found ⟨kind, [name]⟩ (insert name node found) where
  named := List.cons_ne_nil _ _
  free := by
    rintro place stood stands ⟨leading, barred⟩
    cases place with
    | nil => cases stands
    | cons other place =>
        obtain ⟨rfl, short⟩ := List.cons_prefix_cons.mp leading
        obtain rfl := List.prefix_nil.mp short
        obtain ⟨old, present, rfl⟩ := Option.map_eq_some_iff.mp stands
        obtain ⟨rfl, list⟩ | ⟨rfl, implied, -⟩ := replaced old present
        · simp [list] at barred
        · simp [implied] at barred
  stands := by simp [formAt, form, Definition.form]
  kept := by
    intro place stood stands notAdded
    cases place with
    | nil => cases stands
    | cons other place =>
        by_cases same : other = name
        · subst same
          have leading : [other] <+: other :: place :=
            List.cons_prefix_cons.mpr ⟨rfl, List.nil_prefix⟩
          obtain ⟨oldForm, there⟩ := exists_formAt_of_prefix stands leading (List.cons_ne_nil _ _)
          obtain ⟨old, present, -⟩ := Option.map_eq_some_iff.mp there
          obtain ⟨item, -⟩ | ⟨rfl, implied, inner⟩ := replaced old present
          · exact absurd ⟨item, leading⟩ notAdded
          · cases place with
            | nil =>
                refine .inr ⟨?_, by simp [formAt, form, Definition.form]⟩
                simpa [formAt, present, implied] using stands.symm
            | cons next place =>
                have same : node.inner = beneath other found := by simp [beneath, present, inner]
                rw [formAt_insert_of_inner same (List.cons_ne_nil _ _)]
                exact .inl stands
        · rw [formAt_insert_of_ne same]
          exact .inl stands

/-- What the table at the end of a walk takes, the tables it is inside take. -/
theorem Taken.lift {dotted : Bool} (taken : Taken found ⟨kind, names⟩ held)
    (leads : Leads dotted path origin entries next found put) :
    Taken entries ⟨kind, namesOf path ++ names⟩ (put held) where
  named := by simp [taken.named]
  free := by
    rintro place stood stands ⟨leading, barred⟩
    obtain ⟨behind, named, rfl⟩ | onTheWay := inside_or_leading leading
    · rw [formAt_append named, leads.into_eq] at stands
      refine taken.free stands ⟨(List.prefix_append_right_inj _).mp leading, ?_⟩
      exact barred.imp_right fun both => ⟨List.append_cancel_left both.1, both.2⟩
    · obtain rfl | ⟨rfl, -⟩ := barred
      · exact leads.formAt_ne_value onTheWay stands
      · exact taken.named (by simpa using onTheWay.length_le)
  stands := by
    rw [formAt_append taken.named, leads.into_put]
    exact taken.stands
  kept := by
    intro place stood stands notAdded
    by_cases inside : Inside (namesOf path) place
    · obtain ⟨behind, named, rfl⟩ := inside
      rw [formAt_append named, leads.into_eq] at stands
      rw [formAt_append named, leads.into_put]
      refine taken.kept stands fun both => notAdded ⟨both.1, ?_⟩
      exact (List.prefix_append_right_inj _).mpr both.2
    · exact .inl (leads.formAt_put held inside stands)

end Definition

namespace Node

theorem taken_of_setEntry (isValue : value.form = .value) (named : key ≠ [])
    (succeeded : setEntry key value origin entries = .ok after) :
    Definition.Taken entries ⟨.value, namesOf key⟩ after := by
  obtain ⟨path, last, rfl⟩ := (List.eq_nil_or_concat' key).resolve_left named
  simp only [setEntry, List.getLast?_concat, List.dropLast_concat, within_eq_ok] at succeeded
  obtain ⟨next, found, put, leads, changed, set, rfl⟩ := succeeded
  split at set
  next => cases set
  next fresh =>
    cases set
    have absent : get? last.name found = none := by simp_all [Keyed.contains]
    rw [namesOf_append]
    refine (Definition.taken_insert .value isValue ?_).lift leads
    simp [absent]

theorem form_of_ofTerm {t : Term} (read : ofTerm t = .ok node) : node.form = .value := by
  cases t with
  | scalar piece =>
      obtain ⟨value, -, same⟩ := bind_eq_ok.mp read
      cases same
      rfl
  | array items =>
      obtain ⟨nodes, -, same⟩ := bind_eq_ok.mp read
      cases same
      rfl
  | inlineTable entries =>
      obtain ⟨table, -, same⟩ := bind_eq_ok.mp read
      cases same
      rfl

theorem names?_of_keyParts {pieces : List Piece} (read : keyParts pieces = .ok key)
    (named : key ≠ []) : names? pieces = some (namesOf key) := by
  cases key with
  | nil => exact absurd rfl named
  | cons part parts => rw [names?, read]

theorem names?_of_nil {pieces : List Piece} (read : keyParts pieces = .ok []) :
    names? pieces = none := by
  rw [names?, read]

theorem allTaken_of_ofEntries {written : List (List Piece × Term)}
    (read : ofEntries entries written = .ok after) :
    Definition.AllTaken entries (Term.definitions written) := by
  induction written generalizing entries with
  | nil => exact .nil
  | cons entry rest ih =>
      obtain ⟨pieces, t⟩ := entry
      simp only [ofEntries, bind_eq_ok] at read
      obtain ⟨key, readKey, value, readValue, _, short, table, set, onward⟩ := read
      by_cases named : key = []
      · subst named
        cases set
        simpa [Term.definitions, names?_of_nil readKey] using ih onward
      · have taken := taken_of_setEntry (form_of_ofTerm readValue) named set
        simpa [Term.definitions, names?_of_keyParts readKey named] using .cons taken (ih onward)

theorem exists_ofTerm_of_mem_array {items : List Term} {nodes : List Node}
    (read : ofTerms items = .ok nodes) : ∀ t ∈ items, ∃ node, ofTerm t = .ok node := by
  induction items generalizing nodes with
  | nil => simp
  | cons item rest ih =>
      simp only [ofTerms, bind_eq_ok] at read
      obtain ⟨node, here, nodes, onward, same⟩ := read
      exact List.forall_mem_cons.mpr ⟨⟨node, here⟩, ih onward⟩

theorem exists_ofTerm_of_mem_inlineTable {written : List (List Piece × Term)}
    (read : ofEntries entries written = .ok after) :
    ∀ entry ∈ written, ∃ node, ofTerm entry.2 = .ok node := by
  induction written generalizing entries with
  | nil => simp
  | cons entry rest ih =>
      obtain ⟨pieces, t⟩ := entry
      simp only [ofEntries, bind_eq_ok] at read
      obtain ⟨key, readKey, value, readValue, _, short, table, set, onward⟩ := read
      exact List.forall_mem_cons.mpr ⟨⟨value, readValue⟩, ih onward⟩

/-- A value with a table in braces that defines a name twice is refused. -/
theorem not_givesTwice_of_ofTerm {t : Term} (read : ofTerm t = .ok node) : ¬ t.GivesTwice := by
  intro twice
  induction twice generalizing node with
  | here twice =>
      obtain ⟨table, readEntries, -⟩ := bind_eq_ok.mp read
      exact (allTaken_of_ofEntries readEntries).not_repeat twice
  | entry inside deeper ih =>
      obtain ⟨table, readEntries, -⟩ := bind_eq_ok.mp read
      obtain ⟨node, readTerm⟩ := exists_ofTerm_of_mem_inlineTable readEntries _ inside
      exact ih readTerm
  | item inside deeper ih =>
      obtain ⟨nodes, readItems, -⟩ := bind_eq_ok.mp read
      obtain ⟨node, readTerm⟩ := exists_ofTerm_of_mem_array readItems _ inside
      exact ih readTerm

namespace Reading

theorem entriesAt_nil (key : List KeyPart) : entriesAt key [] = [] := by
  cases key <;> rfl

theorem entriesAt_cons {part : KeyPart}
    (unbraced : (get? part.name entries).map form ≠ some .value) :
    entriesAt (part :: key) entries = entriesAt key (beneath part.name entries) := by
  rw [entriesAt, beneath]
  cases found : get? part.name entries with
  | none => exact (entriesAt_nil key).symm
  | some node =>
      rw [found] at unbraced
      cases node with
      | scalar value offset => exact (entriesAt_nil key).symm
      | array items => exact (entriesAt_nil key).symm
      | tables items =>
          cases latest : items.getLast? with
          | none => simp [inner, latest, entriesAt_nil]
          | some item => cases item <;> simp [inner, latest, entriesAt_nil]
      | table origin held => cases origin <;> simp_all [form, inner]

/-- The entries behind a walk are found by walking again. -/
theorem entriesAt_put {dotted : Bool} (leads : Leads dotted path origin entries next found put)
    (held : Keyed Node) (key : List KeyPart) :
    entriesAt (path ++ key) (put held) = entriesAt key held := by
  induction leads with
  | here => rfl
  | @step part path origin next last entries before found around put enters onward ih =>
      rw [List.cons_append, entriesAt_cons, beneath_insert, if_pos rfl, enters.inner_around, ih]
      simpa using enters.form_around_ne (put held)

variable {r : Reading} {h : Header} {isArray : Bool} {root : Keyed Node}

/-- The key of the open table. -/
def openKey (r : Reading) : List KeyPart := r.header.elim [] (·.key)

/-- The open table is the one at the top, or that of a header with a name. -/
def Opened (r : Reading) : Prop := ∀ h, r.header = some h → h.key ≠ []

/-- A table is put behind the ones of its name whatever it holds. -/
theorem appendTable_eq_ok {table : Node} (added : appendTable last table found = .ok after) :
    ∃ items, (∀ old, get? last.name found = some old → old.form = .list) ∧
      ∀ table, appendTable last table found =
        .ok (insert last.name (.tables (items ++ [table])) found) := by
  unfold appendTable at added
  split at added
  next absent => exact ⟨[], by simp [absent], fun table => by simp [appendTable, absent]⟩
  next items present =>
    exact ⟨items, by simp [present, form], fun table => by simp [appendTable, present]⟩
  next => cases added

theorem claim_eq_ok (claimed : claim last found = .ok after) :
    after = found ∧ ∀ old, get? last.name found = some old → old.form = .table .implied := by
  unfold claim at claimed
  split at claimed
  next absent =>
    cases claimed
    simp [absent]
  next held present =>
    cases claimed
    simp [present, form]
  next => cases claimed

/-- A finished table is put under its name, or behind the others there, whatever it holds, and the
way to it is that of a header again. -/
theorem exists_around_of_placed {current : Keyed Node}
    (placed : (if isArray then appendTable last (.table .header current) found
      else .ok (insert last.name (.table .header current) found)) = .ok after) :
    ∃ around : Keyed Node → Node,
      (∀ held, Enters false (some (around held)) .header held around) ∧
      ∀ held, (if isArray then appendTable last (.table .header held) found
        else .ok (insert last.name (.table .header held) found)) =
          .ok (insert last.name (around held) found) := by
  cases isArray with
  | true =>
      obtain ⟨items, -, set⟩ := appendTable_eq_ok placed
      refine ⟨fun held => .tables (items ++ [Node.table .header held]), fun held => ?_,
        fun held => set _⟩
      have enters : Enters false (some (.tables (items ++ [.table .header held]))) .header held _ :=
        .last List.getLast?_concat
      rwa [List.dropLast_concat] at enters
  | false => exact ⟨.table .header, fun held => .table nofun nofun, fun held => rfl⟩

/-- The open table is put in its place whatever it holds, and a walk along its key leads to it. -/
theorem exists_leads_of_finish (opened : r.Opened) (finished : r.finish = .ok root) :
    ∃ put, Leads false r.openKey .header root .header r.current put ∧
      ∀ held, { r with current := held }.finish = .ok (put held) := by
  cases top : r.header with
  | none =>
      simp only [finish, top, Except.ok.injEq] at finished
      subst finished
      refine ⟨id, ?_, fun held => by simp [finish]⟩
      rw [openKey, top]
      exact .here
  | some h =>
      obtain ⟨path, last, split⟩ := (List.eq_nil_or_concat' h.key).resolve_left (opened h top)
      simp only [finish, top, split, List.getLast?_concat, List.dropLast_concat,
        within_eq_ok] at finished
      obtain ⟨next, found, put, leads, changed, placed, rfl⟩ := finished
      obtain ⟨around, enters, places⟩ := exists_around_of_placed placed
      obtain rfl := Except.ok.inj (placed.symm.trans (places r.current))
      refine ⟨fun held => put (insert last.name (around held) found), ?_, fun held => ?_⟩
      · have entered : Enters false (get? last.name (insert last.name (around r.current) found))
            .header r.current around := by
          rw [get?_insert, if_pos rfl]
          exact enters r.current
        have step : Leads false [last] next _ .header r.current _ := .step entered .here
        simpa [openKey, top, split] using (leads.again _).trans step
      · simp only [finish, split, List.getLast?_concat, List.dropLast_concat, within_eq_ok]
        exact ⟨next, found, put, leads, _, places held, rfl⟩

/-- An entry of the open table, seen from the top of the text. -/
theorem taken_of_entry {current : Keyed Node} (opened : r.Opened) (isValue : value.form = .value)
    (named : key ≠ []) (set : setEntry key value .header r.current = .ok current)
    (finished : { r with current := current }.finish = .ok after) :
    ∃ root, r.finish = .ok root ∧
      Definition.Taken root ⟨.value, namesOf r.openKey ++ namesOf key⟩ after := by
  have opened' : { r with current := current }.Opened := opened
  obtain ⟨put, leads, places⟩ := exists_leads_of_finish opened' finished
  obtain rfl := Except.ok.inj (finished.symm.trans (places current))
  refine ⟨put r.current, places r.current, ?_⟩
  exact (taken_of_setEntry isValue named set).lift (leads.again r.current)

theorem header_of_start {started : Reading} (start : Reading.start root h = .ok started) :
    started.header = some h := by
  unfold Reading.start at start
  split at start
  next =>
    cases start
    rfl
  next last =>
    split at start
    next =>
      cases start
      rfl
    next =>
      obtain ⟨root, claimed, same⟩ := bind_eq_ok.mp start
      cases same
      rfl

theorem taken_of_header {started : Reading} (named : key ≠ [])
    (start : Reading.start root ⟨isArray, key⟩ = .ok started)
    (finished : started.finish = .ok after) :
    Definition.Taken root ⟨if isArray then .item else .table, namesOf key⟩ after := by
  obtain ⟨path, last, rfl⟩ := (List.eq_nil_or_concat' key).resolve_left named
  cases isArray with
  | true =>
      simp only [Reading.start, List.getLast?_concat, if_true, Except.ok.injEq] at start
      subst start
      simp only [finish, List.getLast?_concat, List.dropLast_concat, within_eq_ok] at finished
      obtain ⟨next, found, put, leads, changed, placed, rfl⟩ := finished
      obtain ⟨items, list, set⟩ := appendTable_eq_ok placed
      obtain rfl := Except.ok.inj (placed.symm.trans (set _))
      rw [namesOf_append]
      refine (Definition.taken_insert .item rfl fun old present => ?_).lift leads
      exact .inl ⟨rfl, list old present⟩
  | false =>
      simp only [Reading.start, List.getLast?_concat, List.dropLast_concat, Bool.false_eq_true,
        if_false, bind_eq_ok, within_eq_ok] at start
      obtain ⟨_, ⟨next, found, put, leads, changed, claimed, rfl⟩, same⟩ := start
      cases same
      -- The header takes over what the table held that a longer header had implied.
      obtain ⟨rfl, implied⟩ := claim_eq_ok claimed
      have held : entriesAt (path ++ [last]) (put changed) = beneath last.name changed := by
        rw [entriesAt_put leads, entriesAt_cons, entriesAt]
        cases present : get? last.name changed with
        | none => simp
        | some old => simp [implied old present]
      simp only [finish, List.getLast?_concat, List.dropLast_concat, held] at finished
      obtain rfl := Except.ok.inj (finished.symm.trans
        (within_eq_ok.mpr ⟨next, changed, put, leads.again changed, _, rfl, rfl⟩))
      rw [namesOf_append]
      refine (Definition.taken_insert .table rfl fun old present => ?_).lift leads
      exact .inr ⟨rfl, implied old present, by simp [beneath, present, inner]⟩

/-- What statements define, the tables take that they are read into. -/
theorem allTaken_of_run {statements : List Statement} {ended : Reading} {whole : Keyed Node}
    (opened : r.Opened) (run : statements.foldlM step r = .ok ended)
    (finished : ended.finish = .ok whole) :
    ∃ root, r.finish = .ok root ∧
      Definition.AllTaken root (Statement.definitions (namesOf r.openKey) statements) := by
  -- From the last statement to the first: that the open table finds its place at the end shows
  -- that it would have found it before.
  induction statements generalizing r with
  | nil =>
      cases run
      exact ⟨whole, finished, .nil⟩
  | cons statement rest ih =>
      obtain ⟨r', stepped, onward⟩ := bind_eq_ok.mp run
      cases statement with
      | header isArray pieces =>
          simp only [step, bind_eq_ok] at stepped
          obtain ⟨root, finish, key, readKey, _, short, start⟩ := stepped
          refine ⟨root, finish, ?_⟩
          by_cases named : key = []
          · subst named
            rw [Statement.definitions, names?_of_nil readKey]
            exact .nil
          · have header := header_of_start start
            have opened' : r'.Opened := by
              intro h found
              rw [header, Option.some.injEq] at found
              exact found ▸ named
            obtain ⟨after, finish', taken⟩ := ih opened' onward
            rw [openKey, header] at taken
            rw [Statement.definitions, names?_of_keyParts readKey named]
            exact .cons (taken_of_header named start finish') taken
      | entry pieces t =>
          simp only [step, bind_eq_ok] at stepped
          obtain ⟨key, readKey, value, readValue, _, short, current, set, same⟩ := stepped
          cases same
          have opened' : { r with current := current }.Opened := opened
          obtain ⟨root, finish, taken⟩ := ih opened' onward
          by_cases named : key = []
          · subst named
            cases set
            rw [Statement.definitions, names?_of_nil readKey]
            exact ⟨root, finish, taken⟩
          · obtain ⟨before, placed, first⟩ :=
              taken_of_entry opened (form_of_ofTerm readValue) named set finish
            rw [Statement.definitions, names?_of_keyParts readKey named]
            exact ⟨before, placed, .cons first taken⟩

theorem exists_ofTerm_of_run {statements : List Statement} {ended : Reading}
    (run : statements.foldlM step r = .ok ended) :
    ∀ key t, Statement.entry key t ∈ statements → ∃ node, ofTerm t = .ok node := by
  induction statements generalizing r with
  | nil => simp
  | cons statement rest ih =>
      obtain ⟨r', stepped, onward⟩ := bind_eq_ok.mp run
      intro pieces t inside
      obtain rfl | inside := List.mem_cons.mp inside
      · simp only [step, bind_eq_ok] at stepped
        obtain ⟨key, readKey, value, readValue, -⟩ := stepped
        exact ⟨value, readValue⟩
      · exact ih onward pieces t inside

end Reading

/-- Statements that give a key twice in some table are refused. -/
theorem not_giveTwice_of_ofStatements {statements : List Statement}
    (read : ofStatements statements = .ok entries) : ¬ Statement.GiveTwice statements := by
  obtain ⟨ended, run, finished⟩ := bind_eq_ok.mp read
  rintro (twice | ⟨key, t, inside, twice⟩)
  · have opened : Reading.empty.Opened := nofun
    obtain ⟨root, -, taken⟩ := Reading.allTaken_of_run opened run finished
    exact taken.not_repeat twice
  · obtain ⟨node, readTerm⟩ := Reading.exists_ofTerm_of_run run key t inside
    exact not_givesTwice_of_ofTerm readTerm twice

end Node

end AgentManifest.Toml
