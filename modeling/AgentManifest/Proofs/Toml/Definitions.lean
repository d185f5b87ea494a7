import AgentManifest.Proofs.Toml.Places

/-! What the statements of a TOML text define, as they are written: under which names from the top
of the text, and whether as a value, as the table of a header, or as one more table of a list.
Whether a name is defined twice is said of these definitions alone. A reader whose every step takes
one definition, keeping what has been defined and refusing what clashes with it, reads no text that
defines a name twice. -/

namespace AgentManifest.Toml

/-- How a name is defined. -/
inductive DefinitionKind where
  | value
  | table
  /-- One more table of a list. -/
  | item
  deriving DecidableEq

structure Definition where
  kind : DefinitionKind
  names : List String
  deriving DecidableEq

namespace Definition

/-- Two definitions that cannot both stand in one table: of one name, unless both add to a list, or
of a value and of something inside it. -/
def Clashes (first second : Definition) : Prop :=
  (first.kind = .value ∧ first.names <+: second.names) ∨
  (second.kind = .value ∧ second.names <+: first.names) ∨
  (first.names = second.names ∧ ¬ (first.kind = .item ∧ second.kind = .item))

/-- Two of the definitions clash, and no table has been added between them to a list that both are
inside: that would start their names afresh. -/
def Repeat (definitions : List Definition) : Prop :=
  ∃ before first between second behind,
    definitions = before ++ first :: (between ++ second :: behind) ∧ first.Clashes second ∧
      ∀ added ∈ between, added.kind = .item →
        ¬ (added.names <+: first.names ∧ added.names <+: second.names)

end Definition

/-- The names a key is made of, if it can be read. -/
def names? (key : List Piece) : Option (List String) :=
  match Node.keyParts key with
  | .ok [] => none
  | .ok parts => some (Node.namesOf parts)
  | .error _ => none

/-- What the entries of a table in braces define in that table. -/
def Term.definitions (entries : List (List Piece × Term)) : List Definition :=
  entries.filterMap fun entry => (names? entry.1).map (⟨.value, ·⟩)

/-- Some table in braces, at any depth of a value, defines a name twice. -/
inductive Term.GivesTwice : Term → Prop where
  | here {entries : List (List Piece × Term)}
      (twice : Definition.Repeat (Term.definitions entries)) : GivesTwice (.inlineTable entries)
  | entry {entries : List (List Piece × Term)} {key : List Piece} {t : Term}
      (inside : (key, t) ∈ entries) (deeper : GivesTwice t) : GivesTwice (.inlineTable entries)
  | item {items : List Term} {t : Term} (inside : t ∈ items) (deeper : GivesTwice t) :
      GivesTwice (.array items)

/-- What statements define that stand under a header, or at the top of the text. The tables that
their names only lead through are not defined by them. Behind a header that cannot be read nothing
is defined. -/
def Statement.definitions : List String → List Statement → List Definition
  | _, [] => []
  | _, .header isArray key :: rest =>
    match names? key with
    | some names => ⟨if isArray then .item else .table, names⟩ :: definitions names rest
    | none => []
  | above, .entry key _ :: rest =>
    match names? key with
    | some names => ⟨.value, above ++ names⟩ :: definitions above rest
    | none => definitions above rest

/-- Some table of a text, at any depth, gives a key twice. -/
def Statement.GiveTwice (statements : List Statement) : Prop :=
  Definition.Repeat (Statement.definitions [] statements) ∨
    ∃ key t, Statement.entry key t ∈ statements ∧ t.GivesTwice

open Node (Form formAt exists_formAt_of_prefix)

namespace Definition

def form (d : Definition) : Form :=
  match d.kind with
  | .value => .value
  | .table => .table .header
  | .item => .list

/-- A definition is barred by a value anywhere on its way. Where it leads, a value is barred by
anything, and the others by all but what they add to. -/
def BarredBy (d : Definition) (place : List String) (form : Form) : Prop :=
  place <+: d.names ∧
    (form = .value ∨ place = d.names ∧
      match d.kind with
      | .value => True
      | .table => form = .table .header ∨ form = .list
      | .item => form = .table .header)

variable {d first second : Definition} {place : List String} {form : Form}

theorem barredBy_header (barred : d.BarredBy place (.table .implied)) :
    d.BarredBy place (.table .header) := by
  obtain ⟨leading, value | ⟨there, kind⟩⟩ := barred
  · cases value
  · refine ⟨leading, .inr ⟨there, ?_⟩⟩
    cases kind : d.kind <;> simp_all

/-- Tables before and after a definition has been taken. -/
structure Taken (before : Keyed Node) (d : Definition) (after : Keyed Node) : Prop where
  named : d.names ≠ []
  free : ∀ {place form}, formAt place before = some form → ¬ d.BarredBy place form
  stands : formAt d.names after = some d.form
  /-- Only inside a list that a table is added to does anything cease to stand, and only a table
  that was implied gets a header. -/
  kept : ∀ {place form}, formAt place before = some form →
    ¬ (d.kind = .item ∧ d.names <+: place) →
      formAt place after = some form ∨
        form = .table .implied ∧ formAt place after = some (.table .header)

inductive AllTaken : Keyed Node → List Definition → Prop where
  | nil {entries : Keyed Node} : AllTaken entries []
  | cons {before after : Keyed Node} {d : Definition} {rest : List Definition}
      (taken : Taken before d after) (onward : AllTaken after rest) : AllTaken before (d :: rest)

theorem exists_barredBy_of_clashes {after : Keyed Node} (clash : first.Clashes second)
    (stands : formAt first.names after = some first.form) (named : second.names ≠ []) :
    ∃ place form, formAt place after = some form ∧ second.BarredBy place form ∧
      place <+: first.names := by
  obtain ⟨value, leading⟩ | ⟨value, leading⟩ | ⟨same, notBoth⟩ := clash
  · refine ⟨first.names, first.form, stands, ⟨leading, .inl ?_⟩, List.prefix_refl _⟩
    simp [Definition.form, value]
  · obtain ⟨form, stands⟩ := exists_formAt_of_prefix stands leading named
    exact ⟨second.names, form, stands, ⟨List.prefix_refl _, .inr ⟨rfl, by simp [value]⟩⟩, leading⟩
  · -- Under one name what the first leaves there bars the second, unless both add to the list.
    refine ⟨first.names, first.form, stands, ⟨same ▸ List.prefix_refl _, ?_⟩, List.prefix_refl _⟩
    cases kind : first.kind with
    | value => exact .inl (by simp [Definition.form, kind])
    | table =>
        refine .inr ⟨same, ?_⟩
        cases other : second.kind <;> simp [Definition.form, kind]
    | item =>
        refine .inr ⟨same, ?_⟩
        cases other : second.kind with
        | value => trivial
        | table => simp [Definition.form, kind]
        | item => exact absurd ⟨kind, other⟩ notBoth

theorem AllTaken.named {entries : Keyed Node} {definitions : List Definition}
    (taken : AllTaken entries definitions) : ∀ d ∈ definitions, d.names ≠ [] := by
  induction taken with
  | nil => simp
  | cons taken onward ih => exact List.forall_mem_cons.mpr ⟨taken.named, ih⟩

/-- What bars a definition keeps barring it until a table is added to a list that it is inside. -/
theorem AllTaken.not_barred {entries : Keyed Node} {between behind : List Definition}
    (taken : AllTaken entries (between ++ d :: behind)) (stands : formAt place entries = some form)
    (barred : d.BarredBy place form)
    (lasting : ∀ added ∈ between, added.kind = .item → ¬ added.names <+: place) : False := by
  induction between generalizing entries form with
  | nil =>
      cases taken with
      | cons taken onward => exact taken.free stands barred
  | cons added between ih =>
      cases taken with
      | cons taken onward =>
          -- What bars `d` outlives the definition in between, though it may become a header's.
          obtain ⟨here, lasting⟩ := List.forall_mem_cons.mp lasting
          obtain kept | ⟨rfl, kept⟩ := taken.kept stands fun both => here both.1 both.2
          · exact ih onward kept barred lasting
          · exact ih onward kept (barredBy_header barred) lasting

theorem AllTaken.not_repeat {entries : Keyed Node} {definitions : List Definition}
    (taken : AllTaken entries definitions) : ¬ Repeat definitions := by
  rintro ⟨before, first, between, second, behind, rfl, clash, lasting⟩
  have named := taken.named second (by simp)
  induction before generalizing entries with
  | nil =>
      cases taken with
      | cons taken onward =>
          obtain ⟨place, form, stands, barred, leading⟩ :=
            exists_barredBy_of_clashes clash taken.stands named
          exact onward.not_barred stands barred fun added inside item leads =>
            lasting added inside item ⟨leads.trans leading, leads.trans barred.1⟩
  | cons d before ih =>
      cases taken with
      | cons taken onward => exact ih onward

end Definition

end AgentManifest.Toml
