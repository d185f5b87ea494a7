import AgentManifest.Proofs.Keyed.Order
import AgentManifest.Proofs.Outcome
import AgentManifest.Toml.Table

/-! Places in the tables of a TOML text, as the names that lead there from the top. Under the name
of a list of tables, names lead into the last of them. What the walk to a table does is said once,
in `Leads`: which table it comes to, and how the tables on the way are put together again around
another one. -/

namespace AgentManifest.Toml.Node

open Keyed (get? insert get?_insert)

/-- What stands at a place: a value, a list of tables, or a table under names. Nothing can be added
to a table in braces, which counts as a value. -/
inductive Form where
  | value
  | list
  | table (origin : Origin)
  deriving DecidableEq

def form : Node → Form
  | .scalar .. => .value
  | .array _ => .value
  | .tables _ => .list
  | .table .braces _ => .value
  | .table origin _ => .table origin

/-- The entries that more may be added to. -/
def inner : Node → Keyed Node
  | .table .braces _ => []
  | .table _ entries => entries
  | .tables items =>
    match items.getLast? with
    | some (.table _ entries) => entries
    | _ => []
  | _ => []

def beneath (name : String) (entries : Keyed Node) : Keyed Node := (get? name entries).elim [] inner

/-- The entries that names lead to. -/
def into : List String → Keyed Node → Keyed Node
  | [], entries => entries
  | name :: names, entries => into names (beneath name entries)

/-- What stands at a place. -/
def formAt : List String → Keyed Node → Option Form
  | [], _ => none
  | [name], entries => (get? name entries).map form
  | name :: next :: names, entries => formAt (next :: names) (beneath name entries)

variable {name other : String} {names place behind : List String} {node : Node}
  {entries : Keyed Node}

@[simp] theorem beneath_insert :
    beneath other (insert name node entries) =
      if other = name then node.inner else beneath other entries := by
  rw [beneath, get?_insert]
  split <;> rfl

theorem formAt_cons (named : names ≠ []) :
    formAt (name :: names) entries = formAt names (beneath name entries) := by
  cases names with
  | nil => exact absurd rfl named
  | cons next names => rfl

@[simp] theorem formAt_empty (names : List String) : formAt names [] = none := by
  induction names with
  | nil => rfl
  | cons name names ih =>
      cases names with
      | nil => rfl
      | cons next names => exact ih

theorem formAt_append (named : behind ≠ []) :
    formAt (names ++ behind) entries = formAt behind (into names entries) := by
  induction names generalizing entries with
  | nil => rfl
  | cons name names ih =>
      rw [List.cons_append, formAt_cons (by simp [named]), ih]
      rfl

/-- Where nothing stands, nothing stands further on. -/
theorem formAt_append_of_none (absent : formAt names entries = none) (named : names ≠ []) :
    formAt (names ++ behind) entries = none := by
  induction names generalizing entries with
  | nil => exact absurd rfl named
  | cons name names ih =>
      cases names with
      | nil =>
          have missing : get? name entries = none := Option.map_eq_none_iff.mp absent
          cases behind with
          | nil => exact absent
          | cons next names =>
              change formAt (next :: names) (beneath name entries) = none
              rw [beneath, missing]
              exact formAt_empty _
      | cons next names =>
          change formAt (next :: names ++ behind) (beneath name entries) = none
          exact ih absent (by simp)

theorem exists_formAt_of_prefix {form : Form} (stands : formAt names entries = some form)
    (leading : place <+: names) (named : place ≠ []) :
    ∃ form, formAt place entries = some form := by
  obtain ⟨behind, rfl⟩ := leading
  cases found : formAt place entries with
  | none =>
      rw [formAt_append_of_none found named] at stands
      cases stands
  | some form => exact ⟨form, rfl⟩

theorem formAt_insert_of_ne (different : other ≠ name) :
    formAt (other :: names) (insert name node entries) = formAt (other :: names) entries := by
  cases names with
  | nil => simp [formAt, different]
  | cons next names => simp [formAt, different]

/-- An entry that takes another's place leaves standing what stands inside. -/
theorem formAt_insert_of_inner (same : node.inner = beneath name entries) (named : names ≠ []) :
    formAt (name :: names) (insert name node entries) = formAt (name :: names) entries := by
  rw [formAt_cons named, formAt_cons named, beneath_insert, if_pos rfl, same]

/-- One step of the walk: from what is found under a name to the origin and the entries of the table
it enters, and what stands under the name when that table holds other entries. -/
inductive Enters (dotted : Bool) :
    Option Node → Origin → Keyed Node → (Keyed Node → Node) → Prop where
  | new : Enters dotted none (if dotted then .dotted else .implied) []
      (.table (if dotted then .dotted else .implied))
  | table {origin : Origin} {entries : Keyed Node} (unbraced : origin ≠ .braces)
      (own : ¬ (dotted ∧ origin = .header)) :
      Enters dotted (some (.table origin entries)) origin entries (.table origin)
  | last {items : List Node} {origin : Origin} {entries : Keyed Node}
      (found : items.getLast? = some (.table origin entries)) :
      Enters dotted (some (.tables items)) origin entries
        fun held => .tables (items.dropLast ++ [.table origin held])

namespace Enters

variable {dotted : Bool} {found : Option Node} {origin : Origin} {entries : Keyed Node}
  {around : Keyed Node → Node}

theorem inner_around (enters : Enters dotted found origin entries around) (held : Keyed Node) :
    (around held).inner = held := by
  cases enters with
  | new => cases dotted <;> rfl
  | table unbraced own => cases origin <;> first | rfl | exact absurd rfl unbraced
  | last found => simp [inner]

theorem form_around_ne (enters : Enters dotted found origin entries around) (held : Keyed Node) :
    (around held).form ≠ .value := by
  cases enters with
  | new => cases dotted <;> simp [form]
  | table unbraced own => cases origin <;> simp_all [form]
  | last found => simp [form]

theorem elim_inner (enters : Enters dotted found origin entries around) :
    found.elim [] inner = entries := by
  cases enters with
  | new => rfl
  | table unbraced own => cases origin <;> first | rfl | exact absurd rfl unbraced
  | last found => simp [inner, found]

theorem form_of_found (enters : Enters dotted (some node) origin entries around)
    (held : Keyed Node) : (around held).form = node.form := by
  cases enters with
  | table unbraced own => cases origin <;> rfl
  | last found => rfl

/-- What has been put around a table is entered again as it was. -/
theorem again (enters : Enters dotted found origin entries around) (held : Keyed Node) :
    Enters dotted (some (around held)) origin held around := by
  cases enters with
  | new => exact .table (by cases dotted <;> simp) (by cases dotted <;> simp)
  | table unbraced own => exact .table unbraced own
  | @last items origin entries found =>
      have reentered : Enters dotted (some (.tables (items.dropLast ++ [.table origin held])))
          origin held _ := .last List.getLast?_concat
      rwa [List.dropLast_concat] at reentered

end Enters

/-- The walk along a path: it comes to a table with an origin and entries, and puts the tables on
the way together again around whatever that table holds then. -/
inductive Leads (dotted : Bool) : List KeyPart → Origin → Keyed Node →
    Origin → Keyed Node → (Keyed Node → Keyed Node) → Prop where
  | here {origin : Origin} {entries : Keyed Node} :
      Leads dotted [] origin entries origin entries id
  | step {part : KeyPart} {path : List KeyPart} {origin next last : Origin}
      {entries held found : Keyed Node} {around : Keyed Node → Node} {put : Keyed Node → Keyed Node}
      (enters : Enters dotted (get? part.name entries) next held around)
      (onward : Leads dotted path next held last found put) :
      Leads dotted (part :: path) origin entries last found
        fun held => insert part.name (around (put held)) entries

/-- The names of a key. -/
def namesOf (key : List KeyPart) : List String := key.map (·.name)

@[simp] theorem namesOf_append (first second : List KeyPart) :
    namesOf (first ++ second) = namesOf first ++ namesOf second := List.map_append

section

variable {dotted : Bool} {change : Keyed Node → Origin → Except Fault (Keyed Node)}
  {part : KeyPart} {path : List KeyPart} {origin : Origin} {after : Keyed Node}

theorem within_cons_eq_ok :
    within dotted change (part :: path) origin entries = .ok after ↔
      ∃ next held around, Enters dotted (get? part.name entries) next held around ∧
        ∃ inside, within dotted change path next held = .ok inside ∧
          after = insert part.name (around inside) entries := by
  simp only [within]
  constructor
  · intro succeeded
    split at succeeded
    next absent =>
      obtain ⟨inside, onward, same⟩ := bind_eq_ok.mp succeeded
      cases same
      rw [absent]
      exact ⟨_, _, _, .new, inside, onward, rfl⟩
    next origin held present =>
      split at succeeded
      next => cases succeeded
      next unbraced =>
        split at succeeded
        next => cases succeeded
        next own =>
          obtain ⟨inside, onward, same⟩ := bind_eq_ok.mp succeeded
          cases same
          rw [present]
          exact ⟨_, _, _, .table unbraced (by simpa using own), inside, onward, rfl⟩
    next items present =>
      split at succeeded
      next origin held latest =>
        obtain ⟨inside, onward, same⟩ := bind_eq_ok.mp succeeded
        cases same
        rw [present]
        exact ⟨_, _, _, .last latest, inside, onward, rfl⟩
      next => cases succeeded
    next => cases succeeded
  · rintro ⟨next, held, around, enters, inside, onward, rfl⟩
    generalize get? part.name entries = present at enters ⊢
    cases enters with
    | new => simp [onward]
    | table unbraced own => simp [unbraced, own, onward]
    | last latest => simp [latest, onward]

/-- A change of the table at the end of a path is the walk there, the change, and the tables on the
way put together again. -/
theorem within_eq_ok :
    within dotted change path origin entries = .ok after ↔
      ∃ last found put, Leads dotted path origin entries last found put ∧
        ∃ changed, change found last = .ok changed ∧ after = put changed := by
  constructor
  · intro succeeded
    induction path generalizing origin entries after with
    | nil => exact ⟨origin, entries, id, .here, after, succeeded, rfl⟩
    | cons part path ih =>
        obtain ⟨next, held, around, enters, inside, onward, rfl⟩ := within_cons_eq_ok.mp succeeded
        obtain ⟨last, found, put, leads, changed, done, rfl⟩ := ih onward
        exact ⟨last, found, _, .step enters leads, changed, done, rfl⟩
  · rintro ⟨last, found, put, leads, changed, succeeded, rfl⟩
    induction leads with
    | here => exact succeeded
    | step enters onward ih =>
        exact within_cons_eq_ok.mpr ⟨_, _, _, enters, _, ih succeeded, rfl⟩

end

/-- Whether a place is inside the table at another one. -/
def Inside (table place : List String) : Prop := ∃ behind, behind ≠ [] ∧ place = table ++ behind

theorem inside_cons_iff {table : List String} :
    Inside (name :: table) (other :: place) ↔ other = name ∧ Inside table place := by
  simp only [Inside, List.cons_append, List.cons.injEq]
  constructor
  · rintro ⟨behind, named, same, rfl⟩
    exact ⟨same, behind, named, rfl⟩
  · rintro ⟨same, behind, named, rfl⟩
    exact ⟨behind, named, same, rfl⟩

theorem inside_or_leading {table : List String} (leading : place <+: table ++ names) :
    Inside table place ∨ place <+: table := by
  obtain shorter | ⟨behind, rfl⟩ :=
    List.prefix_or_prefix_of_prefix leading (List.prefix_append table names)
  · exact .inr shorter
  · cases behind with
    | nil => exact .inr (by simp)
    | cons name behind => exact .inl ⟨name :: behind, List.cons_ne_nil _ _, rfl⟩

namespace Leads

variable {dotted : Bool} {path : List KeyPart} {origin last : Origin} {found : Keyed Node}
  {put : Keyed Node → Keyed Node}

theorem into_eq (leads : Leads dotted path origin entries last found put) :
    into (namesOf path) entries = found := by
  induction leads with
  | here => rfl
  | step enters onward ih =>
      rw [← ih]
      exact congrArg (into _) enters.elim_inner

theorem into_put (leads : Leads dotted path origin entries last found put) (held : Keyed Node) :
    into (namesOf path) (put held) = held := by
  induction leads with
  | here => rfl
  | @step part path _ _ _ _ _ _ around put enters onward ih =>
      change into (namesOf path) (beneath part.name (insert part.name _ _)) = held
      rw [beneath_insert, if_pos rfl, enters.inner_around]
      exact ih

/-- Outside the table that the walk comes to, everything stands as before. -/
theorem formAt_put (leads : Leads dotted path origin entries last found put) (held : Keyed Node)
    (outside : ¬ Inside (namesOf path) place) {form : Form}
    (stands : formAt place entries = some form) : formAt place (put held) = some form := by
  induction leads generalizing place with
  | here =>
      cases place with
      | nil => cases stands
      | cons name place => exact absurd ⟨_, List.cons_ne_nil name place, rfl⟩ outside
  | @step part path origin next last entries before found around put enters onward ih =>
      cases place with
      | nil => cases stands
      | cons name place =>
          by_cases same : name = part.name
          · subst same
            -- At its own name the step keeps the form; further on the rest of the walk decides.
            cases place with
            | nil =>
                obtain ⟨node, present, rfl⟩ := Option.map_eq_some_iff.mp stands
                rw [present] at enters
                simp [formAt, enters.form_of_found]
            | cons next place =>
                have onward_outside : ¬ Inside (namesOf path) (next :: place) :=
                  fun inside => outside (inside_cons_iff.mpr ⟨rfl, inside⟩)
                have before_stands : formAt (next :: place) before = some form := by
                  rw [← enters.elim_inner]
                  exact stands
                simpa [formAt, enters.inner_around] using ih onward_outside before_stands
          · rw [formAt_insert_of_ne same]
            exact stands

/-- No value stands on the way. -/
theorem formAt_put_ne_value (leads : Leads dotted path origin entries last found put)
    (held : Keyed Node) (leading : place <+: namesOf path) :
    formAt place (put held) ≠ some .value := by
  induction leads generalizing place with
  | here =>
      rw [List.prefix_nil.mp leading]
      exact nofun
  | @step part path origin next last entries before found around put enters onward ih =>
      cases place with
      | nil => exact nofun
      | cons name place =>
          obtain ⟨rfl, onward_leading⟩ := List.cons_prefix_cons.mp leading
          cases place with
          | nil => simpa [formAt] using enters.form_around_ne (put held)
          | cons next place => simpa [formAt, enters.inner_around] using ih onward_leading

theorem formAt_ne_value (leads : Leads dotted path origin entries last found put)
    (leading : place <+: namesOf path) : formAt place entries ≠ some .value := by
  intro stands
  -- A value on the way would still stand there when the tables are put together again.
  refine leads.formAt_put_ne_value found leading (leads.formAt_put found ?_ stands)
  rintro ⟨behind, named, rfl⟩
  have short := leading.length_le
  rw [List.length_append] at short
  exact named (List.length_eq_zero_iff.mp (by omega))

/-- The walk leads to the same table again, whatever it holds. -/
theorem again (leads : Leads dotted path origin entries last found put) (held : Keyed Node) :
    Leads dotted path origin (put held) last held put := by
  induction leads with
  | here => exact .here
  | @step part path origin next last entries before found around put enters onward ih =>
      have entered : Enters dotted (get? part.name (insert part.name (around (put held)) entries))
          next (put held) around := by
        rw [get?_insert, if_pos rfl]
        exact enters.again (put held)
      have reached : Leads dotted (part :: path) origin _ last held _ := .step entered ih
      simpa only [Keyed.insert_insert] using reached

theorem trans {path' : List KeyPart} {last' : Origin} {found' : Keyed Node}
    {put' : Keyed Node → Keyed Node} (leads : Leads dotted path origin entries last found put)
    (onward : Leads dotted path' last found last' found' put') :
    Leads dotted (path ++ path') origin entries last' found' fun held => put (put' held) := by
  induction leads with
  | here => cases onward with
    | here => exact .here
    | step enters onward => exact .step enters onward
  | step enters _ ih => exact .step enters (ih onward)

end Leads

end AgentManifest.Toml.Node
