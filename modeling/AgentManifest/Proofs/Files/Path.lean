import AgentManifest.Files.Tree
import AgentManifest.Proofs.Files.Route

/-! Where paths lead. A path that leads somewhere goes from directory to directory, by the names it
is made of and those of the links on its way, and ends in a directory, at an entry that is no link
or at none. A file in a directory is where the directory is, unless its name is a link. -/

namespace AgentManifest.FileTree

variable {t : FileTree} {p q d : Place} {e : FileEntry} {links : Nat} {name path root : String}
  {names : List String}

@[simp] theorem entry?_nil (t : FileTree) : t.entry? [] = some .directory := if_pos rfl

/-- Everything is in a directory. It is so in the empty tree, and every operation keeps it. -/
def Rooted (t : FileTree) : Prop :=
  ∀ p e, t.entry? p = some e → t.entry? p.dropLast = some .directory

/-- A place in a directory that holds no link. -/
structure Proper (t : FileTree) (p : Place) : Prop where
  inDirectory : t.entry? p.dropLast = some .directory
  noLink : ∀ target, t.entry? p ≠ some (.link target)

theorem Rooted.proper (rooted : t.Rooted) (directory : t.entry? p = some .directory) :
    t.Proper p :=
  ⟨rooted p _ directory, fun target linked => by simp [directory] at linked⟩

/-- A name that stands for an entry of its own. -/
structure Plain (name : String) : Prop where
  noDot : name ≠ "."
  noDots : name ≠ ".."
  short : name.utf8ByteSize ≤ Route.nameLimit

/-- What names that lead somewhere go through. -/
inductive Leads (t : FileTree) : Nat → Place → List String → Place → Prop
  | here (links : Nat) (p : Place) : Leads t links p [] p
  | dot {links : Nat} {p q : Place} {rest : List String} : t.entry? p = some .directory →
      Leads t links p rest q → Leads t links p ("." :: rest) q
  | up {links : Nat} {p q : Place} {rest : List String} : t.entry? p = some .directory →
      Leads t links p.dropLast rest q → Leads t links p (".." :: rest) q
  | into {links : Nat} {p q : Place} {name : String} {e : FileEntry} {rest : List String} :
      t.entry? p = some .directory → Plain name →
      t.entry? (p ++ [name]) = some e → (∀ target, e ≠ .link target) →
      Leads t links (p ++ [name]) rest q → Leads t links p (name :: rest) q
  /-- Only the last name can lead to nothing. -/
  | new {links : Nat} {p : Place} {name : String} : t.entry? p = some .directory → Plain name →
      t.entry? (p ++ [name]) = none → Leads t links p [name] (p ++ [name])
  | along {links : Nat} {p q : Place} {name target : String} {route : Route}
      {rest : List String} : t.entry? p = some .directory → Plain name →
      t.entry? (p ++ [name]) = some (.link target) → Route.ofText target = .ok route →
      Leads t links (if route.absolute then [] else p) (route.followed ++ rest) q →
      Leads t (links + 1) p (name :: rest) q

theorem Leads.of_follow (led : t.follow links p names = .ok q) : t.Leads links p names q := by
  fun_induction follow t links p names with
  | case1 links p =>
      cases led
      exact .here links _
  | case2 => cases led
  | case3 links p rest directory ih => exact .dot (Classical.not_not.mp directory) (ih led)
  | case4 links p rest directory _ ih => exact .up (Classical.not_not.mp directory) (ih led)
  | case5 => cases led
  | case6 => cases led
  | case7 => cases led
  | case8 p name rest directory noDot noDots short next target linked links route read ih =>
      exact .along (Classical.not_not.mp directory) ⟨noDot, noDots, Nat.not_lt.mp short⟩ linked read
        (by simpa using ih led)
  | case9 links p name rest directory noDot noDots short next e noLink found ih =>
      exact .into (Classical.not_not.mp directory) ⟨noDot, noDots, Nat.not_lt.mp short⟩ found
        (fun target same => noLink target same) (ih led)
  | case10 links p name rest directory noDot noDots short next nothing last =>
      obtain rfl := List.isEmpty_iff.mp last
      obtain rfl := Except.ok.inj led
      exact .new (Classical.not_not.mp directory) ⟨noDot, noDots, Nat.not_lt.mp short⟩ nothing
  | case11 => cases led

theorem follow_plain {rest : List String} (directory : t.entry? p = some .directory)
    (plain : Plain name) : t.follow links p (name :: rest) =
      match t.entry? (p ++ [name]) with
      | some (.link target) =>
        match links with
        | 0 => .error .tooManyLinks
        | links + 1 =>
          match Route.ofText target with
          | .error e => .error e
          | .ok route =>
            t.follow links (if route.absolute then [] else p) (route.followed ++ rest)
      | some _ => t.follow links (p ++ [name]) rest
      | none => if rest.isEmpty then .ok (p ++ [name]) else .error .notFound := by
  rewrite [FileTree.follow, if_neg (Classical.not_not.mpr directory), if_neg plain.noDot,
    if_neg plain.noDots, if_neg (Nat.not_lt.mpr plain.short)]
  rfl

theorem Leads.follow (led : t.Leads links p names q) : t.follow links p names = .ok q := by
  induction led with
  | here => rw [FileTree.follow]
  | dot directory _ ih =>
      rw [FileTree.follow, if_neg (Classical.not_not.mpr directory), if_pos rfl, ih]
  | up directory _ ih =>
      rw [FileTree.follow, if_neg (Classical.not_not.mpr directory), if_neg (by decide),
        if_pos rfl, ih]
  | into directory plain found noLink _ ih =>
      simp only [follow_plain directory plain, found]
      exact ih
  | new directory plain nothing =>
      simp only [follow_plain directory plain, nothing, List.isEmpty_nil, if_true]
  | along directory plain linked read _ ih =>
      simp only [follow_plain directory plain, linked, read]
      exact ih

theorem placeOf_eq_ok {path : String} : t.placeOf path = .ok p ↔ ∃ route,
    Route.ofText path = .ok route ∧
      t.Leads linkLimit (t.startOf route.absolute) route.followed p := by
  rw [placeOf, bind_eq_ok]
  exact exists_congr fun route => and_congr_right fun _ => ⟨Leads.of_follow, Leads.follow⟩

/-- Names that lead somewhere lead to a proper place. -/
theorem Leads.proper (rooted : t.Rooted) (led : t.Leads links p names q)
    (start : names = [] → t.Proper p) : t.Proper q := by
  have below : ∀ {p name}, t.entry? p = some .directory →
      (∀ target, t.entry? (p ++ [name]) ≠ some (.link target)) → t.Proper (p ++ [name]) :=
    fun directory noLink => ⟨by rwa [List.dropLast_concat], noLink⟩
  induction led with
  | here => exact start rfl
  | dot directory _ ih => exact ih fun _ => rooted.proper directory
  | up directory _ ih => exact ih fun _ => rooted.proper (rooted _ _ directory)
  | into directory _ found noLink _ ih =>
      exact ih fun _ => below directory fun target linked =>
        noLink target (Option.some.inj (found.symm.trans linked))
  | new directory _ nothing =>
      exact below directory fun target linked => by simp [nothing] at linked
  | @along _ p _ _ _ route _ directory _ _ _ _ ih =>
      refine ih fun _ => ?_
      cases route.absolute with
      | true => exact rooted.proper t.entry?_nil
      | false => exact rooted.proper directory

theorem Leads.directory (led : t.Leads links p (name :: rest) q) :
    t.entry? p = some .directory := by
  cases led <;> assumption

/-- Names that go on lead to a directory first. -/
theorem Leads.before {more : List String}
    (led : t.Leads links p (names ++ name :: more) q) : ∃ d links', t.Leads links p names d ∧
      t.entry? d = some .directory ∧ t.Leads links' d (name :: more) q := by
  have start : ∀ {links p q}, t.Leads links p (name :: more) q → ∃ d links',
      t.Leads links p [] d ∧ t.entry? d = some .directory ∧ t.Leads links' d (name :: more) q :=
    fun led => ⟨_, _, .here .., led.directory, led⟩
  generalize whole : names ++ name :: more = all at led
  induction led generalizing names with
  | here => simp at whole
  | dot directory led ih =>
      cases names with
      | nil =>
          cases whole
          exact start (.dot directory led)
      | cons first names =>
          obtain ⟨rfl, rfl⟩ := List.cons.inj whole
          obtain ⟨d, links', before, found, behind⟩ := ih rfl
          exact ⟨d, links', .dot directory before, found, behind⟩
  | up directory led ih =>
      cases names with
      | nil =>
          cases whole
          exact start (.up directory led)
      | cons first names =>
          obtain ⟨rfl, rfl⟩ := List.cons.inj whole
          obtain ⟨d, links', before, found, behind⟩ := ih rfl
          exact ⟨d, links', .up directory before, found, behind⟩
  | into directory plain inside noLink led ih =>
      cases names with
      | nil =>
          cases whole
          exact start (.into directory plain inside noLink led)
      | cons first names =>
          obtain ⟨rfl, rfl⟩ := List.cons.inj whole
          obtain ⟨d, links', before, found, behind⟩ := ih rfl
          exact ⟨d, links', .into directory plain inside noLink before, found, behind⟩
  | new directory plain nothing =>
      cases names with
      | nil =>
          cases whole
          exact start (.new directory plain nothing)
      | cons first names => simp at whole
  | along directory plain linked read led ih =>
      cases names with
      | nil =>
          cases whole
          exact start (.along directory plain linked read led)
      | cons first names =>
          obtain ⟨rfl, rfl⟩ := List.cons.inj whole
          obtain ⟨d, links', before, found, behind⟩ := ih (List.append_assoc ..)
          exact ⟨d, links', .along directory plain linked read before, found, behind⟩

/-- A dot behind names that lead to a directory says nothing. -/
theorem Leads.concat_dot (led : t.Leads links p names d)
    (directory : t.entry? d = some .directory) : t.Leads links p (names ++ ["."]) d := by
  induction led with
  | here links p => exact .dot directory (.here links p)
  | dot found _ ih => exact .dot found (ih directory)
  | up found _ ih => exact .up found (ih directory)
  | into found plain inside noLink _ ih => exact .into found plain inside noLink (ih directory)
  | new _ _ nothing => simp [nothing] at directory
  | along found plain linked read _ ih =>
      exact .along found plain linked read (by simpa using ih directory)

/-- A name where there is no link leads to its own place. -/
theorem Leads.eq_of_noLink (led : t.Leads links d [name] q) (noDot : name ≠ ".")
    (noDots : name ≠ "..") (noLink : ∀ target, t.entry? (d ++ [name]) ≠ some (.link target)) :
    q = d ++ [name] := by
  cases led with
  | dot => exact absurd rfl noDot
  | up => exact absurd rfl noDots
  | into _ _ _ _ led =>
      cases led
      rfl
  | new => rfl
  | along _ _ linked => exact absurd linked (noLink _)

theorem proper_of_placeOf (rooted : t.Rooted) (placed : t.placeOf path = .ok p) :
    t.Proper p := by
  obtain ⟨route, read, led⟩ := placeOf_eq_ok.mp placed
  refine led.proper rooted fun none => ?_
  -- Only an absolute path can do without names.
  have absolute : route.absolute = true := Route.absolute_of_names read (by
    rw [Route.followed] at none
    split at none
    next => exact absurd none (by simp)
    next => exact none)
  rw [startOf, absolute]
  exact rooted.proper t.entry?_nil

/-- The place that files in a directory are put in. The empty path is the working directory. -/
def directoryAt (t : FileTree) (root : String) : Except FileFault Place :=
  if root.isEmpty then .ok t.workingDirectory else t.placeOf root

/-- No name in a directory is a link. -/
def NoLinksIn (t : FileTree) (d : Place) : Prop :=
  ∀ name target, t.entry? (d ++ [name]) ≠ some (.link target)

theorem directoryAt_of_join (file : FileName name)
    (placed : t.placeOf (FilePath.join root name) = .ok p) : ∃ d links,
      t.directoryAt root = .ok d ∧ t.entry? d = some .directory ∧ t.Leads links d [name] p := by
  obtain ⟨route, read, led⟩ := placeOf_eq_ok.mp placed
  by_cases given : root = ""
  · rw [given, Route.join_empty file] at read
    obtain rfl := Route.ofText_fileName file read
    exact ⟨t.workingDirectory, linkLimit, by simp [directoryAt, given], led.directory, led⟩
  · obtain ⟨above, readAbove, rfl⟩ := Route.ofText_join file given read
    obtain ⟨d, links, before, directory, behind⟩ := led.before
    refine ⟨d, links, ?_, directory, behind⟩
    rw [directoryAt, if_neg (by simpa using given)]
    refine placeOf_eq_ok.mpr ⟨above, readAbove, ?_⟩
    rw [Route.followed]
    split
    next => exact before.concat_dot directory
    next => exact before

/-- Without links in a directory, a file in it is in the directory itself. -/
theorem eq_of_join (file : FileName name) (placed : t.placeOf (FilePath.join root name) = .ok p)
    (directory : t.directoryAt root = .ok d) (noLinks : t.NoLinksIn d) : p = d ++ [name] := by
  obtain ⟨_, links, same, -, led⟩ := directoryAt_of_join file placed
  cases directory.symm.trans same
  exact led.eq_of_noLink file.noDot file.noDots (noLinks name)

end AgentManifest.FileTree
