import AgentManifest.Proofs.Files.Path

/-! Trees that grow. Directories that are made and files that are written take nothing away:
whatever a path leads to, it leads there afterwards, and no place but the one that is written holds
anything else. Everything stays in a directory, and no link comes to be. -/

namespace AgentManifest.FileTree

variable {t t' t'' : FileTree} {p q d : Place} {e : FileEntry} {links : Nat}
  {names : List String}

theorem lookup_filter (keep : Place → Bool) (entries : List (Place × FileEntry)) (q : Place) :
    (entries.filter fun e => keep e.1).lookup q = if keep q then entries.lookup q else none := by
  induction entries with
  | nil => simp
  | cons entry entries ih =>
      obtain ⟨place, e⟩ := entry
      by_cases here : q = place
      · by_cases kept : keep place
        · simp [here, kept]
        · simp [here, kept, here ▸ ih]
      · have passed : (q == place) = false := by simpa using here
        by_cases kept : keep place
        · simp [kept, List.lookup_cons, passed, ih]
        · simp [kept, List.lookup_cons, passed, ih]

theorem entry?_put_of_ne (t : FileTree) (e : FileEntry) (other : q ≠ p) :
    entry? (t.put p e) q = t.entry? q := by
  have elsewhere : [(p, e)].lookup q = none := by simp [List.lookup_eq_none_iff, other]
  have kept := lookup_filter (· ≠ p) t.entries q
  simp only [other, ne_eq, not_false_eq_true, decide_true, if_true] at kept
  simp only [ entry?, put, List.lookup_append, ne_eq, kept, elsewhere, Option.or_none]

theorem entry?_put_self (t : FileTree) (e : FileEntry) (inside : p ≠ []) :
    entry? (t.put p e) p = some e := by
  have gone := lookup_filter (· ≠ p) t.entries p
  simp only [ne_eq, not_true_eq_false, decide_false, Bool.false_eq_true, if_false] at gone
  simp only [ entry?, put, inside, if_false, List.lookup_append, ne_eq, gone, Option.none_or,
    List.lookup_cons, beq_self_eq_true]

theorem Rooted.put (rooted : t.Rooted) (inDirectory : t.entry? p.dropLast = some .directory)
    (noDirectory : t.entry? p ≠ some .directory) (e : FileEntry) : (t.put p e).Rooted := by
  have inside : p ≠ [] := fun root => noDirectory (root ▸ t.entry?_nil)
  -- Nothing was below the place, which was no directory.
  have stays : ∀ q, t.entry? q = some .directory → entry? (t.put p e) q = some .directory := by
    intro q directory
    have other : q ≠ p := fun same => noDirectory (same ▸ directory)
    rw [entry?_put_of_ne t e other, directory]
  intro q e' found
  by_cases same : q = p
  · exact same ▸ stays _ inDirectory
  · rw [entry?_put_of_ne t e same] at found
    exact stays _ (rooted q e' found)

/-- Nothing is taken away: directories and links stay, other entries stay something that is no
link, and no links are added. -/
structure Grown (t t' : FileTree) : Prop where
  workingDirectory : t'.workingDirectory = t.workingDirectory
  directory : ∀ p, t.entry? p = some .directory → t'.entry? p = some .directory
  link_iff : ∀ p target, t'.entry? p = some (.link target) ↔ t.entry? p = some (.link target)
  something : ∀ p, t.entry? p ≠ none → t'.entry? p ≠ none

namespace Grown

theorem refl (t : FileTree) : Grown t t := ⟨rfl, fun _ h => h, fun _ _ => Iff.rfl, fun _ h => h⟩

theorem trans (first : Grown t t') (second : Grown t' t'') : Grown t t'' where
  workingDirectory := second.workingDirectory.trans first.workingDirectory
  directory p found := second.directory p (first.directory p found)
  link_iff p target := (second.link_iff p target).trans (first.link_iff p target)
  something p found := second.something p (first.something p found)

theorem startOf (grown : Grown t t') (absolute : Bool) :
    t'.startOf absolute = t.startOf absolute := by
  rw [FileTree.startOf, FileTree.startOf, grown.workingDirectory]

theorem leads (grown : Grown t t') (led : t.Leads links p names q) : t'.Leads links p names q := by
  induction led with
  | here links p => exact .here links p
  | dot directory _ ih => exact .dot (grown.directory _ directory) ih
  | up directory _ ih => exact .up (grown.directory _ directory) ih
  | into directory plain found noLink _ ih =>
      have stays := grown.something _ (Option.ne_none_iff_exists'.mpr ⟨_, found⟩)
      obtain ⟨e, found'⟩ := Option.ne_none_iff_exists'.mp stays
      refine .into (grown.directory _ directory) plain found' (fun target same => ?_) ih
      have linked := (grown.link_iff _ target).mp (found'.trans (congrArg some same))
      exact noLink target (Option.some.inj (found.symm.trans linked))
  | @new links p name directory plain nothing =>
      cases found : t'.entry? (p ++ [name]) with
      | none => exact .new (grown.directory _ directory) plain found
      | some e =>
          refine .into (grown.directory _ directory) plain found (fun target same => ?_) (.here ..)
          have linked := (grown.link_iff _ target).mp (found.trans (congrArg some same))
          simp [nothing] at linked
  | along directory plain linked read _ ih =>
      exact .along (grown.directory _ directory) plain ((grown.link_iff ..).mpr linked) read ih

theorem placeOf {path : String} (grown : Grown t t') (led : t.placeOf path = .ok q) :
    t'.placeOf path = .ok q := by
  obtain ⟨route, read, led⟩ := placeOf_eq_ok.mp led
  refine placeOf_eq_ok.mpr ⟨route, read, ?_⟩
  rw [grown.startOf]
  exact grown.leads led

theorem directoryAt {root : String} (grown : Grown t t') (led : t.directoryAt root = .ok q) :
    t'.directoryAt root = .ok q := by
  rw [FileTree.directoryAt] at led ⊢
  by_cases empty : root.isEmpty
  · rw [if_pos empty] at led ⊢
    rw [grown.workingDirectory, led]
  · rw [if_neg empty] at led ⊢
    exact grown.placeOf led

end Grown

/-- Directories are put where nothing was, and nothing else changes. -/
structure MadeDirectories (t t' : FileTree) : Prop where
  workingDirectory : t'.workingDirectory = t.workingDirectory
  entry : ∀ p, t'.entry? p = t.entry? p ∨ t.entry? p = none ∧ t'.entry? p = some .directory
  rooted : t'.Rooted

namespace MadeDirectories

theorem refl (rooted : t.Rooted) : MadeDirectories t t := ⟨rfl, fun _ => .inl rfl, rooted⟩

theorem trans (first : MadeDirectories t t') (second : MadeDirectories t' t'') :
    MadeDirectories t t'' where
  workingDirectory := second.workingDirectory.trans first.workingDirectory
  entry p := by
    rcases first.entry p, second.entry p with ⟨same | ⟨nothing, made⟩, same' | ⟨nothing', made'⟩⟩
    · exact .inl (same'.trans same)
    · exact .inr ⟨same ▸ nothing', made'⟩
    · exact .inr ⟨nothing, same'.trans made⟩
    · exact .inr ⟨nothing, made'⟩
  rooted := second.rooted

theorem stays (made : MadeDirectories t t') (found : t.entry? p = some e) :
    t'.entry? p = some e := by
  rcases made.entry p with same | ⟨nothing, _⟩
  · rw [same, found]
  · simp [nothing] at found

theorem grown (made : MadeDirectories t t') : Grown t t' where
  workingDirectory := made.workingDirectory
  directory _ found := made.stays found
  link_iff p target := by
    refine ⟨fun linked => ?_, made.stays⟩
    rcases made.entry p with same | ⟨_, directory⟩
    · rwa [same] at linked
    · simp [directory] at linked
  something p found := by
    obtain ⟨e, found⟩ := Option.ne_none_iff_exists'.mp found
    simp [made.stays found]

end MadeDirectories

/-- An entry is put in a directory, unless it is one that is there. -/
theorem placeFor_eq_ok {absolute : Bool} (rooted : t.Rooted)
    (placed : t.placeFor absolute names = .ok p) :
    t.entry? p = some .directory ∨ t.entry? p.dropLast = some .directory := by
  rw [placeFor] at placed
  split at placed
  next => cases placed
  next last _ =>
    obtain ⟨d, -, placed⟩ := bind_eq_ok.mp placed
    split at placed
    next => cases placed
    next found =>
      split at placed
      next =>
        cases placed
        exact .inl found
      next =>
        split at placed
        next =>
          cases placed
          exact .inl (rooted d _ found)
        next =>
          split at placed
          next => cases placed
          next =>
            cases placed
            exact .inr (by rwa [List.dropLast_concat])
    next => cases placed

theorem create_eq_ok {absolute : Bool} (rooted : t.Rooted)
    (made : t.create absolute names e = .ok t') : ∃ p, t.entry? p = none ∧
      t.entry? p.dropLast = some .directory ∧ t' = t.put p e := by
  obtain ⟨p, placed, made⟩ := bind_eq_ok.mp made
  split at made
  next => cases made
  next nothing =>
    cases made
    refine ⟨p, nothing, ?_, rfl⟩
    exact (placeFor_eq_ok rooted placed).resolve_left fun found => by simp [nothing] at found

theorem MadeDirectories.put (rooted : t.Rooted) (nothing : t.entry? p = none)
    (inDirectory : t.entry? p.dropLast = some .directory) :
    MadeDirectories t (t.put p .directory) where
  workingDirectory := rfl
  entry q := by
    by_cases same : q = p
    · have inside : p ≠ [] := fun root => by simp [root] at nothing
      rw [same]
      exact .inr ⟨nothing, entry?_put_self t _ inside⟩
    · exact .inl (entry?_put_of_ne t _ same)
  rooted := rooted.put inDirectory (by simp [nothing]) _

theorem madeDirectories_createDirectory {absolute : Bool} (rooted : t.Rooted)
    (made : t.createDirectory absolute names = .ok t') : MadeDirectories t t' := by
  rw [createDirectory] at made
  split at made
  next created =>
    cases made
    obtain ⟨p, nothing, inDirectory, rfl⟩ := create_eq_ok rooted created
    exact .put rooted nothing inDirectory
  next =>
    split at made
    next =>
      cases made
      exact .refl rooted
    next => cases made

theorem madeDirectories_createAll {absolute : Bool} (rooted : t.Rooted)
    (before : List String) : MadeDirectories t (t.createAll absolute names before).2 := by
  fun_induction createAll t absolute names before with
  | case1 names made created => exact madeDirectories_createDirectory rooted created
  | case2 => exact .refl rooted
  | case3 names last rest made created => exact madeDirectories_createDirectory rooted created
  | case4 names last rest missing e made failed ih =>
      rwa [failed] at ih
  | case5 names last rest missing made above whole created ih =>
      rw [above] at ih
      exact ih.trans (madeDirectories_createDirectory ih.rooted created)
  | case6 names last rest missing made above e failed ih =>
      rwa [above] at ih
  | case7 => exact .refl rooted

theorem madeDirectories_createDirectories (rooted : t.Rooted) (path : String) :
    MadeDirectories t (t.createDirectories path).2 := by
  rw [createDirectories]
  split
  next => exact .refl rooted
  next =>
    split
    next => exact .refl rooted
    next => exact madeDirectories_createAll rooted _

section Write

variable {path : String} {content : List UInt8}

/-- A file is put where its path leads. -/
theorem write_eq_ok : t.write path content = .ok t' ↔ ∃ route p,
    Route.ofText path = .ok route ∧ route.toDirectory = false ∧ t.placeOf path = .ok p ∧
      t.entry? p ≠ some .directory ∧ t' = t.put p (.file content) := by
  constructor
  · intro written
    obtain ⟨route, read, written⟩ := bind_eq_ok.mp written
    refine ⟨route, ?_⟩
    split at written
    next =>
      obtain ⟨_, -, written⟩ := bind_eq_ok.mp written
      obtain ⟨_, failed, -⟩ := bind_eq_ok.mp written
      cases failed
    next toFile =>
      have toFile : route.toDirectory = false := by simpa using toFile
      obtain ⟨p, led, written⟩ := bind_eq_ok.mp written
      have placed : t.placeOf path = .ok p := by
        rw [placeOf, read, ok_bind, Route.followed, toFile]
        exact led
      split at written
      next => cases written
      next noDirectory =>
        cases written
        exact ⟨p, read, toFile, placed, noDirectory, rfl⟩
  · rintro ⟨route, p, read, toFile, placed, noDirectory, rfl⟩
    rw [placeOf, read, ok_bind, Route.followed, toFile] at placed
    simp only [Bool.false_eq_true, if_false] at placed
    simp only [write, read, ok_bind, toFile, Bool.false_eq_true, if_false, placed]
    rfl

theorem Proper.grown_put (proper : t.Proper p) (noDirectory : t.entry? p ≠ some .directory)
    (content : List UInt8) : Grown t (t.put p (.file content)) := by
  have inside : p ≠ [] := fun root => noDirectory (root ▸ t.entry?_nil)
  have written := t.entry?_put_self (.file content) inside
  refine ⟨rfl, fun q directory => ?_, fun q target => ?_, fun q found => ?_⟩ <;>
    by_cases same : q = p
  · exact absurd (same ▸ directory) noDirectory
  · rwa [entry?_put_of_ne t _ same]
  · rw [same, written]
    exact ⟨fun linked => by simp at linked, fun linked => absurd linked (proper.noLink target)⟩
  · rw [entry?_put_of_ne t _ same]
  · simp [same, written]
  · rwa [entry?_put_of_ne t _ same]

theorem grown_of_write (rooted : t.Rooted) (written : t.write path content = .ok t') :
    Grown t t' := by
  obtain ⟨_, p, -, -, placed, noDirectory, rfl⟩ := write_eq_ok.mp written
  exact (proper_of_placeOf rooted placed).grown_put noDirectory content

theorem rooted_of_write (rooted : t.Rooted) (written : t.write path content = .ok t') :
    t'.Rooted := by
  obtain ⟨_, p, -, -, placed, noDirectory, rfl⟩ := write_eq_ok.mp written
  exact rooted.put (proper_of_placeOf rooted placed).inDirectory noDirectory _

theorem read_eq_ok (placed : t.placeOf path = .ok p)
    (found : t.entry? p = some (.file content)) : t.read path = .ok content := by
  simp [read, find, placed, found, ok_bind, pure_eq_ok]

end Write

end AgentManifest.FileTree
