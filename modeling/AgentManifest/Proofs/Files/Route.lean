import AgentManifest.Files.Route
import AgentManifest.Proofs.Outcome

/-! Routes of joined paths: a file in a directory is reached by the names that lead to the directory
and its own name behind them. -/

namespace AgentManifest

variable {path root name : String} {route : Route}

/-- A text that names a file in whatever directory. -/
structure FileName (name : String) : Prop where
  nonempty : name ≠ ""
  noSlash : '/' ∉ name.toList
  noDot : name ≠ "."
  noDots : name ≠ ".."

namespace Route

/-- The texts between the slashes of a path. -/
def pieces (chars : List Char) : List (List Char) := (Text.splitAt '/' chars).filter (· ≠ [])

theorem ofText_eq_ok : ofText path = .ok route ↔ '\x00' ∉ path.toList ∧
    path.utf8ByteSize ≤ pathLimit ∧ (pieces path.toList ≠ [] ∨ path.toList.head? = some '/') ∧
      route = ⟨path.toList.head? = some '/', (pieces path.toList).map String.ofList,
        path.toList.getLast? = some '/'⟩ := by
  rw [ofText]
  by_cases nul : '\x00' ∈ path.toList
  · simp [nul]
  · by_cases long : pathLimit < path.utf8ByteSize
    · simp [nul, long, Nat.not_le.mpr long]
    · have short : path.utf8ByteSize ≤ pathLimit := Nat.not_lt.mp long
      have noNul : path.toList.contains '\x00' = false := by simpa using nul
      simp only [noNul, Bool.false_eq_true, if_false, gt_iff_lt, long, ← pieces.eq_1]
      by_cases leads : pieces path.toList ≠ [] ∨ path.toList.head? = some '/'
      · have named : ((pieces path.toList).isEmpty &&
            !decide (path.toList.head? = some '/')) = false := by
          rcases leads with leads | leads <;> simp [leads]
        simp only [named, Bool.false_eq_true, if_false, Except.ok.injEq]
        exact ⟨fun same => ⟨nul, short, leads, same.symm⟩, fun ⟨_, _, _, same⟩ => same.symm⟩
      · simp only [not_or, Classical.not_not] at leads
        simp [leads]

theorem absolute_of_names (read : ofText path = .ok route) (none : route.names = []) :
    route.absolute = true := by
  obtain ⟨-, -, leads, rfl⟩ := ofText_eq_ok.mp read
  have empty : pieces path.toList = [] := List.map_eq_nil_iff.mp none
  simpa [empty] using leads

theorem pieces_of_fileName (file : FileName name) : pieces name.toList = [name.toList] := by
  have nonempty : name.toList ≠ [] := fun none => file.nonempty (String.toList_eq_nil_iff.mp none)
  simp [pieces, Text.splitAt_of_not_mem file.noSlash, nonempty]

theorem ofText_fileName (file : FileName name) (read : ofText name = .ok route) :
    route = ⟨false, [name], false⟩ := by
  obtain ⟨-, -, -, rfl⟩ := ofText_eq_ok.mp read
  have first : name.toList.head? ≠ some '/' := fun slash => file.noSlash (List.mem_of_head? slash)
  have last : name.toList.getLast? ≠ some '/' :=
    fun slash => file.noSlash (List.mem_of_getLast? slash)
  simp [first, last, pieces_of_fileName file]

theorem join_of_fileName (file : FileName name) (root : String) :
    FilePath.join root name =
      if root.toList = [] || root.toList.getLast? = some '/' then
        String.ofList (root.toList ++ name.toList)
      else String.ofList (root.toList ++ '/' :: name.toList) := by
  rw [FilePath.join]
  split
  next rest starts => exact absurd (starts ▸ List.mem_cons_self) file.noSlash
  next => rfl

theorem join_inj {other : String} (file : FileName name) (file' : FileName other)
    (same : FilePath.join root name = FilePath.join root other) : name = other := by
  rw [join_of_fileName file, join_of_fileName file'] at same
  refine String.toList_injective ?_
  split at same
  · exact List.append_cancel_left (String.ofList_injective same)
  · exact List.tail_eq_of_cons_eq (List.append_cancel_left (String.ofList_injective same))

theorem join_empty (file : FileName name) : FilePath.join "" name = name := by
  simp [join_of_fileName file]

/-- Behind a directory there is one slash, written there already or not. -/
theorem toList_join (file : FileName name) (given : root ≠ "") : ∃ before,
    (root.toList = before ∨ root.toList = before ++ ['/']) ∧
      (FilePath.join root name).toList = before ++ '/' :: name.toList := by
  have nonempty : root.toList ≠ [] := fun none => given (String.toList_eq_nil_iff.mp none)
  rw [join_of_fileName file]
  cases ends : decide (root.toList.getLast? = some '/') with
  | true =>
      obtain ⟨before, same⟩ := List.getLast?_eq_some_iff.mp (of_decide_eq_true ends)
      refine ⟨before, .inr same, ?_⟩
      simp [same]
  | false =>
      refine ⟨root.toList, .inl rfl, ?_⟩
      simp [nonempty]

theorem pieces_above {before : List Char} (file : FileName name) :
    pieces (before ++ '/' :: name.toList) = pieces before ++ [name.toList] := by
  rw [pieces, Text.splitAt_append, List.filter_append]
  exact congrArg (pieces before ++ ·) (pieces_of_fileName file)

theorem pieces_directory {before : List Char}
    (ends : root.toList = before ∨ root.toList = before ++ ['/']) :
    pieces root.toList = pieces before := by
  rcases ends with same | same
  · rw [same]
  · rw [same, pieces, Text.splitAt_append, List.filter_append]
    simp [pieces, Text.splitAt]

theorem pieces_or_absolute {chars : List Char} (nonempty : chars ≠ []) :
    pieces chars ≠ [] ∨ chars.head? = some '/' := by
  cases chars with
  | nil => exact absurd rfl nonempty
  | cons c rest =>
      by_cases slash : c = '/'
      · exact .inr (by simp [slash])
      · refine .inl ?_
        rw [pieces, Text.splitAt, if_neg slash]
        split <;> simp

theorem ofText_of_prefix {behind : String} (given : root ≠ "")
    (read : ofText (root ++ behind) = .ok route) : ofText root = .ok
      ⟨route.absolute, (pieces root.toList).map String.ofList,
        root.toList.getLast? = some '/'⟩ := by
  obtain ⟨noNul, short, -, rfl⟩ := ofText_eq_ok.mp read
  have nonempty : root.toList ≠ [] := fun none => given (String.toList_eq_nil_iff.mp none)
  rw [String.toList_append] at noNul
  rw [String.utf8ByteSize_append] at short
  refine ofText_eq_ok.mpr ⟨fun nul => noNul (List.mem_append_left _ nul), by omega,
    pieces_or_absolute nonempty, ?_⟩
  obtain ⟨c, rest, letters⟩ := List.exists_cons_of_ne_nil nonempty
  simp [letters]

theorem join_extends (file : FileName name) (root : String) :
    ∃ behind, FilePath.join root name = root ++ behind := by
  rw [join_of_fileName file]
  split
  · exact ⟨name, by simp⟩
  · exact ⟨String.ofList ('/' :: name.toList), by simp⟩

/-- The route of a file in a directory goes on from the route of the directory. -/
theorem ofText_join (file : FileName name) (given : root ≠ "")
    (read : ofText (FilePath.join root name) = .ok route) : ∃ above, ofText root = .ok above ∧
      route = ⟨above.absolute, above.names ++ [name], false⟩ := by
  obtain ⟨behind, extended⟩ := join_extends file root
  obtain ⟨before, ends, joined⟩ := toList_join file given
  refine ⟨_, ofText_of_prefix given (extended ▸ read), ?_⟩
  obtain ⟨-, -, -, rfl⟩ := ofText_eq_ok.mp read
  have toFile : ('/' :: name.toList).getLast? ≠ some '/' := by
    cases letters : name.toList with
    | nil => exact absurd (String.toList_eq_nil_iff.mp letters) file.nonempty
    | cons c rest =>
        rw [List.getLast?_cons_cons, ← letters]
        exact fun slash => file.noSlash (List.mem_of_getLast? slash)
  simp [joined, pieces_above file, pieces_directory ends, toFile]

end Route
end AgentManifest
