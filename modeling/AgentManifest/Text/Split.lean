/-! Splitting a text at every occurrence of a character and joining it again. Main statements:
joining what was split gives the text back, and splitting what was joined gives the pieces back when
none of them holds the character. -/

namespace AgentManifest.Text

/-- The pieces between the occurrences of a separator; there is always at least one. -/
def splitAt (separator : Char) : List Char → List (List Char)
  | [] => [[]]
  | c :: rest =>
    if c = separator then [] :: splitAt separator rest
    else match splitAt separator rest with
      | [] => [[c]]
      | piece :: pieces => (c :: piece) :: pieces

def joinWith (separator : Char) : List (List Char) → List Char
  | [] => []
  | [piece] => piece
  | piece :: next :: pieces => piece ++ separator :: joinWith separator (next :: pieces)

theorem splitAt_ne_nil (separator : Char) (text : List Char) : splitAt separator text ≠ [] := by
  cases text with
  | nil => simp [splitAt]
  | cons c rest =>
    simp only [splitAt]
    split
    · simp
    · split <;> simp

theorem joinWith_splitAt (separator : Char) (text : List Char) :
    joinWith separator (splitAt separator text) = text := by
  induction text with
  | nil => rfl
  | cons c rest ih =>
    have nonempty := splitAt_ne_nil separator rest
    simp only [splitAt]
    match h : splitAt separator rest with
    | [] => exact absurd h nonempty
    | piece :: pieces =>
      rw [h] at ih
      by_cases same : c = separator
      · simp [same, joinWith, ih]
      · cases pieces with
        | nil => simpa [same, joinWith] using ih
        | cons next pieces => simpa [same, joinWith] using ih

theorem not_mem_of_mem_splitAt {separator : Char} {text piece : List Char}
    (mem : piece ∈ splitAt separator text) : separator ∉ piece := by
  induction text generalizing piece with
  | nil =>
    rw [splitAt, List.mem_singleton] at mem
    simp [mem]
  | cons c rest ih =>
    rw [splitAt] at mem
    split at mem
    next =>
      rcases List.mem_cons.mp mem with rfl | mem
      · simp
      · exact ih mem
    next other =>
      cases h : splitAt separator rest with
      | nil => exact absurd h (splitAt_ne_nil separator rest)
      | cons first pieces =>
        rw [h] at ih mem
        rcases List.mem_cons.mp mem with rfl | mem
        · have := ih List.mem_cons_self
          simp [Ne.symm other, this]
        · exact ih (List.mem_cons_of_mem _ mem)

theorem splitAt_of_not_mem {separator : Char} {piece : List Char} (whole : separator ∉ piece) :
    splitAt separator piece = [piece] := by
  induction piece with
  | nil => rfl
  | cons c rest ih =>
    rw [List.mem_cons, not_or] at whole
    rw [splitAt, if_neg (Ne.symm whole.1), ih whole.2]

theorem splitAt_append (separator : Char) (before behind : List Char) :
    splitAt separator (before ++ separator :: behind) =
      splitAt separator before ++ splitAt separator behind := by
  induction before with
  | nil => simp [splitAt]
  | cons c rest ih =>
    rw [List.cons_append, splitAt, splitAt, ih]
    split
    next => rfl
    next =>
      cases h : splitAt separator rest with
      | nil => exact absurd h (splitAt_ne_nil separator rest)
      | cons first pieces => rfl

theorem splitAt_joinWith {separator : Char} {pieces : List (List Char)} (some_piece : pieces ≠ [])
    (whole : ∀ piece ∈ pieces, separator ∉ piece) :
    splitAt separator (joinWith separator pieces) = pieces := by
  induction pieces with
  | nil => exact absurd rfl some_piece
  | cons piece rest ih =>
    cases rest with
    | nil => exact splitAt_of_not_mem (whole piece List.mem_cons_self)
    | cons next rest =>
      have others := ih (List.cons_ne_nil _ _) fun p mem => whole p (List.mem_cons_of_mem _ mem)
      rw [joinWith, splitAt_append, others, splitAt_of_not_mem (whole piece List.mem_cons_self),
        List.singleton_append]

theorem joinWith_append {separator : Char} {before behind : List (List Char)}
    (some_before : before ≠ []) (some_behind : behind ≠ []) :
    joinWith separator (before ++ behind) =
      joinWith separator before ++ separator :: joinWith separator behind := by
  induction before with
  | nil => exact absurd rfl some_before
  | cons piece rest ih =>
      cases rest with
      | nil =>
          obtain ⟨next, pieces, rfl⟩ := List.exists_cons_of_ne_nil some_behind
          rfl
      | cons next rest =>
          have whole := ih (List.cons_ne_nil _ _)
          rw [List.cons_append, List.cons_append, joinWith, ← List.cons_append, whole, joinWith,
            List.append_assoc, List.cons_append]

theorem mem_joinWith {separator c : Char} {pieces : List (List Char)}
    (mem : c ∈ joinWith separator pieces) : c = separator ∨ ∃ piece ∈ pieces, c ∈ piece := by
  induction pieces with
  | nil => simp [joinWith] at mem
  | cons piece rest ih =>
    cases rest with
    | nil => exact .inr ⟨piece, List.mem_cons_self, mem⟩
    | cons next rest =>
      rw [joinWith, List.mem_append, List.mem_cons] at mem
      rcases mem with mem | rfl | mem
      · exact .inr ⟨piece, List.mem_cons_self, mem⟩
      · exact .inl rfl
      · rcases ih mem with same | ⟨p, listed, mem⟩
        · exact .inl same
        · exact .inr ⟨p, List.mem_cons_of_mem _ listed, mem⟩

end AgentManifest.Text
