import Mathlib.Data.Nat.Init
import Mathlib.Order.Basic
import AgentManifest.Document.Reader
import AgentManifest.Proofs.Text.LongestText

/-! Where documents are faulty. Each byte moves the place on, so that different offsets have
different places; the line is one more than the line feeds in front, and the column counts the bytes
from the start of the line. A place therefore tells its offset. A document that is no text is
refused where the longest text that it begins with ends. -/

namespace AgentManifest

namespace Position

variable {p q : Position} {bytes : List UInt8} {i j offset line start other : Nat}

/-- A place comes before the places further on in its line and those on later lines. -/
instance : LT Position := ⟨fun p q => p.line < q.line ∨ p.line = q.line ∧ p.column < q.column⟩

theorem lt_iff : p < q ↔ p.line < q.line ∨ p.line = q.line ∧ p.column < q.column := Iff.rfl

theorem lt_trans {r : Position} (first : p < q) (second : q < r) : p < r := by
  rw [lt_iff] at *
  omega

theorem lt_irrefl (p : Position) : ¬p < p := by
  rw [lt_iff]
  omega

theorem count_take_succ (inside : offset < bytes.length) :
    (bytes.take (offset + 1)).count 10 =
      (bytes.take offset).count 10 + if bytes[offset] = 10 then 1 else 0 := by
  rw [← List.take_append_getElem inside, List.count_append, List.count_singleton]
  simp only [beq_iff_eq]

/-- A byte that follows is the last one of its sort. -/
theorem lastIndexOf?_concat (b last : UInt8) (bytes : List UInt8) :
    lastIndexOf? b (bytes ++ [last]) =
      if last = b then some bytes.length else lastIndexOf? b bytes := by
  rw [lastIndexOf?, List.reverse_append, List.reverse_singleton, List.singleton_append,
    List.idxOf?_cons, List.length_append, List.length_singleton, Nat.add_sub_cancel]
  simp only [beq_iff_eq]
  split
  · rfl
  · rw [lastIndexOf?, Option.map_map]
    congr 1
    funext behind
    simp only [Function.comp_apply]
    omega

theorem le_of_lastIndexOf? {b : UInt8} {last : Nat} (found : lastIndexOf? b bytes = some last) :
    last ≤ bytes.length := by
  obtain ⟨behind, -, rfl⟩ := Option.map_eq_some_iff.mp found
  omega

/-- What one byte does to the place. -/
theorem ofOffset_succ (inside : offset < bytes.length) : ofOffset bytes (offset + 1) =
    if bytes[offset] = 10 then ⟨(ofOffset bytes offset).line + 1, 1⟩
    else ⟨(ofOffset bytes offset).line, (ofOffset bytes offset).column + 1⟩ := by
  have length : (bytes.take offset).length = offset := List.length_take_of_le (Nat.le_of_lt inside)
  rw [ofOffset, ofOffset, count_take_succ inside, ← List.take_append_getElem inside,
    lastIndexOf?_concat, length]
  split
  · simp only [Nat.add_sub_cancel_left]
  · cases found : lastIndexOf? 10 (bytes.take offset) with
    | none => rfl
    | some lineFeed =>
        have before := le_of_lastIndexOf? found
        simp only [Nat.add_zero, Position.mk.injEq, true_and]
        omega

theorem ofOffset_lt_succ (inside : offset < bytes.length) :
    ofOffset bytes offset < ofOffset bytes (offset + 1) := by
  rw [ofOffset_succ inside, lt_iff]
  split
  · exact .inl (Nat.lt_succ_self _)
  · exact .inr ⟨rfl, Nat.lt_succ_self _⟩

theorem ofOffset_lt (less : i < j) (inside : j ≤ bytes.length) :
    ofOffset bytes i < ofOffset bytes j := by
  induction j, less using Nat.le_induction with
  | base => exact ofOffset_lt_succ inside
  | succ j _ ih => exact lt_trans (ih (Nat.le_of_succ_le inside)) (ofOffset_lt_succ inside)

theorem ofOffset_lt_iff (first : i ≤ bytes.length) (second : j ≤ bytes.length) :
    ofOffset bytes i < ofOffset bytes j ↔ i < j := by
  refine ⟨fun less => Nat.lt_of_not_le fun back => ?_, fun less => ofOffset_lt less second⟩
  obtain same | back := Nat.eq_or_lt_of_le back
  · exact lt_irrefl _ (same ▸ less)
  · exact lt_irrefl _ (lt_trans less (ofOffset_lt back first))

/-- A line starts at an offset: behind as many line feeds as there are lines before it, with the
last of them right in front. -/
structure LineStart (bytes : List UInt8) (line start : Nat) : Prop where
  inside : start ≤ bytes.length
  before : (bytes.take start).count 10 + 1 = line
  behind : start = 0 ∨ bytes[start - 1]? = some 10

/-- Between the start of a line and a later start there is a line feed. -/
theorem LineStart.lt_line (early : start < other) (begun : LineStart bytes line other) :
    (bytes.take start).count 10 + 1 < line := by
  obtain ⟨before, rfl⟩ := Nat.exists_eq_succ_of_ne_zero (Nat.ne_zero_of_lt early)
  have inside : before < bytes.length := begun.inside
  have lineFeed : bytes[before] = 10 := by
    simpa [inside] using begun.behind
  have grows : (bytes.take start).count 10 ≤ (bytes.take before).count 10 :=
    (List.take_sublist_take_left (Nat.le_of_lt_succ early)).count_le 10
  have counted := begun.before
  rw [count_take_succ inside, if_pos lineFeed] at counted
  omega

theorem LineStart.unique (begun : LineStart bytes line start)
    (begun' : LineStart bytes line other) : start = other := by
  rcases Nat.lt_trichotomy start other with early | same | late
  · exact absurd (begun'.lt_line early) (by simp [begun.before])
  · exact same
  · exact absurd (begun.lt_line late) (by simp [begun'.before])

/-- The column counts the bytes of the line up to the offset. -/
theorem exists_lineStart (inside : offset ≤ bytes.length) : ∃ start,
    LineStart bytes (ofOffset bytes offset).line start ∧ 1 ≤ (ofOffset bytes offset).column ∧
      start + (ofOffset bytes offset).column = offset + 1 := by
  induction offset with
  | zero => exact ⟨0, ⟨Nat.zero_le _, rfl, .inl rfl⟩, Nat.le_refl 1, rfl⟩
  | succ offset ih =>
      by_cases lineFeed : bytes[offset] = 10
      · -- The byte ends its line, and the next line starts behind it.
        refine ⟨offset + 1, ⟨inside, rfl, .inr ?_⟩, ?_⟩
        · rw [Nat.add_sub_cancel, List.getElem?_eq_getElem inside, lineFeed]
        · rw [ofOffset_succ inside, if_pos lineFeed]
          exact ⟨Nat.le_refl 1, rfl⟩
      · obtain ⟨start, begun, -, column⟩ := ih (Nat.le_of_succ_le inside)
        rw [ofOffset_succ inside, if_neg lineFeed]
        exact ⟨start, begun, Nat.le_add_left .., congrArg (· + 1) column⟩

/-- What a place says of the offset it belongs to. -/
structure Marks (p : Position) (bytes : List UInt8) (offset : Nat) : Prop where
  firstLine : 1 ≤ p.line
  lastLine : p.line ≤ bytes.count 10 + 1
  firstColumn : 1 ≤ p.column
  /-- The line starts somewhere, and nowhere else; the columns count from there. -/
  fromStart : ∃ start, (∀ other, LineStart bytes p.line other ↔ other = start) ∧
    offset = start + p.column - 1

theorem marks_ofOffset (inside : offset ≤ bytes.length) :
    (ofOffset bytes offset).Marks bytes offset := by
  obtain ⟨start, begun, column, told⟩ := exists_lineStart inside
  refine ⟨?_, ?_, column, start, fun other => ⟨fun begun' => begun'.unique begun, ?_⟩, ?_⟩
  · exact Nat.le_add_left ..
  · exact Nat.succ_le_succ ((List.take_sublist offset bytes).count_le 10)
  · rintro rfl
    exact begun
  · omega

end Position

namespace Document

theorem read_of_not_isText (filename : String) {bytes : List UInt8}
    (noText : ¬Utf8.IsText bytes) : ∃ n badLength, Utf8.LongestText bytes n ∧
      read filename bytes = .error ⟨filename, .ofPath filename,
        some (Position.ofOffset bytes n).line, some (Position.ofOffset bytes n).column,
        s!"invalid UTF-8: {Utf8.Fault.message ⟨n, badLength⟩}"⟩ := by
  cases decoded : Utf8.decode bytes with
  | ok text => exact absurd (Utf8.isText_iff_decode.mpr ⟨text, decoded⟩) noText
  | error fault =>
      refine ⟨fault.validUpTo, fault.badLength, Utf8.longestText_of_decode decoded, ?_⟩
      rw [read, readBytes, decoded]
      rfl

/-- Every offset has a line and a column, counted from one, by which it is known: no two offsets
have the same ones, and those further on come later. A document that is no text is refused, whatever
its format, at the end of the longest text that it begins with. -/
theorem places_tell_offsets :
    (∀ (bytes : List UInt8) (offset : Nat), offset ≤ bytes.length →
      (Position.ofOffset bytes offset).Marks bytes offset) ∧
    (∀ (bytes : List UInt8) (i j : Nat), i ≤ bytes.length → j ≤ bytes.length →
      (Position.ofOffset bytes i < Position.ofOffset bytes j ↔ i < j)) ∧
    ∀ (filename : String) (bytes : List UInt8), ¬Utf8.IsText bytes → ∃ n badLength,
      Utf8.LongestText bytes n ∧
      read filename bytes = .error ⟨filename, .ofPath filename,
        some (Position.ofOffset bytes n).line, some (Position.ofOffset bytes n).column,
        s!"invalid UTF-8: {Utf8.Fault.message ⟨n, badLength⟩}"⟩ :=
  ⟨fun _ _ => Position.marks_ofOffset, fun _ _ _ => Position.ofOffset_lt_iff,
    fun filename _ => read_of_not_isText filename⟩

/-- A character of two bytes, a line feed and a letter, and then a character that breaks off at the
next line feed. -/
def brokenOff : List UInt8 := [0xC3, 0xA9, 10, 97, 0xF0, 0x9F, 0x92, 10]

theorem not_isText_brokenOff : ¬Utf8.IsText brokenOff := by
  rw [Utf8.isText_iff_decode]
  rintro ⟨text, read⟩
  cases read

theorem places_tell_offsets_brokenOff :
    ¬Utf8.IsText brokenOff ∧
    read "a.yaml" brokenOff = .error ⟨"a.yaml", .yaml, some 2, some 2,
      "invalid UTF-8: invalid utf-8 sequence of 3 bytes from index 4"⟩ ∧
    (∃ n badLength, Utf8.LongestText brokenOff n ∧
      read "a.yaml" brokenOff = .error ⟨"a.yaml", .ofPath "a.yaml",
        some (Position.ofOffset brokenOff n).line, some (Position.ofOffset brokenOff n).column,
        s!"invalid UTF-8: {Utf8.Fault.message ⟨n, badLength⟩}"⟩) ∧
    brokenOff.length = 8 ∧ Position.ofOffset brokenOff 8 = ⟨3, 1⟩ ∧
    (⟨3, 1⟩ : Position).Marks brokenOff 8 ∧ (⟨2, 2⟩ : Position) < ⟨3, 1⟩ := by
  obtain ⟨marks, less, refused⟩ := places_tell_offsets
  exact ⟨not_isText_brokenOff, rfl, refused "a.yaml" brokenOff not_isText_brokenOff,
    rfl, rfl, marks brokenOff 8 (by decide), (less brokenOff 4 8 (by decide) (by decide)).mpr
      (by decide)⟩

end Document
end AgentManifest
