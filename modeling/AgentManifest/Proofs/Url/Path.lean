import Mathlib.Tactic.IntervalCases
import AgentManifest.Url.Path

/-! Adding segments to a path. Percent-encoding loses nothing where `%` itself is escaped, and what
it writes holds none of the characters it escapes. So a text is kept as one segment that stands for
it unless it is written with dots alone, or with characters that no address keeps. -/

namespace AgentManifest.Url

/-- The UTF-8 form of a text. -/
def utf8 (text : List Char) : List UInt8 := text.flatMap String.utf8EncodeChar

@[simp] theorem utf8_cons (c : Char) (text : List Char) :
    utf8 (c :: text) = String.utf8EncodeChar c ++ utf8 text := List.flatMap_cons

theorem utf8_injective : Function.Injective utf8 := by
  intro a b same
  have bytes : a.utf8Encode = b.utf8Encode := congrArg List.toByteArray same
  exact String.ofList_injective (String.toByteArray_inj.mp bytes)

theorem utf8_eq_nil {text : List Char} : utf8 text = [] ↔ text = [] :=
  ⟨fun empty => utf8_injective empty, fun empty => empty ▸ rfl⟩

theorem hexValue?_upperHexDigit {n : Nat} (bound : n < 16) :
    hexValue? (upperHexDigit n) = some n := by
  interval_cases n <;> rfl

theorem percentDecode_encodeByte (b : UInt8) (rest : List Char) :
    percentDecode (encodeByte b ++ rest) = b :: percentDecode rest := by
  have bound := b.toNat_lt
  rw [encodeByte, List.cons_append, List.cons_append, List.cons_append, List.nil_append,
    percentDecode, hexValue?_upperHexDigit (by omega), hexValue?_upperHexDigit (by omega)]
  simp only [Nat.div_add_mod', UInt8.ofNat_toNat]

theorem percentDecode_encodeBytes (bytes : List UInt8) (rest : List Char) :
    percentDecode (bytes.flatMap encodeByte ++ rest) = bytes ++ percentDecode rest := by
  induction bytes with
  | nil => rfl
  | cons b bytes ih =>
      rw [List.flatMap_cons, List.append_assoc, percentDecode_encodeByte, ih, List.cons_append]

theorem percentDecode_cons {c : Char} (plain : c ≠ '%') (rest : List Char) :
    percentDecode (c :: rest) = String.utf8EncodeChar c ++ percentDecode rest := by
  rw [percentDecode]
  rintro a b behind rfl
  exact absurd rfl plain

/-- What is encoded stands for the text, if `%` is among the characters escaped. -/
theorem percentDecode_percentEncode {escapes : Char → Bool} (escaped : escapes '%')
    (text : List Char) : percentDecode (percentEncode escapes text) = utf8 text := by
  induction text with
  | nil => rfl
  | cons c text ih =>
      rw [percentEncode] at ih ⊢
      rw [List.flatMap_cons, utf8_cons, ← ih]
      split
      next => exact percentDecode_encodeBytes _ _
      next stands =>
        have plain : c ≠ '%' := by rintro rfl; exact stands escaped
        exact percentDecode_cons plain _

/-- Only `%`, digits and characters that are not escaped are written. -/
theorem mem_percentEncode {escapes : Char → Bool} {text : List Char} {c : Char}
    (mem : c ∈ percentEncode escapes text) :
    c = '%' ∨ (∃ n < 16, c = upperHexDigit n) ∨ (c ∈ text ∧ escapes c = false) := by
  obtain ⟨d, given, mem⟩ := List.mem_flatMap.mp mem
  split at mem
  next =>
    obtain ⟨b, -, mem⟩ := List.mem_flatMap.mp mem
    have bound := b.toNat_lt
    simp only [encodeByte, List.mem_cons, List.not_mem_nil, or_false] at mem
    obtain rfl | rfl | rfl := mem
    · exact .inl rfl
    · exact .inr (.inl ⟨_, by omega, rfl⟩)
    · exact .inr (.inl ⟨_, by omega, rfl⟩)
  next stands =>
    obtain rfl := List.mem_singleton.mp mem
    exact .inr (.inr ⟨given, by simpa using stands⟩)

/-- A character that is escaped is not written, unless encoding itself makes use of it. -/
theorem not_mem_percentEncode {escapes : Char → Bool} {text : List Char} {c : Char}
    (escaped : escapes c) (other : c ≠ '%') (digit : ∀ n < 16, c ≠ upperHexDigit n) :
    c ∉ percentEncode escapes text := by
  intro mem
  obtain rfl | ⟨n, bound, rfl⟩ | ⟨-, stands⟩ := mem_percentEncode mem
  · exact other rfl
  · exact digit n bound rfl
  · rw [escaped] at stands
    cases stands

theorem eq_or_of_toLower {c d : Char} (folded : c.toLower = d) :
    c = d ∨ 65 ≤ c.toNat ∧ c.toNat ≤ 90 ∧ c.toNat + 32 = d.toNat := by
  by_cases upper : c.isUpper = true
  · obtain ⟨least, most⟩ := Text.isUpper_iff.mp upper
    exact .inr ⟨least, most, folded ▸ (Text.toNat_toLower_of_isUpper upper).symm⟩
  · rw [Text.toLower_of_not_isUpper upper] at folded
    exact .inl folded

theorem eq_of_toLower {c d : Char} (bound : d.toNat < 97) (folded : c.toLower = d) : c = d := by
  obtain same | ⟨least, -, shifted⟩ := eq_or_of_toLower folded
  · exact same
  · omega

namespace Path

/-- What texts stand for that are a given one up to the case of letters. -/
def Spells (text : List Char) (bytes : List UInt8) : Prop :=
  ∀ segment, Text.foldCase segment = text → percentDecode segment = bytes

theorem spells_nil : Spells [] [] := fun _ empty => List.map_eq_nil_iff.mp empty ▸ rfl

theorem Spells.dot {text : List Char} {bytes : List UInt8} (others : Spells text bytes) :
    Spells ('.' :: text) (46 :: bytes) := by
  intro segment folded
  obtain ⟨c, rest, rfl, first, tail⟩ := List.map_eq_cons_iff.mp folded
  obtain rfl := eq_of_toLower (by decide) first
  rw [percentDecode_cons (by decide), others rest tail]
  rfl

theorem Spells.codedDot {text : List Char} {bytes : List UInt8} (others : Spells text bytes) :
    Spells ('%' :: '2' :: 'e' :: text) (46 :: bytes) := by
  intro segment folded
  obtain ⟨percent, behind, rfl, first, digits⟩ := List.map_eq_cons_iff.mp folded
  obtain ⟨two, behind, rfl, second, digit⟩ := List.map_eq_cons_iff.mp digits
  obtain ⟨letter, rest, rfl, third, tail⟩ := List.map_eq_cons_iff.mp digit
  obtain rfl := eq_of_toLower (by decide) first
  obtain rfl := eq_of_toLower (by decide) second
  have value : hexValue? letter = some 14 := by
    obtain rfl | ⟨-, -, shifted⟩ := eq_or_of_toLower third
    · rfl
    · have capital : letter = 'E' := Char.toNat_inj.mp (Nat.add_right_cancel shifted)
      rw [capital]
      rfl
  rw [percentDecode, value, others rest tail]
  rfl

theorem percentDecode_of_isSingleDot {segment : List Char} (dot : isSingleDot segment) :
    percentDecode segment = utf8 ['.'] := by
  simp only [isSingleDot, List.mem_cons, List.not_mem_nil, or_false, decide_eq_true_eq] at dot
  obtain plain | coded := dot
  · exact spells_nil.dot segment (String.ofList_injective plain)
  · exact spells_nil.codedDot segment (String.ofList_injective coded)

theorem percentDecode_of_isDoubleDot {segment : List Char} (dots : isDoubleDot segment) :
    percentDecode segment = utf8 ['.', '.'] := by
  simp only [isDoubleDot, List.mem_cons, List.not_mem_nil, or_false, decide_eq_true_eq] at dots
  obtain plain | second | first | both := dots
  · exact spells_nil.dot.dot segment (String.ofList_injective plain)
  · exact spells_nil.codedDot.dot segment (String.ofList_injective second)
  · exact spells_nil.dot.codedDot segment (String.ofList_injective first)
  · exact spells_nil.codedDot.codedDot segment (String.ofList_injective both)

theorem percentDecode_segment (text : List Char) :
    percentDecode (percentEncode segmentEscapes text) = utf8 text :=
  percentDecode_percentEncode rfl text

theorem isSingleDot_percentEncode {text : List Char} :
    isSingleDot (percentEncode segmentEscapes text) = true ↔ text = ['.'] := by
  constructor
  · intro dot
    have decoded := percentDecode_of_isSingleDot dot
    rw [percentDecode_segment] at decoded
    exact utf8_injective decoded
  · rintro rfl
    rfl

theorem isDoubleDot_percentEncode {text : List Char} :
    isDoubleDot (percentEncode segmentEscapes text) = true ↔ text = ['.', '.'] := by
  constructor
  · intro dots
    have decoded := percentDecode_of_isDoubleDot dots
    rw [percentDecode_segment] at decoded
    exact utf8_injective decoded
  · rintro rfl
    rfl

/-- Texts that one segment can stand for. -/
structure Carried (text : List Char) : Prop where
  single : text ≠ ['.']
  double : text ≠ ['.', '.']
  kept : ∀ c ∈ text, isDropped c = false

theorem Carried.filter_eq {text : List Char} (carried : Carried text) :
    (text.filter fun c => !isDropped c) = text :=
  List.filter_eq_self.mpr fun c mem => by simp [carried.kept c mem]

/-- Where adding begins: the root path has nothing to be kept in front. -/
def front (p : Path) : List (List Char) := if p = root then [] else p.segments

theorem append_of_carried (p : Path) {text : List Char} (carried : Carried text) :
    p.append text = ⟨p.front ++ [percentEncode segmentEscapes text]⟩ := by
  have ordinary : ¬(text = ['.'] ∨ text = ['.', '.']) := fun dots =>
    dots.elim carried.single carried.double
  rw [append, if_neg ordinary, carried.filter_eq, finish,
    if_neg (mt isDoubleDot_percentEncode.mp carried.double),
    if_neg (mt isSingleDot_percentEncode.mp carried.single)]
  rfl

theorem front_of_mem {p : Path} {word : List Char} (mem : word ∈ p.segments) (filled : word ≠ []) :
    p.front = p.segments := by
  refine if_neg ?_
  rintro rfl
  exact filled (List.mem_singleton.mp mem)

/-- What stands at the end of a path once a text has been added behind a word. -/
def placed (word text : List Char) : List (List Char) :=
  let shown := text.filter fun c => !isDropped c
  if text = ['.'] ∨ text = ['.', '.'] then [word]
  else if shown = ['.', '.'] then [[]]
  else if shown = ['.'] then [word, []]
  else [word, percentEncode segmentEscapes shown]

theorem segments_append {before : List (List Char)} {word : List Char} (filled : word ≠ [])
    (stays : isDrive word = false) (text : List Char) :
    (append ⟨before ++ [word]⟩ text).segments = before ++ placed word text := by
  have whole : front ⟨before ++ [word]⟩ = before ++ [word] :=
    front_of_mem (List.mem_append_right _ List.mem_cons_self) filled
  rw [front] at whole
  have shortened : shorten (before ++ [word]) = before := by
    simp [shorten, stays]
  rw [append, placed]
  split
  next => rfl
  next =>
    rw [whole, finish]
    simp only [isDoubleDot_percentEncode, isSingleDot_percentEncode, shortened]
    split
    · rfl
    · split
      · simp
      · simp

theorem length_placed_le (word text : List Char) : (placed word text).length ≤ 2 := by
  rw [placed]
  split_ifs <;> simp

/-- A text stands as a segment of its own, behind the word, just when it is one that can. -/
theorem placed_stands_iff {word text : List Char} (plain : percentDecode word = utf8 word) :
    (placed word text).map percentDecode = [utf8 word, utf8 text] ↔ Carried text := by
  constructor
  · intro stands
    rw [placed] at stands
    split at stands
    next => simp at stands
    next ordinary =>
      rw [not_or] at ordinary
      split at stands
      next => simp at stands
      next =>
        split at stands
        next dot =>
          have nothing : [] = utf8 text := (List.cons.inj (List.cons.inj stands).2).1
          rw [utf8_eq_nil.mp nothing.symm] at dot
          cases dot
        next =>
          have same : utf8 (text.filter fun c => !isDropped c) = utf8 text := by
            rw [← percentDecode_segment]
            exact (List.cons.inj (List.cons.inj stands).2).1
          have kept := List.filter_eq_self.mp (utf8_injective same)
          exact ⟨ordinary.1, ordinary.2, fun c mem => by simpa using kept c mem⟩
  · intro carried
    have ordinary : ¬(text = ['.'] ∨ text = ['.', '.']) := fun dots =>
      dots.elim carried.single carried.double
    simp only [placed, carried.filter_eq, if_neg ordinary, if_neg carried.single,
      if_neg carried.double, List.map_cons, List.map_nil, plain, percentDecode_segment]

end Path
end AgentManifest.Url
