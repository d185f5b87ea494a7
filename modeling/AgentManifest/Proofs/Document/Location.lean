import AgentManifest.Document.Reader

/-! Sentences and the places they end in. A place is dropped whatever stands before it, were it
another place or a word that a place begins with, and a sentence that ends in none stays as it
is. -/

namespace AgentManifest.Document

/-- Words that say where something is. -/
inductive IsPlace : List (List Char) → Prop
  | lineColumn {l c : List Char} : isNumeric l = true → isNumeric c = true →
      IsPlace [['a', 't'], ['l', 'i', 'n', 'e'], l, ['c', 'o', 'l', 'u', 'm', 'n'], c]
  | position {p : List Char} : isNumeric p = true →
      IsPlace [['a', 't'], ['p', 'o', 's', 'i', 't', 'i', 'o', 'n'], p]

variable {words before place : List (List Char)} {sentence tail : String}

theorem IsPlace.ne_nil (is : IsPlace place) : place ≠ [] := by
  cases is <;> exact List.cons_ne_nil _ _

theorem not_mem_of_isNumeric {word : List Char} {c : Char} (numeric : isNumeric word = true)
    (other : c.isDigit = false) : c ∉ word := by
  intro inside
  rw [isNumeric, Bool.and_eq_true, List.all_eq_true] at numeric
  exact absurd (numeric.2 c inside) (by simp [other])

/-- No character but letters and digits is in a word of a place. -/
theorem IsPlace.not_mem {c : Char} {word : List Char} (is : IsPlace place)
    (other : c.isAlphanum = false) (inside : word ∈ place) : c ∉ word := by
  have noDigit : c.isDigit = false := by
    simp only [Char.isAlphanum, Bool.or_eq_false_iff] at other
    exact other.2
  have letters : ∀ text : List Char, text.all Char.isAlphanum = true → c ∉ text :=
    fun text all mem => absurd (List.all_eq_true.mp all c mem) (by simp [other])
  cases is with
  | lineColumn line column =>
      simp only [List.mem_cons, List.not_mem_nil, or_false] at inside
      rcases inside with rfl | rfl | rfl | rfl | rfl
      · exact letters _ (by decide)
      · exact letters _ (by decide)
      · exact not_mem_of_isNumeric line noDigit
      · exact letters _ (by decide)
      · exact not_mem_of_isNumeric column noDigit
  | position numeric =>
      simp only [List.mem_cons, List.not_mem_nil, or_false] at inside
      rcases inside with rfl | rfl | rfl
      · exact letters _ (by decide)
      · exact letters _ (by decide)
      · exact not_mem_of_isNumeric numeric noDigit

/-- The words in front of a place are found exactly if there is a place with a word in front. -/
theorem beforeLocation?_eq_some : beforeLocation? words = some before ↔
    before ≠ [] ∧ ∃ place, IsPlace place ∧ words = place.reverse ++ before := by
  constructor
  · intro found
    unfold beforeLocation? at found
    split at found
    next c l w rest =>
      split at found
      next numeric =>
        cases found
        rw [Bool.and_eq_true] at numeric
        exact ⟨List.cons_ne_nil _ _, _, .lineColumn numeric.1 numeric.2, rfl⟩
      next => cases found
    next p w rest =>
      split at found
      next numeric =>
        cases found
        exact ⟨List.cons_ne_nil _ _, _, .position numeric, rfl⟩
      next => cases found
    next => cases found
  · rintro ⟨some_before, place, is, rfl⟩
    obtain ⟨w, rest, rfl⟩ := List.exists_cons_of_ne_nil some_before
    cases is with
    | lineColumn line column => simp [beforeLocation?, line, column]
    | position numeric => simp [beforeLocation?, numeric]

/-- Digits, and at least one. -/
def Digits (text : String) : Prop := text ≠ "" ∧ ∀ c ∈ text.toList, '0' ≤ c ∧ c ≤ '9'

/-- How sentences end that say where something is. -/
inductive PlaceTail : String → Prop
  | lineColumn {line column : String} : Digits line → Digits column →
      PlaceTail s!" at line {line} column {column}"
  | position {n : String} : Digits n → PlaceTail s!" at position {n}"

theorem isNumeric_toList {text : String} : isNumeric text.toList = true ↔ Digits text := by
  simp only [isNumeric, Char.isDigit, Bool.and_eq_true, decide_eq_true_eq, List.all_eq_true, Digits,
    ne_eq, String.toList_eq_nil_iff]
  rfl

theorem digits_ofList {word : List Char} (numeric : isNumeric word = true) :
    Digits (String.ofList word) :=
  isNumeric_toList.mp (by rwa [String.toList_ofList])

theorem digits_nat (n : Nat) : Digits (toString n) := by
  have numeral : (toString n).toList = Nat.toDigits 10 n := Nat.toList_repr
  refine isNumeric_toList.mp ?_
  rw [numeral, isNumeric, Bool.and_eq_true, decide_eq_true_iff, List.all_eq_true]
  exact ⟨Nat.toDigits_ne_nil, fun c inside =>
    Nat.isDigit_of_mem_toDigits (by decide) (by decide) inside⟩

/-- A tail is a blank and the words of a place, with blanks between them. -/
theorem placeTail_iff :
    PlaceTail tail ↔ ∃ place, IsPlace place ∧ tail.toList = ' ' :: Text.joinWith ' ' place := by
  constructor
  · intro ends
    cases ends with
    | lineColumn line column =>
        exact ⟨_, .lineColumn (isNumeric_toList.mpr line) (isNumeric_toList.mpr column),
          by simp [Text.joinWith, toString]⟩
    | position numeric =>
        exact ⟨_, .position (isNumeric_toList.mpr numeric), by simp [Text.joinWith, toString]⟩
  · rintro ⟨place, is, chars⟩
    cases is with
    | @lineColumn l c line column =>
        have same : tail = s!" at line {String.ofList l} column {String.ofList c}" :=
          String.toList_inj.mp (by simp [chars, Text.joinWith, toString])
        exact same ▸ .lineColumn (digits_ofList line) (digits_ofList column)
    | @position p numeric =>
        have same : tail = s!" at position {String.ofList p}" :=
          String.toList_inj.mp (by simp [chars, Text.joinWith, toString])
        exact same ▸ .position (digits_ofList numeric)

theorem withoutLocation_append (sentence : String) (ends : PlaceTail tail) :
    withoutLocation (sentence ++ tail) = sentence := by
  obtain ⟨place, is, chars⟩ := placeTail_iff.mp ends
  have words : Text.splitAt ' ' (sentence ++ tail).toList =
      Text.splitAt ' ' sentence.toList ++ place := by
    rw [String.toList_append, chars, Text.splitAt_append,
      Text.splitAt_joinWith is.ne_nil fun word inside => is.not_mem (by decide) inside]
  have found : beforeLocation? (Text.splitAt ' ' (sentence ++ tail).toList).reverse =
      some (Text.splitAt ' ' sentence.toList).reverse := by
    rw [words, List.reverse_append]
    refine beforeLocation?_eq_some.mpr ⟨?_, place, is, rfl⟩
    exact List.reverse_ne_nil_iff.mpr (Text.splitAt_ne_nil _ _)
  rw [withoutLocation, found]
  dsimp only
  rw [List.reverse_reverse, Text.joinWith_splitAt, String.ofList_toList]

/-- What is dropped is a tail. -/
theorem withoutLocation_cases (sentence : String) : withoutLocation sentence = sentence ∨
    ∃ tail, PlaceTail tail ∧ sentence = withoutLocation sentence ++ tail := by
  cases found : beforeLocation? (Text.splitAt ' ' sentence.toList).reverse with
  | none => exact .inl (by rw [withoutLocation, found])
  | some before =>
      obtain ⟨some_before, place, is, reversed⟩ := beforeLocation?_eq_some.mp found
      have words : Text.splitAt ' ' sentence.toList = before.reverse ++ place := by
        rw [← List.reverse_inj, reversed, List.reverse_append, List.reverse_reverse]
      have chars : sentence.toList =
          Text.joinWith ' ' before.reverse ++ ' ' :: Text.joinWith ' ' place := by
        rw [← Text.joinWith_append (List.reverse_ne_nil_iff.mpr some_before) is.ne_nil, ← words,
          Text.joinWith_splitAt]
      refine .inr ⟨String.ofList (' ' :: Text.joinWith ' ' place),
        placeTail_iff.mpr ⟨place, is, String.toList_ofList⟩, String.toList_inj.mp ?_⟩
      rw [withoutLocation, found, String.toList_append, String.toList_ofList, String.toList_ofList,
        chars]

theorem withoutLocation_eq_self_iff : withoutLocation sentence = sentence ↔
    ∀ lead tail : String, PlaceTail tail → sentence ≠ lead ++ tail := by
  constructor
  · intro whole lead tail ends same
    obtain ⟨place, -, chars⟩ := placeTail_iff.mp ends
    have dropped := withoutLocation_append lead ends
    rw [← same, whole, same] at dropped
    have shown := congrArg String.toList dropped
    simp [chars] at shown
  · intro none
    rcases withoutLocation_cases sentence with whole | ⟨tail, ends, same⟩
    · exact whole
    · exact absurd same (none _ tail ends)

/-- One place is dropped from the end of a sentence, whatever the sentence is before it, and nothing
from a sentence that ends in none. -/
theorem withoutLocation_drops_one_place :
    (∀ sentence line column : String, Digits line → Digits column →
      withoutLocation (sentence ++ s!" at line {line} column {column}") = sentence) ∧
    (∀ sentence n : String, Digits n →
      withoutLocation (sentence ++ s!" at position {n}") = sentence) ∧
    ∀ sentence : String, (∀ lead tail, PlaceTail tail → sentence ≠ lead ++ tail) →
      withoutLocation sentence = sentence :=
  ⟨fun sentence _ _ line column => withoutLocation_append sentence (.lineColumn line column),
    fun sentence _ numeric => withoutLocation_append sentence (.position numeric),
    fun _ none => withoutLocation_eq_self_iff.mpr none⟩

/-- Places one behind another, with the word between them that a place begins with, and at last one
without a blank in front, which is no tail. -/
theorem withoutLocation_drops_one_place_overlapping :
    (Digits "3" ∧ Digits "014" ∧ Digits "12") ∧
    withoutLocation "at line 3 column 014 at position 12 at at line 3 column 014" =
      "at line 3 column 014 at position 12 at" ∧
    withoutLocation "at line 3 column 014 at position 12" = "at line 3 column 014" ∧
    (∀ lead tail, PlaceTail tail → "at line 3 column 014" ≠ lead ++ tail) ∧
    withoutLocation "at line 3 column 014" = "at line 3 column 014" := by
  obtain ⟨lines, positions, whole⟩ := withoutLocation_drops_one_place
  have line : Digits "3" := isNumeric_toList.mp (by decide)
  have column : Digits "014" := isNumeric_toList.mp (by decide)
  have position : Digits "12" := isNumeric_toList.mp (by decide)
  have none : ∀ lead tail, PlaceTail tail → "at line 3 column 014" ≠ lead ++ tail :=
    withoutLocation_eq_self_iff.mp (by decide)
  exact ⟨⟨line, column, position⟩,
    lines "at line 3 column 014 at position 12 at" "3" "014" line column,
    positions "at line 3 column 014" "12" position, none, whole _ none⟩

/-- What is said of a JSON text that cannot be read is the fault alone, be it about a key that looks
like a place. -/
theorem ofJsonError_message (e : Json.ReadError) : (ofJsonError e).message = e.fault.message := by
  have text : e.text = e.fault.message ++
      s!" at line {toString e.line} column {toString e.column}" := by
    simp only [Json.ReadError.text, String.append_assoc]
    rfl
  rw [ofJsonError, text]
  exact withoutLocation_append _ (.lineColumn (digits_nat _) (digits_nat _))

end AgentManifest.Document
