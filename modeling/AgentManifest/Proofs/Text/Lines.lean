import Mathlib.Tactic.SplitIfs
import AgentManifest.Proofs.Decimal.Numerals
import AgentManifest.Text.Quoted
import AgentManifest.Text.Split

/-! The lines of texts. A text of one line is put together from such texts, and so are numbers,
quoted texts and value trees that are written compactly; any other text has one line more than it
has line feeds. -/

namespace AgentManifest
namespace Text

/-- The lines of a text. Behind the last line feed stands one more. -/
def lines (text : String) : List String := (splitAt '\n' text.toList).map String.ofList

/-- A text without line feeds. -/
def OneLine (text : String) : Prop := '\n' ∉ text.toList

variable {text before behind separator : String} {texts : List String} {chars : List Char}

instance (text : String) : Decidable (OneLine text) :=
  inferInstanceAs (Decidable ('\n' ∉ text.toList))

theorem lines_of_oneLine (whole : OneLine text) : lines text = [text] := by
  simp [lines, splitAt_of_not_mem whole]

theorem lines_append_line (before behind : String) :
    lines (before ++ "\n" ++ behind) = lines before ++ lines behind := by
  have cut := splitAt_append '\n' before.toList behind.toList
  simp [lines, cut]

theorem length_splitAt (separator : Char) (chars : List Char) :
    (splitAt separator chars).length = chars.count separator + 1 := by
  induction chars with
  | nil => rfl
  | cons c rest ih =>
      rw [splitAt, List.count_cons]
      split
      next same => simp [same, ih]
      next other =>
        obtain ⟨piece, pieces, split⟩ := List.exists_cons_of_ne_nil (splitAt_ne_nil separator rest)
        rw [split] at ih ⊢
        simpa [other] using ih

theorem length_lines (text : String) : (lines text).length = text.toList.count '\n' + 1 := by
  rw [lines, List.length_map, length_splitAt]

theorem length_lines_eq_one_iff : (lines text).length = 1 ↔ OneLine text := by
  rw [length_lines, OneLine, ← List.count_eq_zero]
  omega

theorem length_le_length_flatMap_lines (texts : List String) :
    texts.length ≤ (texts.flatMap lines).length := by
  induction texts with
  | nil => exact Nat.le_refl 0
  | cons text rest ih =>
      rw [List.flatMap_cons, List.length_append, length_lines, List.length_cons]
      omega

/-- Each text has a line, so there are as many lines as texts only if no text has two. -/
theorem length_flatMap_lines_eq_iff :
    (texts.flatMap lines).length = texts.length ↔ ∀ text ∈ texts, OneLine text := by
  induction texts with
  | nil => simp
  | cons text rest ih =>
      have first := length_lines text
      have enough := length_le_length_flatMap_lines rest
      refine Iff.trans ?_ ((and_congr length_lines_eq_one_iff ih).trans List.forall_mem_cons.symm)
      rw [List.flatMap_cons, List.length_append, List.length_cons]
      omega

/-- A text that is known is best looked at as its characters. -/
theorem oneLine_ofList (whole : '\n' ∉ chars) : OneLine (String.ofList chars) := by
  rwa [OneLine, String.toList_ofList]

@[simp] theorem oneLine_append : OneLine (before ++ behind) ↔ OneLine before ∧ OneLine behind := by
  simp [OneLine, not_or]

@[simp] theorem oneLine_toString : OneLine (toString text) ↔ OneLine text := Iff.rfl

@[simp] theorem oneLine_nat (n : Nat) : OneLine n.repr := (numerals_nat n).not_mem (by decide)

@[simp] theorem oneLine_int (i : Int) : OneLine (toString i) := (numerals_int i).not_mem (by decide)

@[simp] theorem oneLine_write (form : DecimalNotation) (x : Binary64) : OneLine (form.write x) :=
  (form.numerals_write x).not_mem (by decide)

/-- What stands around a text leaves it on its line. -/
theorem oneLine_between (led : OneLine before) (closed : OneLine behind) :
    OneLine (before ++ text ++ behind) ↔ OneLine text := by
  rw [oneLine_append, oneLine_append, and_iff_left closed, and_iff_right led]

/-- Two texts with something in front of each. -/
theorem oneLine_pair {lead first middle second : String} (led : OneLine lead)
    (one : OneLine first) (joined : OneLine middle) (two : OneLine second) :
    OneLine (lead ++ first ++ middle ++ second) :=
  oneLine_append.mpr ⟨oneLine_append.mpr ⟨oneLine_append.mpr ⟨led, one⟩, joined⟩, two⟩

theorem oneLine_index (position : Nat) : OneLine s!"[{position}]" := by
  have opening : OneLine "[" := oneLine_ofList (by decide)
  have closing : OneLine "]" := oneLine_ofList (by decide)
  simp [opening, closing]

theorem oneLine_join : OneLine (String.join texts) ↔ ∀ text ∈ texts, OneLine text := by
  simp [OneLine, String.toList_join]

theorem oneLine_intercalate (whole : OneLine separator) :
    OneLine (separator.intercalate texts) ↔ ∀ text ∈ texts, OneLine text := by
  induction texts with
  | nil => simp [OneLine]
  | cons text rest ih =>
      cases rest with
      | nil => simp
      | cons next rest =>
          rw [String.intercalate_cons_cons, oneLine_append, oneLine_append, ih,
            List.forall_mem_cons (a := text), and_iff_left whole]

theorem digitChar_of_mem_toDigitsCore {base fuel n : Nat} {later : List Char} {c : Char}
    (positive : 0 < base) (inside : c ∈ Nat.toDigitsCore base fuel n later) :
    (∃ digit < base, c = Nat.digitChar digit) ∨ c ∈ later := by
  induction fuel generalizing n later with
  | zero => exact .inr inside
  | succ fuel ih =>
      rw [Nat.toDigitsCore] at inside
      have first : c ∈ Nat.digitChar (n % base) :: later →
          (∃ digit < base, c = Nat.digitChar digit) ∨ c ∈ later := by
        rintro (_ | ⟨_, inside⟩)
        · exact .inl ⟨_, Nat.mod_lt _ positive, rfl⟩
        · exact .inr inside
      split at inside
      next => exact first inside
      next =>
        rcases ih inside with digit | inside
        · exact .inl digit
        · exact first inside

theorem lineFeed_not_mem_hexDigits (n : Nat) : '\n' ∉ hexDigits n := by
  intro inside
  rcases digitChar_of_mem_toDigitsCore (by decide) inside with ⟨digit, small, same⟩ | inside
  · have other : ∀ digit < 16, '\n' ≠ Nat.digitChar digit := by decide
    exact other digit small same
  · cases inside

theorem lineFeed_not_mem_quotedChar (c : Char) : '\n' ∉ quotedChar c := by
  unfold quotedChar
  split_ifs with _ _ _ lineFeed
  all_goals simp [lineFeed_not_mem_hexDigits]
  exact Ne.symm lineFeed

theorem oneLine_quotedText (s : String) : OneLine (quotedText s) := by
  simp [OneLine, quotedText, lineFeed_not_mem_quotedChar]

end Text

namespace Json

theorem lineFeed_not_mem_escapeChar (c : Char) : '\n' ∉ escapeChar c := by
  have digit : ∀ n < 16, '\n' ≠ hexDigit n := by decide
  unfold escapeChar
  split_ifs with _ _ _ _ lineFeed _ _ low
  any_goals decide
  · have high := digit (c.toNat / 16) (Nat.div_lt_of_lt_mul (by omega))
    have rest := digit (c.toNat % 16) (Nat.mod_lt _ (by decide))
    simp [high, rest]
  · simpa using Ne.symm lineFeed

theorem lineFeed_not_mem_quoted (s : String) : '\n' ∉ quoted s := by
  simp [quoted, lineFeed_not_mem_escapeChar]

theorem oneLine_numberText (n : Number) : Text.OneLine (numberText n) := by
  cases n with
  | integer i => exact Text.oneLine_int i
  | float x => exact Text.oneLine_write .document x

mutual

theorem lineFeed_not_mem_compactChars (v : Json) : '\n' ∉ v.compactChars := by
  cases v with
  | null => decide
  | bool b => cases b <;> decide
  | number n => exact oneLine_numberText n
  | string s => exact lineFeed_not_mem_quoted s
  | array elements => simp [compactChars, lineFeed_not_mem_compactElements]
  | object members => simp [compactChars, lineFeed_not_mem_compactMembers]

theorem lineFeed_not_mem_compactElements (first : Bool) (elements : List Json) :
    '\n' ∉ compactElements first elements := by
  cases elements with
  | nil => exact List.not_mem_nil
  | cons v rest =>
      have here := lineFeed_not_mem_compactChars v
      have behind := lineFeed_not_mem_compactElements false rest
      cases first <;> simp [compactElements, here, behind]

theorem lineFeed_not_mem_compactMembers (first : Bool) (members : List (String × Json)) :
    '\n' ∉ compactMembers first members := by
  cases members with
  | nil => exact List.not_mem_nil
  | cons member rest =>
      have here := lineFeed_not_mem_compactChars member.2
      have behind := lineFeed_not_mem_compactMembers false rest
      cases first <;> simp [compactMembers, lineFeed_not_mem_quoted, here, behind]

end

theorem oneLine_compact (v : Json) : Text.OneLine v.compact :=
  Text.oneLine_ofList v.lineFeed_not_mem_compactChars

end Json
end AgentManifest
