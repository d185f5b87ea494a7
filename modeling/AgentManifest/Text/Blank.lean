/-! Blank characters, of which texts are often freed at both ends. A blank is a character with the
Unicode property White_Space. What trimming leaves is a piece of the text that neither begins nor
ends with what is trimmed away, and it does not matter how much of that stands around it. -/

namespace AgentManifest.Text

def isBlank (c : Char) : Bool :=
  ('\t' ≤ c && c ≤ '\r') || c = ' ' || c = '\x85' || c = '\xa0' || c = '\u1680'
    || ('\u2000' ≤ c && c ≤ '\u200a') || c = '\u2028' || c = '\u2029' || c = '\u202f'
    || c = '\u205f' || c = '\u3000'

def trimStart (p : Char → Bool) (text : List Char) : List Char := text.dropWhile p

def trimEnd (p : Char → Bool) (text : List Char) : List Char := (text.reverse.dropWhile p).reverse

def trim (p : Char → Bool) (text : List Char) : List Char := trimEnd p (trimStart p text)

def trimBlanks (text : List Char) : List Char := trim isBlank text

def foldCase (text : List Char) : List Char := text.map Char.toLower

theorem isUpper_iff {c : Char} : c.isUpper = true ↔ 65 ≤ c.toNat ∧ c.toNat ≤ 90 :=
  decide_eq_true_iff

theorem isLower_iff {c : Char} : c.isLower = true ↔ 97 ≤ c.toNat ∧ c.toNat ≤ 122 :=
  Bool.and_eq_true_iff.trans (and_congr decide_eq_true_iff decide_eq_true_iff)

theorem isDigit_iff {c : Char} : c.isDigit = true ↔ 48 ≤ c.toNat ∧ c.toNat ≤ 57 :=
  Bool.and_eq_true_iff.trans (and_congr decide_eq_true_iff decide_eq_true_iff)

theorem toLower_of_not_isUpper {c : Char} (other : ¬ c.isUpper = true) : c.toLower = c :=
  dif_neg fun upper => other (isUpper_iff.mpr upper)

theorem toNat_toLower_of_isUpper {c : Char} (upper : c.isUpper = true) :
    c.toLower.toNat = c.toNat + 32 := by
  have bounds := isUpper_iff.mp upper
  have shifted : c.toLower = ⟨c.val + ('a'.val - 'A'.val), _⟩ := dif_pos bounds
  have small : c.val.toNat + 32 < 2 ^ 32 := by
    have most : c.val.toNat ≤ 90 := bounds.2
    omega
  rw [shifted]
  exact (UInt32.toNat_add ..).trans (Nat.mod_eq_of_lt small)

variable {p : Char → Bool} {text before behind : List Char}

theorem trimStart_suffix_self (p : Char → Bool) (text : List Char) : trimStart p text <:+ text :=
  List.dropWhile_suffix p

theorem trimEnd_prefix_self (p : Char → Bool) (text : List Char) : trimEnd p text <+: text := by
  rw [trimEnd, ← List.reverse_suffix, List.reverse_reverse]
  exact List.dropWhile_suffix p

theorem trim_infix (p : Char → Bool) (text : List Char) : trim p text <:+: text :=
  (trimEnd_prefix_self p _).isInfix.trans (trimStart_suffix_self p text).isInfix

theorem trimStart_eq_self (first : ∀ c ∈ text.head?, p c = false) : trimStart p text = text := by
  cases text with
  | nil => rfl
  | cons c rest => exact List.dropWhile_cons_of_neg (by simpa using first c rfl)

theorem head?_trimStart : ∀ c ∈ (trimStart p text).head?, p c = false := by
  intro c first
  rw [trimStart] at first
  have stopped := List.head?_dropWhile_not p text
  rw [Option.mem_def.mp first] at stopped
  simpa using stopped

theorem getLast?_trim : ∀ c ∈ (trim p text).getLast?, p c = false := by
  intro c last
  rw [trim, trimEnd, List.getLast?_reverse] at last
  exact head?_trimStart c last

theorem head?_trim : ∀ c ∈ (trim p text).head?, p c = false := by
  intro c first
  -- Trimming at the end leaves the first character, unless it takes all.
  obtain ⟨rest, whole⟩ : trim p text <+: trimStart p text := trimEnd_prefix_self p _
  have stopped : ∀ c ∈ (trimStart p text).head?, p c = false := head?_trimStart
  rw [← whole, List.head?_append, Option.mem_def.mp first] at stopped
  exact stopped c rfl

/-- A text that neither begins nor ends with what is trimmed away stays as it is. -/
theorem trim_eq_self (first : ∀ c ∈ text.head?, p c = false)
    (last : ∀ c ∈ text.getLast?, p c = false) : trim p text = text := by
  have backwards : text.reverse.dropWhile p = text.reverse :=
    trimStart_eq_self (by rwa [List.head?_reverse])
  rw [trim, trimStart_eq_self first, trimEnd, backwards, List.reverse_reverse]

theorem trim_between (front : ∀ c ∈ before, p c = true) (back : ∀ c ∈ behind, p c = true) :
    trim p (before ++ text ++ behind) = trim p text := by
  have stop : ∀ chars : List Char, trimEnd p (chars ++ behind) = trimEnd p chars := by
    intro chars
    have back' : ∀ c ∈ behind.reverse, p c = true := fun c mem => back c (List.mem_reverse.mp mem)
    rw [trimEnd, List.reverse_append, List.dropWhile_append_of_pos back', ← trimEnd]
  rw [trim, trimStart, List.append_assoc, List.dropWhile_append_of_pos front, List.dropWhile_append]
  split
  next nothing =>
    have none : behind.dropWhile p = [] := by
      rw [← List.append_nil behind, List.dropWhile_append_of_pos back]
      rfl
    rw [none, trim, trimStart, List.isEmpty_iff.mp nothing]
  next => exact stop _

end AgentManifest.Text
