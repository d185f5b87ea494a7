import AgentManifest.Decimal.Notation
import AgentManifest.Json.Printer

/-! The characters of written numbers: whatever the notation, they are digits, signs, a point and
the letter before an exponent. -/

namespace AgentManifest

/-- A character that numbers are written with. -/
def IsNumeral (c : Char) : Prop := c.isDigit = true ∨ c ∈ ['-', '+', '.', 'e']

instance (c : Char) : Decidable (IsNumeral c) :=
  inferInstanceAs (Decidable (c.isDigit = true ∨ c ∈ ['-', '+', '.', 'e']))

/-- A text of nothing but such characters. -/
def Numerals (text : List Char) : Prop := ∀ c ∈ text, IsNumeral c

namespace Numerals

variable {text other : List Char} {c : Char}

@[simp] theorem nil : Numerals [] := nofun

@[simp] theorem cons_iff : Numerals (c :: text) ↔ IsNumeral c ∧ Numerals text :=
  List.forall_mem_cons

@[simp] theorem append_iff : Numerals (text ++ other) ↔ Numerals text ∧ Numerals other :=
  List.forall_mem_append

theorem take (all : Numerals text) (n : Nat) : Numerals (text.take n) :=
  fun c inside => all c (List.mem_of_mem_take inside)

theorem drop (all : Numerals text) (n : Nat) : Numerals (text.drop n) :=
  fun c inside => all c (List.mem_of_mem_drop inside)

theorem replicate (n : Nat) (here : IsNumeral c) : Numerals (List.replicate n c) :=
  fun _ inside => List.eq_of_mem_replicate inside ▸ here

/-- No other character is in such a text. -/
theorem not_mem (all : Numerals text) (other : ¬ IsNumeral c) : c ∉ text :=
  fun inside => other (all c inside)

end Numerals

theorem numerals_nat (n : Nat) : Numerals (toString n).toList := by
  have digits : (toString n).toList = Nat.toDigits 10 n := Nat.toList_repr
  intro c inside
  rw [digits] at inside
  exact .inl (Nat.isDigit_of_mem_toDigits (by decide) (by decide) inside)

theorem numerals_int (i : Int) : Numerals (toString i).toList := by
  cases i with
  | ofNat n => exact numerals_nat n
  | negSucc n =>
      have negative : (toString (Int.negSucc n)).toList = '-' :: (toString (n + 1)).toList :=
        String.toList_append
      rw [negative, Numerals.cons_iff]
      exact ⟨by decide, numerals_nat (n + 1)⟩

namespace DecimalNotation

variable {digits : List Char}

theorem numerals_positionalText (keepsPoint : Bool) (exponent : Int) (all : Numerals digits) :
    Numerals (positionalText keepsPoint digits exponent) := by
  have zero : IsNumeral '0' := by decide
  have point : IsNumeral '.' := by decide
  have zeros : ∀ n, Numerals (List.replicate n '0') := fun n => .replicate n zero
  simp only [positionalText]
  split
  · cases keepsPoint <;> simp [all, zeros, zero, point]
  · split
    · simp [all.take, all.drop, point]
    · simp [all, zeros, zero, point]

theorem numerals_exponentText (leading : Int) (all : Numerals digits) :
    Numerals (exponentText digits leading) := by
  have point : IsNumeral '.' := by decide
  have letter : IsNumeral 'e' := by decide
  have sign : IsNumeral (if leading < 0 then '-' else '+') := by split <;> decide
  have fraction : Numerals (if (digits.drop 1).isEmpty then [] else '.' :: digits.drop 1) := by
    split
    · exact .nil
    · exact Numerals.cons_iff.mpr ⟨point, all.drop 1⟩
  simp only [exponentText, Numerals.append_iff, Numerals.cons_iff]
  exact ⟨⟨all.take 1, fraction⟩, letter, sign, numerals_nat _⟩

theorem numerals_write (form : DecimalNotation) (x : Binary64) :
    Numerals (form.write x).toList := by
  have digits := numerals_nat (x.shortest form.tie).digits
  have signed : ∀ body, Numerals body → Numerals (if x.negative then '-' :: body else body) := by
    intro body all
    split
    · exact Numerals.cons_iff.mpr ⟨by decide, all⟩
    · exact all
  simp only [write, String.toList_ofList]
  refine signed _ ?_
  split
  · split
    · exact numerals_positionalText _ _ digits
    · exact numerals_exponentText _ digits
  · exact numerals_positionalText _ _ digits

end DecimalNotation

theorem Json.numerals_numberText (n : Number) : Numerals (numberText n).toList := by
  cases n with
  | integer i =>
      rw [numberText]
      exact numerals_int i
  | float x =>
      rw [numberText]
      exact DecimalNotation.numerals_write _ x

end AgentManifest
