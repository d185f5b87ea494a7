import Mathlib.Data.List.Basic
import Mathlib.Tactic.IntervalCases
import AgentManifest.Delivery.Statement
import AgentManifest.Proofs.Decimal.Numerals

/-! When an agent cannot be written as a statement. The mark that ends a specification is looked for
in its printed form, and it is there exactly if two dollar signs stand side by side in a key or in a
text of the specification: nothing else that is printed holds a dollar sign, and escapes neither
bring two of them together nor keep them apart. -/

namespace AgentManifest

/-- Two dollar signs stand side by side. -/
def TwoDollars (text : String) : Prop := ['$', '$'] <:+: text.toList

/-- A key or a text of the tree, at any depth, is of a sort. -/
inductive Json.Holds (P : String → Prop) : Json → Prop where
  | text {s : String} (here : P s) : Holds P (.string s)
  | element {elements : List Json} {v : Json} (inside : v ∈ elements) (deeper : Holds P v) :
      Holds P (.array elements)
  | key {members : Members} {key : String} {v : Json} (inside : (key, v) ∈ members)
      (here : P key) : Holds P (.object members)
  | member {members : Members} {key : String} {v : Json} (inside : (key, v) ∈ members)
      (deeper : Holds P v) : Holds P (.object members)

namespace Json

variable {P : String → Prop} {elements : List Json} {members : Members} {s : String}

@[simp] theorem not_holds_null : ¬ Json.null.Holds P := nofun

@[simp] theorem not_holds_bool (b : Bool) : ¬ (Json.bool b).Holds P := nofun

@[simp] theorem not_holds_number (n : Number) : ¬ (Json.number n).Holds P := nofun

@[simp] theorem holds_string_iff : (Json.string s).Holds P ↔ P s :=
  ⟨fun | .text here => here, .text⟩

theorem holds_array_iff : (Json.array elements).Holds P ↔ ∃ v ∈ elements, v.Holds P :=
  ⟨fun | .element inside deeper => ⟨_, inside, deeper⟩, fun ⟨_, inside, deeper⟩ =>
    .element inside deeper⟩

theorem holds_object_iff :
    (Json.object members).Holds P ↔ ∃ m ∈ members, P m.1 ∨ m.2.Holds P := by
  constructor
  · rintro (_ | _ | ⟨inside, here⟩ | ⟨inside, deeper⟩)
    · exact ⟨_, inside, .inl here⟩
    · exact ⟨_, inside, .inr deeper⟩
  · rintro ⟨m, inside, here | deeper⟩
    · exact .key inside here
    · exact .member inside deeper

end Json

namespace CreateStatement

variable {text before behind : List Char} {c : Char}

theorem hasDollarQuote_iff : hasDollarQuote text = true ↔ ['$', '$'] <:+: text := by
  induction text with
  | nil => simp [hasDollarQuote]
  | cons c rest ih =>
      have first : ['$', '$'] <+: c :: rest ↔ c = '$' ∧ rest.head? = some '$' := by
        cases rest <;> simp [List.cons_prefix_cons, eq_comm]
      rw [hasDollarQuote, Bool.or_eq_true, ih, List.infix_cons_iff, first]
      simp

theorem hasDollarQuote_cons (other : c ≠ '$') : hasDollarQuote (c :: text) = hasDollarQuote text := by
  simp [hasDollarQuote, other]

theorem hasDollarQuote_append (free : '$' ∉ before) :
    hasDollarQuote (before ++ behind) = hasDollarQuote behind := by
  induction before with
  | nil => rfl
  | cons c rest ih =>
      rw [List.mem_cons, not_or] at free
      rw [List.cons_append, hasDollarQuote_cons (Ne.symm free.1), ih free.2]

theorem hasDollarQuote_of_not_mem (free : '$' ∉ text) : hasDollarQuote text = false := by
  have whole : hasDollarQuote (text ++ []) = hasDollarQuote [] := hasDollarQuote_append free
  rwa [List.append_nil] at whole

/-- No mark is made where two texts meet if the second begins with something else. -/
theorem hasDollarQuote_append_of_head (other : behind.head? ≠ some '$') :
    hasDollarQuote (before ++ behind) = (hasDollarQuote before || hasDollarQuote behind) := by
  induction before with
  | nil => rfl
  | cons c rest ih =>
      have next : decide ((rest ++ behind).head? = some '$') = decide (rest.head? = some '$') := by
        cases rest <;> simp [other]
      rw [List.cons_append, hasDollarQuote, hasDollarQuote, ih, next, Bool.or_assoc]

theorem escapeChar_dollar : Json.escapeChar '$' = ['$'] := by decide

theorem hexDigit_ne_dollar {n : Nat} (small : n < 16) : Json.hexDigit n ≠ '$' := by
  interval_cases n <;> decide

/-- What stands for another character holds no dollar sign. -/
theorem dollar_not_mem_escapeChar (other : c ≠ '$') : '$' ∉ Json.escapeChar c := by
  unfold Json.escapeChar
  split_ifs with _ _ _ _ _ _ _ control
  all_goals simp [Ne.symm other]
  exact ⟨(hexDigit_ne_dollar (by omega)).symm, (hexDigit_ne_dollar (by omega)).symm⟩

theorem escapeChar_ne_nil (c : Char) : Json.escapeChar c ≠ [] := by
  unfold Json.escapeChar
  split_ifs <;> simp

theorem head?_escaped (text : List Char) :
    (text.flatMap Json.escapeChar).head? = some '$' ↔ text.head? = some '$' := by
  cases text with
  | nil => rfl
  | cons c rest =>
      by_cases dollar : c = '$'
      · simp [dollar, escapeChar_dollar]
      · obtain ⟨d, more, written⟩ := List.exists_cons_of_ne_nil (escapeChar_ne_nil c)
        have other : d ≠ '$' := by
          rintro rfl
          exact dollar_not_mem_escapeChar dollar (written ▸ List.mem_cons_self)
        simp [written, dollar, other]

theorem hasDollarQuote_escaped (text : List Char) :
    hasDollarQuote (text.flatMap Json.escapeChar) = hasDollarQuote text := by
  induction text with
  | nil => rfl
  | cons c rest ih =>
      rw [List.flatMap_cons]
      by_cases dollar : c = '$'
      · rw [dollar, escapeChar_dollar, List.singleton_append, hasDollarQuote, hasDollarQuote, ih]
        simp [head?_escaped]
      · rw [hasDollarQuote_append (dollar_not_mem_escapeChar dollar), hasDollarQuote_cons dollar, ih]

theorem hasDollarQuote_quoted (s : String) :
    hasDollarQuote (Json.quoted s) = hasDollarQuote s.toList := by
  rw [Json.quoted, hasDollarQuote_cons (by decide), hasDollarQuote_append_of_head (by decide),
    hasDollarQuote_escaped]
  simp [hasDollarQuote]

theorem head?_prettyElements (level : Nat) (elements : List Json) :
    (Json.prettyElements level false elements).head? ≠ some '$' := by
  cases elements <;> simp [Json.prettyElements]

theorem head?_prettyMembers (level : Nat) (members : List (String × Json)) :
    (Json.prettyMembers level false members).head? ≠ some '$' := by
  cases members <;> simp [Json.prettyMembers]

/-- What closes an array or an object stands on a line of its own. -/
theorem hasDollarQuote_closed (level : Nat) (inside : List Char) (open_ close : Char)
    (opens : open_ ≠ '$') (closes : close ≠ '$') :
    hasDollarQuote (open_ :: (inside ++ Json.newLine level ++ [close])) =
      hasDollarQuote inside := by
  have behind : '$' ∉ Json.newLine level ++ [close] := by simp [Json.newLine, Ne.symm closes]
  rw [hasDollarQuote_cons opens, List.append_assoc,
    hasDollarQuote_append_of_head (by simp [Json.newLine]), hasDollarQuote_of_not_mem behind,
    Bool.or_false]

mutual

theorem hasDollarQuote_prettyChars (level : Nat) :
    (v : Json) → (hasDollarQuote (Json.prettyChars level v) = true ↔ v.Holds TwoDollars)
  | .null => by simp [Json.prettyChars, hasDollarQuote]
  | .bool b => by cases b <;> simp [Json.prettyChars, hasDollarQuote]
  | .number n => by
      have free := (Json.numerals_numberText n).not_mem (c := '$') (by decide)
      simp [Json.prettyChars, hasDollarQuote_of_not_mem free]
  | .string s => by
      rw [Json.prettyChars, hasDollarQuote_quoted, Json.holds_string_iff, hasDollarQuote_iff]
      rfl
  | .array [] => by
      simp [Json.prettyChars, hasDollarQuote, Json.holds_array_iff]
  | .array (v :: rest) => by
      rw [Json.prettyChars, hasDollarQuote_closed level _ _ _ (by decide) (by decide),
        hasDollarQuote_prettyElements, Json.holds_array_iff]
  | .object [] => by
      simp [Json.prettyChars, hasDollarQuote, Json.holds_object_iff]
  | .object (m :: rest) => by
      rw [Json.prettyChars, hasDollarQuote_closed level _ _ _ (by decide) (by decide),
        hasDollarQuote_prettyMembers, Json.holds_object_iff]

theorem hasDollarQuote_prettyElements (level : Nat) (first : Bool) :
    (elements : List Json) →
      (hasDollarQuote (Json.prettyElements level first elements) = true ↔
        ∃ v ∈ elements, v.Holds TwoDollars)
  | [] => by simp [Json.prettyElements, hasDollarQuote]
  | v :: rest => by
      have lead : '$' ∉ (if first then [] else [',']) ++ Json.newLine level := by
        cases first <;> simp [Json.newLine]
      rw [Json.prettyElements, hasDollarQuote_append_of_head (head?_prettyElements level rest),
        hasDollarQuote_append lead, Bool.or_eq_true, hasDollarQuote_prettyChars,
        hasDollarQuote_prettyElements]
      simp

theorem hasDollarQuote_prettyMembers (level : Nat) (first : Bool) :
    (members : List (String × Json)) →
      (hasDollarQuote (Json.prettyMembers level first members) = true ↔
        ∃ m ∈ members, TwoDollars m.1 ∨ m.2.Holds TwoDollars)
  | [] => by simp [Json.prettyMembers, hasDollarQuote]
  | (key, v) :: rest => by
      have lead : '$' ∉ (if first then [] else [',']) ++ Json.newLine level := by
        cases first <;> simp [Json.newLine]
      have member : hasDollarQuote (Json.quoted key ++ [':', ' '] ++ Json.prettyChars level v) =
          (hasDollarQuote key.toList || hasDollarQuote (Json.prettyChars level v)) := by
        rw [List.append_assoc, hasDollarQuote_append_of_head (by simp), hasDollarQuote_quoted,
          hasDollarQuote_append (by decide)]
      rw [Json.prettyMembers, hasDollarQuote_append_of_head (head?_prettyMembers level rest),
        List.append_assoc, List.append_assoc, ← List.append_assoc (Json.quoted key),
        hasDollarQuote_append lead, member]
      simp only [Bool.or_eq_true, hasDollarQuote_prettyChars, hasDollarQuote_prettyMembers,
        hasDollarQuote_iff, List.exists_mem_cons_iff]
      rfl

end

example : hasDollarQuote (Json.prettyChars 0 (.object [("a$", .array [.string "$", .string "$"])]))
    = false := by decide

theorem ofAgent_eq_dollarQuote_iff (a : Agent) (mode : CreateMode) :
    ofAgent a mode = .error .dollarQuote ↔ a.specification.Holds TwoDollars := by
  rw [ofAgent, Json.pretty, String.toList_ofList, ← hasDollarQuote_prettyChars 0]
  split <;> simp [*]

theorem ofAgent_eq_ok_iff (a : Agent) (mode : CreateMode) :
    (∃ statement, ofAgent a mode = .ok statement) ↔ ¬ a.specification.Holds TwoDollars := by
  rw [ofAgent, Json.pretty, String.toList_ofList, ← hasDollarQuote_prettyChars 0]
  split <;> simp [*]

/-- An agent is refused as a statement exactly if two dollar signs stand side by side in a key or in
a text of its specification, and is written otherwise. What else is said about it, where it lives,
what it is called, its comment and its profile, has no part in that, whatever it holds. -/
theorem refused_iff_two_dollars (a : Agent) (mode : CreateMode) :
    (ofAgent a mode = .error .dollarQuote ↔ a.specification.Holds TwoDollars) ∧
    ((∃ statement, ofAgent a mode = .ok statement) ↔ ¬ a.specification.Holds TwoDollars) ∧
    ∀ database schema name comment profile mode',
      ofAgent { a with database, schema, name, comment, profile } mode' = .error .dollarQuote ↔
        ofAgent a mode = .error .dollarQuote := by
  refine ⟨ofAgent_eq_dollarQuote_iff a mode, ofAgent_eq_ok_iff a mode, ?_⟩
  intro database schema name comment profile mode'
  -- The specification is written without any of them.
  have same : Agent.specification { a with database, schema, name, comment, profile } =
      a.specification := rfl
  rw [ofAgent_eq_dollarQuote_iff, ofAgent_eq_dollarQuote_iff, same]

end CreateStatement
end AgentManifest
