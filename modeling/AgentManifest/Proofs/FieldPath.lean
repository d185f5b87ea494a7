import Mathlib.Data.List.Basic
import AgentManifest.FieldPath
import AgentManifest.Proofs.Decimal.Numerals

/-! The texts of paths. A path can be told from its text as long as no name on it can be taken for
something else, and the text of a path that hangs below a place continues the text of that place. -/

namespace AgentManifest.FieldPath

/-- A name that ends where the text of the next step begins, and does not begin as an index does. -/
def PlainName (name : String) : Prop := name ≠ "" ∧ '.' ∉ name.toList ∧ '[' ∉ name.toList

/-- A path that can be told from its text. A lone field `$` is written as the root is. -/
structure Plain (p : FieldPath) : Prop where
  names : ∀ name, .field name ∈ p → PlainName name
  notRootText : p ≠ [.field "$"]

/-- What stands between the text of a place and that of a path below it. -/
def mark : FieldPath → String
  | .field _ :: _ => "."
  | _ => ""

variable {p q : FieldPath} {step : PathStep} {steps others : FieldPath} {name other : String}
  {m n : Nat} {rest behind : List Char}

/-- The characters of the steps behind the first. -/
def laterChars (steps : FieldPath) : List Char := steps.flatMap fun step => (stepText step).toList

@[simp] theorem laterChars_nil : laterChars [] = [] := rfl

@[simp] theorem laterChars_field :
    laterChars (.field name :: steps) = '.' :: (name.toList ++ laterChars steps) := by
  simp [laterChars, stepText]

@[simp] theorem laterChars_index :
    laterChars (.index n :: steps) = '[' :: (n.repr.toList ++ ']' :: laterChars steps) := by
  simp [laterChars, stepText, toString]

theorem toList_join (steps : FieldPath) :
    (String.join (steps.map stepText)).toList = laterChars steps := by
  simp [laterChars, String.toList_join, List.flatMap_map]

@[simp] theorem toList_text_field :
    (text (.field name :: steps)).toList = name.toList ++ laterChars steps := by
  rw [text, String.toList_append, toList_join, firstText]

@[simp] theorem toList_text_index : (text (.index n :: steps)).toList =
    '[' :: (n.repr.toList ++ ']' :: laterChars steps) := by
  rw [text, String.toList_append, toList_join]
  simp [firstText, toString]

/-- A character that a plain name can hold. -/
def inName (c : Char) : Bool := c ≠ '.' && c ≠ '['

theorem PlainName.all (plain : PlainName name) : ∀ c ∈ name.toList, inName c = true := by
  intro c inside
  have noDot : c ≠ '.' := ne_of_mem_of_not_mem inside plain.2.1
  have noBracket : c ≠ '[' := ne_of_mem_of_not_mem inside plain.2.2
  simp [inName, noDot, noBracket]

theorem takeWhile_laterChars (steps : FieldPath) : (laterChars steps).takeWhile inName = [] := by
  match steps with
  | [] => rfl
  | .field _ :: _ | .index _ :: _ => simp [inName]

theorem takeWhile_name (plain : PlainName name) (steps : FieldPath) :
    (name.toList ++ laterChars steps).takeWhile inName = name.toList := by
  rw [List.takeWhile_append_of_pos plain.all, takeWhile_laterChars, List.append_nil]

/-- A plain name reaches as far as its characters do. -/
theorem name_append_injective (plain : PlainName name) (plain' : PlainName other)
    (same : name.toList ++ laterChars steps = other.toList ++ laterChars others) :
    name = other ∧ laterChars steps = laterChars others := by
  have named : name.toList = other.toList := by
    rw [← takeWhile_name plain steps, same, takeWhile_name plain' others]
  rw [named] at same
  exact ⟨String.toList_inj.mp named, List.append_cancel_left same⟩

theorem takeWhile_index (n : Nat) (rest : List Char) :
    (n.repr.toList ++ ']' :: rest).takeWhile (· ≠ ']') = n.repr.toList := by
  have digits : ∀ c ∈ n.repr.toList, decide (c ≠ ']') = true := by
    intro c inside
    have other := ne_of_mem_of_not_mem inside ((numerals_nat n).not_mem (by decide : ¬ IsNumeral ']'))
    exact decide_eq_true other
  rw [List.takeWhile_append_of_pos digits]
  simp

/-- An index reaches as far as its bracket. -/
theorem index_append_injective (same : n.repr.toList ++ ']' :: rest = m.repr.toList ++ ']' :: behind) :
    n = m ∧ rest = behind := by
  have digits : n.repr.toList = m.repr.toList := by
    rw [← takeWhile_index n rest, same, takeWhile_index m behind]
  have number : n = m := by
    rw [Nat.toList_repr, Nat.toList_repr] at digits
    simpa using congrArg (Nat.ofDigitChars 10 · 0) digits
  rw [digits] at same
  exact ⟨number, (List.cons.inj (List.append_cancel_left same)).2⟩

theorem laterChars_injective (plain : ∀ name, .field name ∈ steps → PlainName name)
    (plain' : ∀ name, .field name ∈ others → PlainName name)
    (same : laterChars steps = laterChars others) : steps = others := by
  induction steps generalizing others with
  | nil =>
      match others with
      | [] => rfl
      | .field _ :: _ | .index _ :: _ => simp at same
  | cons step steps ih =>
      have onward : ∀ {others : FieldPath}, (∀ name, .field name ∈ others → PlainName name) →
          laterChars steps = laterChars others → steps = others :=
        ih fun name inside => plain name (List.mem_cons_of_mem _ inside)
      match step, others with
      | .field _, [] | .index _, [] => simp at same
      | .field name, .index m :: others => simp at same
      | .index n, .field other :: others => simp at same
      | .field name, .field other :: others =>
          simp only [laterChars_field, List.cons.injEq, true_and] at same
          obtain ⟨rfl, later⟩ := name_append_injective (plain name List.mem_cons_self)
            (plain' other List.mem_cons_self) same
          rw [onward (fun name inside => plain' name (List.mem_cons_of_mem _ inside)) later]
      | .index n, .index m :: others =>
          simp only [laterChars_index, List.cons.injEq, true_and] at same
          obtain ⟨rfl, later⟩ := index_append_injective same
          rw [onward (fun name inside => plain' name (List.mem_cons_of_mem _ inside)) later]

theorem laterChars_eq_nil : laterChars steps = [] ↔ steps = [] := by
  match steps with
  | [] => simp
  | .field _ :: _ | .index _ :: _ => simp

/-- No plain path but the root is written as the root is. -/
theorem Plain.text_eq_root_iff (plain : p.Plain) : p.text = "$" ↔ p = root := by
  refine ⟨fun same => ?_, fun same => same ▸ rfl⟩
  have chars : p.text.toList = ['$'] := congrArg String.toList same
  match p with
  | [] => rfl
  | .index n :: steps => simp at chars
  | .field name :: steps =>
      rw [toList_text_field] at chars
      obtain ⟨filled, -, -⟩ := plain.names name List.mem_cons_self
      rcases List.append_eq_singleton_iff.mp chars with ⟨empty, -⟩ | ⟨named, ended⟩
      · exact absurd (String.toList_eq_nil_iff.mp empty) filled
      · have alone : name = "$" := String.toList_inj.mp named
        exact absurd (by rw [alone, laterChars_eq_nil.mp ended]) plain.notRootText

/-- A plain name does not begin as an index does. -/
theorem PlainName.ne_bracket (plain : PlainName name) : name.toList ++ rest ≠ '[' :: behind := by
  obtain ⟨filled, -, noBracket⟩ := plain
  cases first : name.toList with
  | nil => exact absurd (String.toList_eq_nil_iff.mp first) filled
  | cons c later =>
      intro same
      rw [List.cons_append, List.cons.injEq] at same
      exact noBracket (by simp [first, same.1])

theorem laterChars_eq_marked (below : p ≠ root) :
    laterChars p = p.mark.toList ++ p.text.toList := by
  match p with
  | [] => exact absurd rfl below
  | .field name :: steps => simp [mark]
  | .index n :: steps => simp [mark]

/-- Once the first steps are of one kind, the texts can be compared as if other steps went before. -/
theorem eq_of_mark_eq (plain : p.Plain) (plain' : q.Plain) (below : p ≠ root) (below' : q ≠ root)
    (marked : p.mark = q.mark) (same : p.text = q.text) : p = q := by
  refine laterChars_injective plain.names plain'.names ?_
  rw [laterChars_eq_marked below, laterChars_eq_marked below', marked, same]

theorem text_injective (plain : p.Plain) (plain' : q.Plain) (same : p.text = q.text) : p = q := by
  match p, q with
  | [], q => exact (plain'.text_eq_root_iff.mp same.symm).symm
  | p, [] => exact plain.text_eq_root_iff.mp same
  | .field name :: _, .field other :: _ => exact eq_of_mark_eq plain plain' nofun nofun rfl same
  | .index n :: _, .index m :: _ => exact eq_of_mark_eq plain plain' nofun nofun rfl same
  | .field name :: _, .index m :: _ =>
      have chars := congrArg String.toList same
      rw [toList_text_field, toList_text_index] at chars
      exact absurd chars (plain.names name List.mem_cons_self).ne_bracket
  | .index n :: _, .field other :: _ =>
      have chars := congrArg String.toList same
      rw [toList_text_field, toList_text_index] at chars
      exact absurd chars.symm (plain'.names other List.mem_cons_self).ne_bracket

theorem toList_text_append (step : PathStep) (steps others : FieldPath) :
    (text (step :: (steps ++ others))).toList =
      (text (step :: steps)).toList ++ laterChars others := by
  cases step with
  | field name => simp [laterChars]
  | index n => simp [laterChars]

theorem text_under (below : p ≠ root) (lead : q ≠ root) :
    (p.under q).text = q.text ++ p.mark ++ p.text := by
  match q with
  | [] => exact absurd rfl lead
  | step :: steps =>
      refine String.toList_inj.mp ?_
      rw [under, List.cons_append, toList_text_append, laterChars_eq_marked below,
        String.toList_append, String.toList_append, List.append_assoc]

/-- Plain paths that are written alike are the same path, and only the root is written as the root
is. Below another place a path is written behind the text of that place, with a dot in between if it
begins with a field; hanging a path below places is associative, and the root makes no difference. -/
theorem texts_tell_paths :
    (∀ p q : FieldPath, p.Plain → q.Plain → p.text = q.text → p = q) ∧
      (∀ p : FieldPath, p.Plain → (p.text = "$" ↔ p = root)) ∧
      (∀ p q : FieldPath, p ≠ root → q ≠ root →
        (p.under q).text = q.text ++ p.mark ++ p.text) ∧
      (∀ p q r : FieldPath, (p.under q).under r = p.under (q.under r)) ∧
      ∀ p : FieldPath, p.under root = p ∧ root.under p = p := by
  refine ⟨fun p q => text_injective, fun p => Plain.text_eq_root_iff, fun p q => text_under, ?_, ?_⟩
  · intro p q r
    exact (List.append_assoc r q p).symm
  · intro p
    exact ⟨List.nil_append p, List.append_nil p⟩

/-- A field that could be taken for an index, below an index. -/
theorem texts_tell_paths_below_index :
    ((root.field "1]").under (root.index 0)).Plain ∧ ((root.index 0).field "1]").Plain ∧
      ((root.index 0).field "1]").text = "[0].1]" ∧
      (root.field "1]").under (root.index 0) = (root.index 0).field "1]" := by
  have plain : ((root.index 0).field "1]").Plain := by
    refine ⟨fun name inside => ?_, by decide⟩
    have named : name = "1]" := by simpa [root, index, field] using inside
    exact named ▸ ⟨by decide, by decide, by decide⟩
  obtain ⟨apart, -, below, -⟩ := texts_tell_paths
  have written : ((root.field "1]").under (root.index 0)).text = "[0]" ++ "." ++ "1]" :=
    below (root.field "1]") (root.index 0) (by decide) (by decide)
  exact ⟨plain, plain, by decide, apart _ _ plain plain (written.trans (by decide))⟩

/-- A name with a dot is written like two names. -/
example : text [.field "a.b"] = text [.field "a", .field "b"] := by decide

end AgentManifest.FieldPath
