import Mathlib.Order.Basic
import AgentManifest.Delivery.Sink
import AgentManifest.Proofs.Files.Route
import AgentManifest.Proofs.Outcome

/-! Names of the files that agents are written to. Folding a name leaves lower-case letters, digits
and underscores between its ends, and says nothing of the case of letters or of what the other
characters were. So each file name is one in whatever directory, and two agents have the same one in
a form exactly if their names fold to the same text. -/

namespace AgentManifest

variable {c d : Char} {name other lead tail : String}

/-- What safe names are made of. -/
def IsSafeChar (c : Char) : Prop := ('a' ≤ c ∧ c ≤ 'z') ∨ ('0' ≤ c ∧ c ≤ '9') ∨ c = '_'

instance (c : Char) : Decidable (IsSafeChar c) :=
  inferInstanceAs (Decidable (_ ∨ _ ∨ _))

theorem isSafeChar_iff :
    IsSafeChar c ↔ c.isLower = true ∨ c.isDigit = true ∨ c = '_' := by
  rw [Text.isLower_iff, Text.isDigit_iff]
  rfl

theorem toLower_of_isDigit (digit : c.isDigit = true) : c.toLower = c := by
  refine Text.toLower_of_not_isUpper fun upper => ?_
  have low := Text.isDigit_iff.mp digit
  have high := Text.isUpper_iff.mp upper
  omega

theorem toLower_of_isLower (lower : c.isLower = true) : c.toLower = c := by
  refine Text.toLower_of_not_isUpper fun upper => ?_
  have high := Text.isLower_iff.mp lower
  have low := Text.isUpper_iff.mp upper
  omega

theorem isAlphanum_of_isLower (lower : c.isLower = true) : c.isAlphanum = true :=
  Bool.or_eq_true_iff.mpr (.inl (Bool.or_eq_true_iff.mpr (.inr lower)))

theorem isLower_toLower (alpha : c.isAlpha = true) : c.toLower.isLower = true := by
  rcases Bool.or_eq_true_iff.mp alpha with upper | lower
  · have bounds := Text.isUpper_iff.mp upper
    rw [Text.isLower_iff, Text.toNat_toLower_of_isUpper upper]
    omega
  · rwa [toLower_of_isLower lower]

theorem safeChar_of_isAlphanum (letter : c.isAlphanum = true) : safeChar c = c.toLower :=
  if_pos letter

theorem safeChar_of_not_isAlphanum (mark : c.isAlphanum = false) : safeChar c = '_' :=
  if_neg (by simp [mark])

theorem isSafeChar_safeChar (c : Char) : IsSafeChar (safeChar c) := by
  rw [isSafeChar_iff]
  cases letter : c.isAlphanum with
  | false => exact .inr (.inr (safeChar_of_not_isAlphanum letter))
  | true =>
      rw [safeChar_of_isAlphanum letter]
      rcases Bool.or_eq_true_iff.mp letter with alpha | digit
      · exact .inl (isLower_toLower alpha)
      · exact .inr (.inl ((toLower_of_isDigit digit).symm ▸ digit))

theorem toLower_of_isSafeChar (safe : IsSafeChar c) : c.toLower = c := by
  rcases isSafeChar_iff.mp safe with lower | digit | rfl
  · exact toLower_of_isLower lower
  · exact toLower_of_isDigit digit
  · decide

theorem safeChar_of_isSafeChar (safe : IsSafeChar c) : safeChar c = c := by
  rcases isSafeChar_iff.mp safe with lower | digit | rfl
  · rw [safeChar_of_isAlphanum (isAlphanum_of_isLower lower), toLower_of_isLower lower]
  · have letter : c.isAlphanum = true := Bool.or_eq_true_iff.mpr (.inr digit)
    rw [safeChar_of_isAlphanum letter, toLower_of_isDigit digit]
  · decide

theorem safeChar_toLower (c : Char) : safeChar c.toLower = safeChar c := by
  by_cases upper : c.isUpper = true
  · have alpha : c.isAlpha = true := Bool.or_eq_true_iff.mpr (.inl upper)
    have lower := isLower_toLower alpha
    have letter : c.isAlphanum = true := Bool.or_eq_true_iff.mpr (.inl alpha)
    rw [safeChar_of_isAlphanum (isAlphanum_of_isLower lower), safeChar_of_isAlphanum letter,
      toLower_of_isLower lower]
  · rw [Text.toLower_of_not_isUpper upper]

/-- What folding makes of any name. -/
structure IsSafeName (name : String) : Prop where
  chars : ∀ c ∈ name.toList, IsSafeChar c
  first : name.toList.head? ≠ some '_'
  last : name.toList.getLast? ≠ some '_'

theorem toList_safeName (name : String) :
    (safeName name).toList = Text.trim (· = '_') (name.toList.map safeChar) := by
  rw [safeName, String.toList_ofList]

theorem isSafeName_safeName (name : String) : IsSafeName (safeName name) := by
  refine ⟨fun c inside => ?_, fun first => ?_, fun last => ?_⟩
  · rw [toList_safeName] at inside
    obtain ⟨d, -, rfl⟩ := List.mem_map.mp ((Text.trim_infix _ _).subset inside)
    exact isSafeChar_safeChar d
  · rw [toList_safeName] at first
    exact absurd (Text.head?_trim _ first) (by decide)
  · rw [toList_safeName] at last
    exact absurd (Text.getLast?_trim _ last) (by decide)

theorem safeName_of_isSafeName (safe : IsSafeName name) : safeName name = name := by
  have chars : name.toList.map safeChar = name.toList :=
    (List.map_congr_left fun c inside => safeChar_of_isSafeChar (safe.chars c inside)).trans
      (List.map_id _)
  refine String.toList_inj.mp ?_
  rw [toList_safeName, chars]
  refine Text.trim_eq_self (fun c first => ?_) fun c last => ?_
  · exact decide_eq_false fun same => safe.first (same ▸ first)
  · exact decide_eq_false fun same => safe.last (same ▸ last)

theorem length_safeName_le (name : String) : (safeName name).length ≤ name.length := by
  rw [← String.length_toList, toList_safeName, ← String.length_toList]
  exact (Text.trim_infix _ _).length_le.trans_eq (List.length_map safeChar)

/-- Folding tells no cases apart. -/
theorem safeName_of_foldCase (same : Text.foldCase name.toList = Text.foldCase other.toList) :
    safeName name = safeName other := by
  have folded : ∀ text : List Char, text.map safeChar = (Text.foldCase text).map safeChar := by
    intro text
    rw [Text.foldCase, List.map_map]
    exact List.map_congr_left fun c _ => (safeChar_toLower c).symm
  rw [safeName, safeName, folded, same, ← folded]

/-- Folding tells no characters apart that are neither letters nor digits. -/
theorem safeName_of_marks (before behind : String) (one : c.isAlphanum = false)
    (two : d.isAlphanum = false) : safeName (before ++ String.singleton c ++ behind) =
      safeName (before ++ String.singleton d ++ behind) := by
  simp [safeName, safeChar_of_not_isAlphanum one, safeChar_of_not_isAlphanum two]

theorem safeName_between (front : ∀ c ∈ lead.toList, c.isAlphanum = false)
    (back : ∀ c ∈ tail.toList, c.isAlphanum = false) :
    safeName (lead ++ name ++ tail) = safeName name := by
  have marks : ∀ {text : List Char}, (∀ c ∈ text, c.isAlphanum = false) →
      ∀ c ∈ text.map safeChar, decide (c = '_') = true := by
    intro text all c inside
    obtain ⟨d, mem, rfl⟩ := List.mem_map.mp inside
    exact decide_eq_true (safeChar_of_not_isAlphanum (all d mem))
  rw [safeName, String.toList_append, String.toList_append, List.map_append, List.map_append,
    Text.trim_between (marks front) (marks back), ← safeName]

theorem slash_not_mem_safeName (name : String) : '/' ∉ (safeName name).toList :=
  fun slash => absurd ((isSafeName_safeName name).chars '/' slash) (by decide)

namespace Parcel

/-- The name of the file for a parcel. -/
def fileName (p : Parcel) : String := s!"{safeName p.agent}.{p.extension}"

theorem pathIn_eq (p : Parcel) (root : String) : p.pathIn root = FilePath.join root p.fileName :=
  rfl

theorem toList_fileName (p : Parcel) :
    p.fileName.toList = (safeName p.agent).toList ++ '.' :: p.extension.toList := by
  simp only [fileName, String.toList_append, toString]
  exact List.append_assoc ..

end Parcel

namespace OutputForm

variable {form : OutputForm} {mode : CreateMode} {a b : Agent} {p q : Parcel} {root : String}

theorem parcel_eq_ok : form.parcel mode a = .ok p ↔ ∃ text,
    form.render mode a = .ok text ∧ p = ⟨a.qualifiedName, form.name, text⟩ := by
  rw [parcel, map_eq_ok]
  exact exists_congr fun text => and_congr_right fun _ => eq_comm

theorem parcel_eq_error {e : RenderError} :
    form.parcel mode a = .error e ↔ form.render mode a = .error e :=
  map_eq_error

theorem slash_not_mem_name (form : OutputForm) : '/' ∉ form.name.toList := by
  cases form <;> simp [name]

theorem three_le_length_name (form : OutputForm) : 3 ≤ form.name.toList.length := by
  cases form <;> simp [name]

theorem fileName_fileName (form : OutputForm) (agent text : String) :
    FileName (Parcel.fileName ⟨agent, form.name, text⟩) := by
  have letters := Parcel.toList_fileName ⟨agent, form.name, text⟩
  have long : 3 < (Parcel.fileName ⟨agent, form.name, text⟩).toList.length := by
    have extension := form.three_le_length_name
    rw [letters, List.length_append, List.length_cons]
    dsimp only
    omega
  have other : ∀ name : String, name.toList.length ≤ 3 →
      Parcel.fileName ⟨agent, form.name, text⟩ ≠ name :=
    fun name short same => absurd (same ▸ long) (Nat.not_lt.mpr short)
  refine ⟨other "" (by decide), fun slash => ?_, other "." (by decide), other ".." (by decide)⟩
  rw [letters, List.mem_append, List.mem_cons] at slash
  rcases slash with slash | slash | slash
  · exact slash_not_mem_safeName _ slash
  · cases slash
  · exact form.slash_not_mem_name slash

theorem fileName_of_parcel (rendered : form.parcel mode a = .ok p) : FileName p.fileName := by
  obtain ⟨text, -, rfl⟩ := parcel_eq_ok.mp rendered
  exact form.fileName_fileName _ text

/-- Two parcels of a form have one file exactly if their agents' names fold to one text. -/
theorem pathIn_eq_iff (rendered : form.parcel mode a = .ok p)
    (rendered' : form.parcel mode b = .ok q) : p.pathIn root = q.pathIn root ↔
      safeName a.qualifiedName = safeName b.qualifiedName := by
  have file := fileName_of_parcel rendered
  have file' := fileName_of_parcel rendered'
  obtain ⟨text, -, rfl⟩ := parcel_eq_ok.mp rendered
  obtain ⟨text', -, rfl⟩ := parcel_eq_ok.mp rendered'
  constructor
  · intro same
    have letters := congrArg String.toList (Route.join_inj file file' same)
    rw [Parcel.toList_fileName, Parcel.toList_fileName] at letters
    exact String.toList_injective (List.append_cancel_right letters)
  · intro same
    rw [Parcel.pathIn, Parcel.pathIn, same]

end OutputForm
end AgentManifest
