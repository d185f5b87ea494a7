import AgentManifest.Json.Reader
import AgentManifest.Proofs.Json.WellFormed
import AgentManifest.Proofs.Outcome

/-! Trees read from JSON text are well-formed: a significand that is kept as an integer has been
held to 64 bits digit by digit, and every other number is rounded to binary64. -/

namespace AgentManifest

theorem spelled_append {first second : String} {before behind : List Char}
    (one : first = String.ofList before) (two : second = String.ofList behind) :
    first ++ second = String.ofList (before ++ behind) := by
  rw [one, two, String.ofList_append]

namespace Json

namespace Reader

variable {negative : Bool} {significand skipped : Nat} {exponent : Int} {c c' : Cursor} {n : Number}

theorem significandDigits_lt {taken offset : Nat} {text : List Char}
    (small : significand < 0x10000000000000000) :
    (significandDigits significand taken text offset).1 < 0x10000000000000000 := by
  induction text generalizing significand taken offset with
  | nil => exact small
  | cons ch rest ih =>
      unfold significandDigits
      split
      · split
        next fits => exact ih fits
        next => exact small
      · exact small

theorem scaled_stored (read : scaled negative significand exponent c = .ok (n, c')) : n.Stored := by
  unfold scaled at read
  split at read
  · cases read
    trivial
  · cases read

theorem exponentPart_stored (read : exponentPart negative significand exponent c = .ok (n, c')) :
    n.Stored := by
  unfold exponentPart at read
  split at read
  split at read
  · cases read
  · split at read
    · cases read
    · split at read
      split at read
      · split at read
        · cases read
        · cases read
          trivial
      · exact scaled_stored read

theorem exponentOrEnd_stored (read : exponentOrEnd negative significand exponent c = .ok (n, c')) :
    n.Stored := by
  unfold exponentOrEnd at read
  split at read
  · exact exponentPart_stored read
  · exact exponentPart_stored read
  · exact scaled_stored read

theorem fractionPart_stored (read : fractionPart negative significand exponent c = .ok (n, c')) :
    n.Stored := by
  simp only [fractionPart] at read
  split at read
  · split at read <;> cases read
  · exact exponentOrEnd_stored read

theorem numberTail_stored (small : significand < 0x10000000000000000)
    (read : numberTail negative significand skipped c = .ok (n, c')) : n.Stored := by
  unfold numberTail at read
  split at read
  · exact fractionPart_stored read
  · exact exponentPart_stored read
  · exact exponentPart_stored read
  · split at read
    · exact scaled_stored read
    · split at read
      · cases read
        refine Number.fits_iff.mpr ?_
        omega
      · split at read
        · exact scaled_stored read
        · cases read
          refine Number.fits_iff.mpr ?_
          omega

theorem number_stored (read : number negative c = .ok (n, c')) : n.Stored := by
  simp only [number] at read
  split at read
  · cases read
  · split at read
    · cases read
    · exact numberTail_stored (by decide) read
  · split at read
    · cases read
    · exact numberTail_stored (significandDigits_lt (by decide)) read

variable {rule : KeyRule}

theorem value_storable (fuel : Nat) :
    (∀ {depth : Nat} {c c' : Cursor} {v : Json},
      value rule fuel depth c = .ok (v, c') → v.Storable) ∧
    (∀ {depth : Nat} {first : Bool} {c c' : Cursor} {vs : List Json},
      elements rule fuel depth first c = .ok (vs, c') → ∀ v ∈ vs, v.Storable) ∧
    (∀ {depth : Nat} {first : Bool} {seen : List String} {c c' : Cursor} {ms : Members},
      members rule fuel depth first seen c = .ok (ms, c') → ∀ m ∈ ms, m.2.Storable) := by
  induction fuel with
  | zero =>
      refine ⟨fun read => ?_, fun read => ?_, fun read => ?_⟩
      · simp [value, failAt] at read
      · simp [elements, failAt] at read
      · simp [members, failAt] at read
  | succ fuel ih =>
      obtain ⟨ihValue, ihElements, ihMembers⟩ := ih
      refine ⟨fun read => ?_, fun read => ?_, fun read => ?_⟩
      · simp only [value] at read
        split at read
        · cases read
        · simp only [bind_eq_ok] at read
          obtain ⟨behind, word, same⟩ := read
          cases same
          exact .null
        · simp only [bind_eq_ok] at read
          obtain ⟨behind, word, same⟩ := read
          cases same
          exact .bool true
        · simp only [bind_eq_ok] at read
          obtain ⟨behind, word, same⟩ := read
          cases same
          exact .bool false
        · simp only [bind_eq_ok] at read
          obtain ⟨⟨n, behind⟩, readNumber, same⟩ := read
          cases same
          exact .number (number_stored readNumber)
        · simp only [bind_eq_ok] at read
          obtain ⟨⟨s, behind⟩, readString, same⟩ := read
          cases same
          exact .string s
        · split at read
          · cases read
          · simp only [bind_eq_ok] at read
            obtain ⟨⟨vs, behind⟩, readElements, same⟩ := read
            cases same
            exact .array (ihElements readElements)
        · split at read
          · cases read
          · simp only [bind_eq_ok] at read
            obtain ⟨⟨ms, behind⟩, readMembers, same⟩ := read
            cases same
            exact .object (ihMembers readMembers)
        · split at read
          · simp only [bind_eq_ok] at read
            obtain ⟨⟨n, behind⟩, readNumber, same⟩ := read
            cases same
            exact .number (number_stored readNumber)
          · cases read
      · simp only [elements, bind_eq_ok] at read
        obtain ⟨next, found, read⟩ := read
        split at read
        · cases read
          simp
        · simp only [bind_eq_ok] at read
          obtain ⟨⟨v, behind⟩, readValue, ⟨vs, end_⟩, readRest, same⟩ := read
          cases same
          exact List.forall_mem_cons.mpr ⟨ihValue readValue, ihElements readRest⟩
      · simp only [members, bind_eq_ok] at read
        obtain ⟨next, found, read⟩ := read
        split at read
        · cases read
          simp
        · simp only [bind_eq_ok] at read
          obtain ⟨⟨key, behind⟩, readKey, read⟩ := read
          split at read
          · cases read
          · simp only [bind_eq_ok] at read
            obtain ⟨start, colon, ⟨v, behind⟩, readValue, ⟨ms, end_⟩, readRest, same⟩ := read
            cases same
            exact List.forall_mem_cons.mpr ⟨ihValue readValue, ihMembers readRest⟩

theorem document_storable {text : String} {v : Json} (read : document rule text = .ok v) :
    v.Storable := by
  simp only [document, bind_eq_ok] at read
  obtain ⟨⟨w, c⟩, readValue, ended⟩ := read
  split at ended
  · cases ended
    exact (value_storable _).1 readValue
  · cases ended

/-- Reads characters as one value, its objects as they are written. -/
def documentOf (rule : KeyRule) (chars : List Char) : Except Located Json := do
  let (v, c) ← value rule (2 * chars.length + 2) depthLimit ⟨chars, 0⟩
  let c := skipBlanks c
  if c.rest.isEmpty then .ok v else failNext c .trailingCharacters

theorem document_ofList (rule : KeyRule) (chars : List Char) :
    document rule (String.ofList chars) = documentOf rule chars := by
  rw [document, Cursor.ofString, String.toList_ofList]
  rfl

end Reader

/-- A text that is known is best read by its characters. -/
theorem parse_chars {text : String} {chars : List Char} {v : Json}
    (spelled : text = String.ofList chars)
    (parsed : Reader.documentOf .lastWins chars = .ok v) : parse text = .ok v.canonical := by
  rw [parse, spelled, Reader.document_ofList, parsed]

theorem wellFormed_of_parse {text : String} {v : Json} (read : parse text = .ok v) :
    v.WellFormed := by
  unfold parse at read
  split at read
  next tree document =>
    cases read
    exact wellFormed_canonical (Reader.document_storable document)
  next => cases read

theorem wellFormed_of_parseDistinct {text : String} {v : Json} (read : parseDistinct text = .ok v) :
    v.WellFormed := by
  unfold parseDistinct at read
  split at read
  next tree document =>
    cases read
    exact wellFormed_canonical (Reader.document_storable document)
  next => cases read

end Json
end AgentManifest
