import Mathlib.Data.List.Basic
import AgentManifest.Proofs.Outcome
import AgentManifest.Proofs.Text.Utf8

/-! Bytes that are no text. From one character to the next there is a whole character or a fault,
and a fault is told with the place where its character begins; so it stands right behind the longest
text that the bytes begin with. -/

namespace AgentManifest.Utf8

variable {low high b x y z : UInt8} {more value seen n m : Nat} {bytes rest : List UInt8}
  {fault : Fault}

/-- A byte behind the first one of a character. -/
def Continues (b : UInt8) : Prop := 0x80 ≤ b.toNat ∧ b.toNat ≤ 0xBF

theorem isContinuation_iff : isContinuation b = true ↔ Continues b := by
  rw [isContinuation, Bool.and_eq_true, decide_eq_true_iff, decide_eq_true_iff,
    UInt8.le_iff_toNat_le, UInt8.le_iff_toNat_le]
  rfl

/-- What a first byte tells, by the number of bytes behind the second one: there is no shorter form
of the character, no surrogate and nothing beyond the last character. -/
inductive Tells (b low high : UInt8) : Nat → Prop
  | two : 0xC2 ≤ b.toNat → b.toNat ≤ 0xDF → 0x80 ≤ low.toNat → high.toNat ≤ 0xBF →
      Tells b low high 0
  | three : 0xE0 ≤ b.toNat → b.toNat ≤ 0xEF → 0x80 ≤ low.toNat → high.toNat ≤ 0xBF →
      (b.toNat = 0xE0 → 0xA0 ≤ low.toNat) → (b.toNat = 0xED → high.toNat ≤ 0x9F) →
      Tells b low high 1
  | four : 0xF0 ≤ b.toNat → b.toNat ≤ 0xF4 → 0x80 ≤ low.toNat → high.toNat ≤ 0xBF →
      (b.toNat = 0xF0 → 0x90 ≤ low.toNat) → (b.toNat = 0xF4 → high.toNat ≤ 0x8F) →
      Tells b low high 2

theorem tells_of_secondByte (told : secondByte b = some (low, high, more)) :
    Tells b low high more := by
  simp only [secondByte, Bool.and_eq_true, decide_eq_true_eq, beq_iff_eq, UInt8.le_iff_toNat_le,
    ← UInt8.toNat_inj, UInt8.reduceToNat] at told
  split at told
  · cases told
    exact .two (by omega) (by omega) (by decide) (by decide)
  split at told
  · cases told
    exact .three (by omega) (by omega) (by decide) (by decide) (fun _ => by decide) (by omega)
  split at told
  · cases told
    exact .three (by omega) (by omega) (by decide) (by decide) (by omega) (fun _ => by decide)
  split at told
  · cases told
    exact .three (by omega) (by omega) (by decide) (by decide) (by omega) (by omega)
  split at told
  · cases told
    exact .four (by omega) (by omega) (by decide) (by decide) (fun _ => by decide) (by omega)
  split at told
  · cases told
    exact .four (by omega) (by omega) (by decide) (by decide) (by omega) (fun _ => by decide)
  split at told
  · cases told
    exact .four (by omega) (by omega) (by decide) (by decide) (by omega) (by omega)
  · cases told

theorem toNat_ofNat (valid : n < 0xD800 ∨ 0xDFFF < n ∧ n < 0x110000) :
    (Char.ofNat n).val.toNat = n := by
  rw [Char.ofNat, dif_pos valid]
  rfl

theorem ofNat_eq (b : UInt8) (same : n = b.toNat) : UInt8.ofNat n = b := by
  rw [same, UInt8.ofNat_toNat]

theorem encoded_one (alone : b.toNat < 0x80) :
    String.utf8EncodeChar (Char.ofNat b.toNat) = [b] := by
  rw [String.utf8EncodeChar, toNat_ofNat (by omega), if_pos (by omega), ofNat_eq b rfl]

theorem encoded_two (least : 0xC2 ≤ b.toNat) (most : b.toNat ≤ 0xDF) (second : Continues x) :
    String.utf8EncodeChar (Char.ofNat (b.toNat % 32 * 64 + x.toNat % 64)) = [b, x] := by
  obtain ⟨low, high⟩ := second
  rw [String.utf8EncodeChar, toNat_ofNat (by omega), if_neg (by omega), if_pos (by omega),
    ofNat_eq b (by omega), ofNat_eq x (by omega)]

/-- The second byte keeps clear of the shorter forms and of the surrogates. -/
theorem encoded_three (least : 0xE0 ≤ b.toNat) (most : b.toNat ≤ 0xEF) (second : Continues x)
    (third : Continues y) (long : b.toNat = 0xE0 → 0xA0 ≤ x.toNat)
    (whole : b.toNat = 0xED → x.toNat ≤ 0x9F) :
    String.utf8EncodeChar
      (Char.ofNat ((b.toNat % 16 * 64 + x.toNat % 64) * 64 + y.toNat % 64)) = [b, x, y] := by
  obtain ⟨low, high⟩ := second
  obtain ⟨low', high'⟩ := third
  rw [String.utf8EncodeChar, toNat_ofNat (by omega), if_neg (by omega), if_neg (by omega),
    if_pos (by omega), ofNat_eq b (by omega), ofNat_eq x (by omega), ofNat_eq y (by omega)]

theorem encoded_four (least : 0xF0 ≤ b.toNat) (most : b.toNat ≤ 0xF4) (second : Continues x)
    (third : Continues y) (fourth : Continues z) (long : b.toNat = 0xF0 → 0x90 ≤ x.toNat)
    (last : b.toNat = 0xF4 → x.toNat ≤ 0x8F) :
    String.utf8EncodeChar (Char.ofNat
      (((b.toNat % 8 * 64 + x.toNat % 64) * 64 + y.toNat % 64) * 64 + z.toNat % 64)) =
        [b, x, y, z] := by
  obtain ⟨low, high⟩ := second
  obtain ⟨low', high'⟩ := third
  obtain ⟨low'', high''⟩ := fourth
  rw [String.utf8EncodeChar, toNat_ofNat (by omega), if_neg (by omega), if_neg (by omega),
    if_neg (by omega), ofNat_eq b (by omega), ofNat_eq x (by omega), ofNat_eq y (by omega),
    ofNat_eq z (by omega)]

/-- A first byte with as many bytes behind it as it asks for, in its range, is a character. -/
theorem exists_encoded {tail : List UInt8} (tells : Tells b low high more) (least : low ≤ x)
    (most : x ≤ high) (long : tail.length = more) (all : ∀ y ∈ tail, Continues y) :
    ∃ c, b :: x :: tail = String.utf8EncodeChar c := by
  rw [UInt8.le_iff_toNat_le] at least most
  cases tells with
  | two first last bottom top =>
      obtain rfl := List.eq_nil_of_length_eq_zero long
      have second : Continues x := ⟨by omega, by omega⟩
      exact ⟨_, (encoded_two first last second).symm⟩
  | three first last bottom top short surrogate =>
      obtain ⟨y, rfl⟩ := List.length_eq_one_iff.mp long
      have second : Continues x := ⟨by omega, by omega⟩
      exact ⟨_, (encoded_three first last second (all y (by simp)) (by omega) (by omega)).symm⟩
  | four first last bottom top short beyond =>
      obtain ⟨y, z, rfl⟩ := List.length_eq_two.mp long
      have second : Continues x := ⟨by omega, by omega⟩
      exact ⟨_, (encoded_four first last second (all y (by simp)) (all z (by simp)) (by omega)
        (by omega)).symm⟩

/-- Reading on from a state ends in a fault, whatever has been read before. -/
def Breaks (state : State) (bytes : List UInt8) : Prop :=
  ∃ badLength, ∀ before read, decodeFrom state before read bytes = .error ⟨before, badLength⟩

/-- Behind the second byte there are as many bytes that continue the character as it needs, or it
breaks. -/
theorem tail_cases (seen more value : Nat) (bytes : List UInt8) :
    (∃ tail rest, bytes = tail ++ rest ∧ tail.length = more + 1 ∧ ∀ b ∈ tail, Continues b) ∨
      Breaks (.tail seen more value) bytes := by
  induction more generalizing seen value bytes with
  | zero =>
      match bytes with
      | [] => exact .inr ⟨none, fun _ _ => rfl⟩
      | b :: rest =>
          by_cases continues : isContinuation b = true
          · exact .inl ⟨[b], rest, rfl, rfl,
              List.forall_mem_singleton.mpr (isContinuation_iff.mp continues)⟩
          · exact .inr ⟨some seen, fun _ _ => by rw [decodeFrom, if_neg continues]⟩
  | succ more ih =>
      match bytes with
      | [] => exact .inr ⟨none, fun _ _ => rfl⟩
      | b :: rest =>
          by_cases continues : isContinuation b = true
          · rcases ih (seen + 1) (value * 64 + b.toNat % 64) rest with
              ⟨tail, behind, rfl, long, all⟩ | ⟨badLength, broken⟩
            · exact .inl ⟨b :: tail, behind, rfl, congrArg (· + 1) long,
                List.forall_mem_cons.mpr ⟨isContinuation_iff.mp continues, all⟩⟩
            · refine .inr ⟨badLength, fun before read => ?_⟩
              rw [decodeFrom, if_pos continues]
              exact broken before read
          · exact .inr ⟨some seen, fun _ _ => by rw [decodeFrom, if_neg continues]⟩

/-- The second byte is one of those that the first byte asks for. -/
theorem second_cases (low high : UInt8) (more value : Nat) (bytes : List UInt8) :
    (∃ x tail rest, bytes = x :: (tail ++ rest) ∧ low ≤ x ∧ x ≤ high ∧ tail.length = more ∧
      ∀ b ∈ tail, Continues b) ∨ Breaks (.second low high more value) bytes := by
  match bytes with
  | [] => exact .inr ⟨none, fun _ _ => rfl⟩
  | x :: rest =>
      by_cases within : (low ≤ x && x ≤ high) = true
      · obtain ⟨least, most⟩ : low ≤ x ∧ x ≤ high := by simpa using within
        match more with
        | 0 => exact .inl ⟨x, [], rest, rfl, least, most, rfl, nofun⟩
        | more + 1 =>
            rcases tail_cases 2 more (value * 64 + x.toNat % 64) rest with
              ⟨tail, behind, rfl, long, all⟩ | ⟨badLength, broken⟩
            · exact .inl ⟨x, tail, behind, rfl, least, most, long, all⟩
            · refine .inr ⟨badLength, fun before read => ?_⟩
              rw [decodeFrom, if_pos within]
              exact broken before read
      · exact .inr ⟨some 1, fun _ _ => by rw [decodeFrom, if_neg within]⟩

/-- Bytes that are left to be read begin with a character, or break. -/
theorem start_cases (bytes : List UInt8) : bytes = [] ∨
    (∃ c rest, bytes = String.utf8EncodeChar c ++ rest) ∨ Breaks .start bytes := by
  match bytes with
  | [] => exact .inl rfl
  | b :: rest =>
      refine .inr ?_
      by_cases alone : b < 0x80
      · exact .inl ⟨_, rest, congrArg (· ++ rest) (encoded_one alone).symm⟩
      cases told : secondByte b with
      | none =>
          refine .inr ⟨some 1, fun before read => ?_⟩
          rw [decodeFrom, if_neg alone, told]
      | some second =>
          obtain ⟨low, high, more⟩ := second
          have go : ∀ before read, decodeFrom .start before read (b :: rest) =
              decodeFrom (.second low high more (firstBits b more)) before read rest := by
            intro before read
            rw [decodeFrom, if_neg alone, told]
          rcases second_cases low high more (firstBits b more) rest with
            ⟨x, tail, behind, rfl, least, most, long, all⟩ | ⟨badLength, broken⟩
          · obtain ⟨c, encoded⟩ := exists_encoded (tells_of_secondByte told) least most long all
            exact .inl ⟨c, behind, congrArg (· ++ behind) encoded⟩
          · exact .inr ⟨badLength, fun before read => (go before read).trans (broken before read)⟩

/-- Reading goes over characters, and then to the end or to a fault. -/
theorem exists_chars (bytes : List UInt8) : ∃ chars : List Char, ∃ rest,
    bytes = chars.flatMap String.utf8EncodeChar ++ rest ∧ (rest = [] ∨ Breaks .start rest) := by
  rcases start_cases bytes with rfl | ⟨c, rest, same⟩ | breaks
  · exact ⟨[], [], rfl, .inl rfl⟩
  · have one := List.length_pos_of_ne_nil (String.utf8EncodeChar_ne_nil (c := c))
    have shorter : rest.length < bytes.length := by
      rw [same, List.length_append]
      omega
    obtain ⟨chars, behind, whole, ends⟩ := exists_chars rest
    exact ⟨c :: chars, behind, by rw [same, whole, List.flatMap_cons, List.append_assoc], ends⟩
  · exact ⟨[], bytes, rfl, .inr breaks⟩
termination_by bytes.length

/-- Bytes that are those of a text. -/
def IsText (bytes : List UInt8) : Prop := ∃ text : String, text.toUTF8.toList = bytes

theorem isText_iff :
    IsText bytes ↔ ∃ chars : List Char, bytes = chars.flatMap String.utf8EncodeChar := by
  constructor
  · rintro ⟨text, rfl⟩
    exact ⟨text.toList, toList_toUTF8 text⟩
  · rintro ⟨chars, rfl⟩
    exact ⟨String.ofList chars, by rw [toList_toUTF8, String.toList_ofList]⟩

/-- What is read is a text, and a text is read. -/
theorem isText_iff_decode : IsText bytes ↔ ∃ text, decode bytes = .ok text := by
  constructor
  · rintro ⟨text, rfl⟩
    exact ⟨text, decode_toUTF8 text⟩
  · rintro ⟨text, read⟩
    obtain ⟨chars, rest, rfl, rfl | ⟨badLength, broken⟩⟩ := exists_chars bytes
    · exact isText_iff.mpr ⟨chars, List.append_nil _⟩
    · rw [decode, decodeFrom_chars, broken] at read
      cases read

/-- A fault stands behind what has been read. -/
theorem le_validUpTo {before : Nat} {read : List Char}
    (failed : decodeFrom .start before read bytes = .error fault) : before ≤ fault.validUpTo := by
  obtain ⟨chars, rest, rfl, rfl | ⟨badLength, broken⟩⟩ := exists_chars bytes
  · rw [decodeFrom_chars, decodeFrom] at failed
    cases failed
  · rw [decodeFrom_chars, broken] at failed
    cases failed
    exact Nat.le_add_right ..

/-- The first bytes are a text, and more of them are none. -/
structure LongestText (bytes : List UInt8) (n : Nat) : Prop where
  inside : n ≤ bytes.length
  text : IsText (bytes.take n)
  longest : ∀ m ≤ bytes.length, IsText (bytes.take m) → m ≤ n

theorem longestText_of_decode (failed : decode bytes = .error fault) :
    LongestText bytes fault.validUpTo := by
  have stopped := map_eq_error.mp failed
  obtain ⟨chars, rest, whole, ends⟩ := exists_chars bytes
  have place : fault.validUpTo = (chars.flatMap String.utf8EncodeChar).length := by
    rw [whole, decodeFrom_chars] at stopped
    rcases ends with rfl | ⟨badLength, broken⟩
    · cases stopped
    · rw [broken, Nat.zero_add] at stopped
      cases stopped
      rfl
  refine ⟨?_, ?_, fun m inside text => ?_⟩
  · rw [place, whole, List.length_append]
    exact Nat.le_add_right ..
  · rw [place, whole, List.take_left]
    exact isText_iff.mpr ⟨chars, rfl⟩
  · -- What reading goes over first is in front of the fault.
    obtain ⟨first, same⟩ := isText_iff.mp text
    rw [← List.take_append_drop m bytes, same, decodeFrom_chars, ← same, List.length_take,
      Nat.min_eq_left inside, Nat.zero_add] at stopped
    exact le_validUpTo stopped

end AgentManifest.Utf8
