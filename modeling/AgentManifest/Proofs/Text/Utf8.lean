import AgentManifest.Text.Utf8

/-! The bytes of a text are read as that text. A character of one byte is the byte; of a longer one
the first byte tells the length, and each byte behind it adds six bits. Texts are ordered as their
bytes are. -/

namespace AgentManifest.Utf8

variable {low high : UInt8} {more value before seen n m : Nat} {read : List Char}
  {rest : List UInt8}

theorem secondByte_two : ∀ n < 32, 2 ≤ n →
    secondByte (.ofNat (n + 192)) = some (0x80, 0xBF, 0) := by
  decide

/-- Behind the least first byte there is no shorter form, and behind the fourteenth no surrogate. -/
theorem secondByte_three : ∀ n < 16, secondByte (.ofNat (n + 224)) =
    some (if n = 0 then 0xA0 else 0x80, if n = 13 then 0x9F else 0xBF, 1) := by
  decide

theorem secondByte_four : ∀ n < 5, secondByte (.ofNat (n + 240)) =
    some (if n = 0 then 0x90 else 0x80, if n = 4 then 0x8F else 0xBF, 2) := by
  decide

theorem firstBits_two : ∀ n < 32, firstBits (.ofNat (n + 192)) 0 = n := by decide

theorem firstBits_three : ∀ n < 16, firstBits (.ofNat (n + 224)) 1 = n := by decide

theorem firstBits_four : ∀ n < 8, firstBits (.ofNat (n + 240)) 2 = n := by decide

theorem toNat_behind (small : m < 64) : (UInt8.ofNat (m + 128)).toNat = m + 128 := by
  rw [UInt8.toNat_ofNat']
  omega

theorem decodeFrom_second (small : m < 64) (least : low.toNat ≤ m + 128)
    (most : m + 128 ≤ high.toNat) :
    decodeFrom (.second low high more value) before read (.ofNat (m + 128) :: rest) =
      match more with
      | 0 => decodeFrom .start (before + 2) (Char.ofNat (value * 64 + m) :: read) rest
      | more + 1 => decodeFrom (.tail 2 more (value * 64 + m)) before read rest := by
  have byte := toNat_behind small
  have within : (low ≤ UInt8.ofNat (m + 128) && UInt8.ofNat (m + 128) ≤ high) = true := by
    rw [Bool.and_eq_true, decide_eq_true_iff, decide_eq_true_iff, UInt8.le_iff_toNat_le,
      UInt8.le_iff_toNat_le, byte]
    exact ⟨least, most⟩
  have bits : (UInt8.ofNat (m + 128)).toNat % 64 = m := by omega
  cases more with
  | zero => rw [decodeFrom, if_pos within, bits]
  | succ more => rw [decodeFrom, if_pos within, bits]

theorem decodeFrom_tail (small : m < 64) :
    decodeFrom (.tail seen more value) before read (.ofNat (m + 128) :: rest) =
      match more with
      | 0 => decodeFrom .start (before + seen + 1) (Char.ofNat (value * 64 + m) :: read) rest
      | more + 1 => decodeFrom (.tail (seen + 1) more (value * 64 + m)) before read rest := by
  have byte := toNat_behind small
  have least : (0x80 : UInt8).toNat = 128 := rfl
  have most : (0xBF : UInt8).toNat = 191 := rfl
  have continues : isContinuation (.ofNat (m + 128)) = true := by
    rw [isContinuation, Bool.and_eq_true, decide_eq_true_iff, decide_eq_true_iff,
      UInt8.le_iff_toNat_le, UInt8.le_iff_toNat_le, byte]
    omega
  have bits : (UInt8.ofNat (m + 128)).toNat % 64 = m := by omega
  cases more with
  | zero => rw [decodeFrom, if_pos continues, bits]
  | succ more => rw [decodeFrom, if_pos continues, bits]

/-- A byte beyond ASCII begins a character if it tells how to go on. -/
theorem decodeFrom_first (least : 128 ≤ n) (most : n < 256)
    (told : secondByte (.ofNat n) = some (low, high, more)) :
    decodeFrom .start before read (.ofNat n :: rest) =
      decodeFrom (.second low high more (firstBits (.ofNat n) more)) before read rest := by
  have long : ¬ UInt8.ofNat n < 0x80 := by
    have limit : (0x80 : UInt8).toNat = 128 := rfl
    rw [UInt8.lt_iff_toNat_lt, UInt8.toNat_ofNat', limit]
    omega
  rw [decodeFrom, if_neg long, told]

section

variable {v : Nat}

theorem decodeFrom_one (most : v < 128) :
    decodeFrom .start before read (.ofNat v :: rest) =
      decodeFrom .start (before + 1) (Char.ofNat v :: read) rest := by
  have byte : (UInt8.ofNat v).toNat = v := by
    rw [UInt8.toNat_ofNat']
    omega
  have alone : UInt8.ofNat v < 0x80 := by
    rw [UInt8.lt_iff_toNat_lt, byte]
    exact most
  rw [decodeFrom, if_pos alone, byte]

theorem decodeFrom_two (least : 128 ≤ v) (most : v < 0x800) :
    decodeFrom .start before read (.ofNat (v / 64 % 32 + 192) :: .ofNat (v % 64 + 128) :: rest) =
      decodeFrom .start (before + 2) (Char.ofNat v :: read) rest := by
  have few : v / 64 % 32 < 32 := by omega
  have value : v / 64 % 32 * 64 + v % 64 = v := by omega
  have low : 128 ≤ v % 64 + 128 := by omega
  have high : v % 64 + 128 ≤ 191 := by omega
  rw [decodeFrom_first (by omega) (by omega) (secondByte_two _ few (by omega)), firstBits_two _ few,
    decodeFrom_second (by omega) low high]
  dsimp only
  rw [value]

/-- No character stands where the surrogates are, which is why the byte behind the fourteenth first
byte is in range. -/
theorem decodeFrom_three (least : 0x800 ≤ v) (most : v < 0x10000)
    (valid : v < 0xD800 ∨ 0xDFFF < v) :
    decodeFrom .start before read (.ofNat (v / 4096 % 16 + 224) :: .ofNat (v / 64 % 64 + 128)
        :: .ofNat (v % 64 + 128) :: rest) =
      decodeFrom .start (before + 3) (Char.ofNat v :: read) rest := by
  have few : v / 4096 % 16 < 16 := by omega
  have value : (v / 4096 % 16 * 64 + v / 64 % 64) * 64 + v % 64 = v := by omega
  have low : (if v / 4096 % 16 = 0 then 0xA0 else 0x80 : UInt8).toNat ≤ v / 64 % 64 + 128 := by
    split
    · show 160 ≤ _
      omega
    · exact Nat.le_add_left _ _
  have high : v / 64 % 64 + 128 ≤ (if v / 4096 % 16 = 13 then 0x9F else 0xBF : UInt8).toNat := by
    split
    · show _ ≤ 159
      omega
    · show _ ≤ 191
      omega
  rw [decodeFrom_first (by omega) (by omega) (secondByte_three _ few), firstBits_three _ few,
    decodeFrom_second (by omega) low high]
  dsimp only
  rw [decodeFrom_tail (by omega)]
  dsimp only
  rw [value]

theorem decodeFrom_four (least : 0x10000 ≤ v) (most : v < 0x110000) :
    decodeFrom .start before read (.ofNat (v / 262144 % 8 + 240) :: .ofNat (v / 4096 % 64 + 128)
        :: .ofNat (v / 64 % 64 + 128) :: .ofNat (v % 64 + 128) :: rest) =
      decodeFrom .start (before + 4) (Char.ofNat v :: read) rest := by
  have few : v / 262144 % 8 < 5 := by omega
  have value : ((v / 262144 % 8 * 64 + v / 4096 % 64) * 64 + v / 64 % 64) * 64 + v % 64 = v := by
    omega
  have low : (if v / 262144 % 8 = 0 then 0x90 else 0x80 : UInt8).toNat ≤ v / 4096 % 64 + 128 := by
    split
    · show 144 ≤ _
      omega
    · exact Nat.le_add_left _ _
  have high : v / 4096 % 64 + 128 ≤ (if v / 262144 % 8 = 4 then 0x8F else 0xBF : UInt8).toNat := by
    split
    · show _ ≤ 143
      omega
    · show _ ≤ 191
      omega
  rw [decodeFrom_first (by omega) (by omega) (secondByte_four _ few), firstBits_four _ (by omega),
    decodeFrom_second (by omega) low high]
  dsimp only
  rw [decodeFrom_tail (by omega)]
  dsimp only
  rw [decodeFrom_tail (by omega)]
  dsimp only
  rw [value]

end

theorem decodeFrom_char (c : Char) (before : Nat) (read : List Char) (rest : List UInt8) :
    decodeFrom .start before read (String.utf8EncodeChar c ++ rest) =
      decodeFrom .start (before + c.utf8Size) (c :: read) rest := by
  have valid : c.val.toNat < 0xD800 ∨ 0xDFFF < c.val.toNat ∧ c.val.toNat < 0x110000 := c.valid
  have whole : Char.ofNat c.val.toNat = c := Char.ofNat_toNat c
  rw [← String.length_utf8EncodeChar, String.utf8EncodeChar]
  generalize c.val.toNat = v at valid whole
  rw [← whole]
  split
  · exact decodeFrom_one (by omega)
  · split
    · exact decodeFrom_two (by omega) (by omega)
    · split
      · exact decodeFrom_three (by omega) (by omega) (by omega)
      · exact decodeFrom_four (by omega) (by omega)

theorem decodeFrom_chars (cs : List Char) (before : Nat) (read : List Char) (rest : List UInt8) :
    decodeFrom .start before read (cs.flatMap String.utf8EncodeChar ++ rest) =
      decodeFrom .start (before + (cs.flatMap String.utf8EncodeChar).length) (cs.reverse ++ read)
        rest := by
  induction cs generalizing before read with
  | nil => rfl
  | cons c cs ih =>
      rw [List.flatMap_cons, List.append_assoc, decodeFrom_char, ih, List.length_append,
        String.length_utf8EncodeChar, Nat.add_assoc, List.reverse_cons, List.append_assoc,
        List.singleton_append]

theorem toList_loop (bytes : ByteArray) (i : Nat) (read : List UInt8) :
    ByteArray.toList.loop bytes i read = read.reverse ++ bytes.data.toList.drop i := by
  fun_induction ByteArray.toList.loop bytes i read with
  | case1 i read inside ih =>
      have inside' : i < bytes.data.toList.length := by simpa using inside
      rw [ih, List.drop_eq_getElem_cons inside']
      simp [ByteArray.get!, inside]
  | case2 i read outside =>
      rw [List.drop_eq_nil_of_le (by simpa using Nat.le_of_not_lt outside), List.append_nil]

theorem toList_toUTF8 (text : String) :
    text.toUTF8.toList = text.toList.flatMap String.utf8EncodeChar := by
  have bytes : text.toUTF8 = (text.toList.flatMap String.utf8EncodeChar).toByteArray :=
    String.utf8Encode_toList.symm
  rw [bytes, ByteArray.toList, toList_loop, List.toList_data_toByteArray]
  rfl

/-- The bytes of a text are read as the text. -/
theorem decode_toUTF8 (text : String) : decode text.toUTF8.toList = .ok text := by
  rw [decode, toList_toUTF8, ← List.append_nil (text.toList.flatMap _), decodeFrom_chars, decodeFrom,
    List.append_nil, List.reverse_reverse]
  exact congrArg Except.ok String.ofList_toList

section Order

variable {n m v w : Nat} {x y : List UInt8}

theorem ofNat_cons_lt (small : m < 256) (less : n < m ∨ n = m ∧ x < y) :
    UInt8.ofNat n :: x < UInt8.ofNat m :: y := by
  rw [List.cons_lt_cons_iff]
  rcases less with less | ⟨rfl, less⟩
  · refine .inl (UInt8.lt_iff_toNat_lt.mpr ?_)
    rw [UInt8.toNat_ofNat', UInt8.toNat_ofNat']
    omega
  · exact .inr ⟨rfl, less⟩

/-- Behind equal first bytes the next ones decide. -/
theorem two_lt (less : v < w) (most : w < 0x800) :
    UInt8.ofNat (v / 64 % 32 + 192) :: UInt8.ofNat (v % 64 + 128) :: x <
      UInt8.ofNat (w / 64 % 32 + 192) :: UInt8.ofNat (w % 64 + 128) :: y := by
  refine ofNat_cons_lt (by omega) ?_
  by_cases first : v / 64 < w / 64
  · exact .inl (by omega)
  · exact .inr ⟨by omega, ofNat_cons_lt (by omega) (.inl (by omega))⟩

theorem three_lt (less : v < w) (most : w < 0x10000) :
    UInt8.ofNat (v / 4096 % 16 + 224) :: UInt8.ofNat (v / 64 % 64 + 128) ::
        UInt8.ofNat (v % 64 + 128) :: x <
      UInt8.ofNat (w / 4096 % 16 + 224) :: UInt8.ofNat (w / 64 % 64 + 128) ::
        UInt8.ofNat (w % 64 + 128) :: y := by
  refine ofNat_cons_lt (by omega) ?_
  by_cases first : v / 4096 < w / 4096
  · exact .inl (by omega)
  · refine .inr ⟨by omega, ofNat_cons_lt (by omega) ?_⟩
    by_cases second : v / 64 < w / 64
    · exact .inl (by omega)
    · exact .inr ⟨by omega, ofNat_cons_lt (by omega) (.inl (by omega))⟩

theorem four_lt (less : v < w) (most : w < 0x110000) :
    UInt8.ofNat (v / 262144 % 8 + 240) :: UInt8.ofNat (v / 4096 % 64 + 128) ::
        UInt8.ofNat (v / 64 % 64 + 128) :: UInt8.ofNat (v % 64 + 128) :: x <
      UInt8.ofNat (w / 262144 % 8 + 240) :: UInt8.ofNat (w / 4096 % 64 + 128) ::
        UInt8.ofNat (w / 64 % 64 + 128) :: UInt8.ofNat (w % 64 + 128) :: y := by
  refine ofNat_cons_lt (by omega) ?_
  by_cases first : v / 262144 < w / 262144
  · exact .inl (by omega)
  · refine .inr ⟨by omega, ofNat_cons_lt (by omega) ?_⟩
    by_cases second : v / 4096 < w / 4096
    · exact .inl (by omega)
    · refine .inr ⟨by omega, ofNat_cons_lt (by omega) ?_⟩
      by_cases third : v / 64 < w / 64
      · exact .inl (by omega)
      · exact .inr ⟨by omega, ofNat_cons_lt (by omega) (.inl (by omega))⟩

/-- The first byte of a longer form is greater than that of a shorter one. -/
theorem utf8EncodeChar_lt {c d : Char} (less : c < d) (x y : List UInt8) :
    String.utf8EncodeChar c ++ x < String.utf8EncodeChar d ++ y := by
  have less : c.val.toNat < d.val.toNat := less
  have most : d.val.toNat < 0x110000 := by
    have valid : d.val.toNat < 0xD800 ∨ 0xDFFF < d.val.toNat ∧ d.val.toNat < 0x110000 := d.valid
    omega
  rw [String.utf8EncodeChar, String.utf8EncodeChar]
  generalize c.val.toNat = v at less
  generalize d.val.toNat = w at less most
  by_cases one : v ≤ 127
  · rw [if_pos one]
    repeat' split
    all_goals exact ofNat_cons_lt (by omega) (.inl (by omega))
  · rw [if_neg one, if_neg (show ¬ w ≤ 127 by omega)]
    by_cases two : v ≤ 2047
    · rw [if_pos two]
      split
      · exact two_lt less (by omega)
      · split
        all_goals exact ofNat_cons_lt (by omega) (.inl (by omega))
    · rw [if_neg two, if_neg (show ¬ w ≤ 2047 by omega)]
      by_cases three : v ≤ 65535
      · rw [if_pos three]
        split
        · exact three_lt less (by omega)
        · exact ofNat_cons_lt (by omega) (.inl (by omega))
      · rw [if_neg three, if_neg (show ¬ w ≤ 65535 by omega)]
        exact four_lt less most

theorem flatMap_utf8EncodeChar_lt {a b : List Char} (less : a < b) :
    a.flatMap String.utf8EncodeChar < b.flatMap String.utf8EncodeChar := by
  induction less with
  | nil =>
      rename_i d rest
      obtain ⟨byte, bytes, form⟩ := List.exists_cons_of_ne_nil (String.utf8EncodeChar_ne_nil (c := d))
      rw [List.flatMap_cons, form]
      exact List.Lex.nil
  | rel less => exact utf8EncodeChar_lt less _ _
  | cons _ ih => exact List.append_left_lt ih

/-- The order of texts is the order of their bytes. -/
theorem toUTF8_lt {a b : String} (less : a < b) : a.toUTF8.toList < b.toUTF8.toList := by
  rw [toList_toUTF8, toList_toUTF8]
  exact flatMap_utf8EncodeChar_lt less

end Order

end AgentManifest.Utf8
