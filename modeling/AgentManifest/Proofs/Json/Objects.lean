import AgentManifest.Proofs.Json.Distinct
import AgentManifest.Proofs.Json.Grammar
import AgentManifest.Proofs.Json.Places

/-! The objects of a JSON text. What the reader reads is what the grammar has at the front of the
text, and the grammar has nothing else there. So the objects of the tree, with their members as they
are written, are the objects of the text. -/

namespace AgentManifest.Json

open Grammar

mutual

/-- The keys of the objects of a tree, one list for each object. -/
def objectKeys : Json → List (List String)
  | .array elements => elementKeys elements
  | .object members => members.map (·.1) :: memberKeys members
  | _ => []

def elementKeys : List Json → List (List String)
  | [] => []
  | v :: rest => objectKeys v ++ elementKeys rest

def memberKeys : List (String × Json) → List (List String)
  | [] => []
  | (_, v) :: rest => objectKeys v ++ memberKeys rest

end

theorem elementKeys_eq (elements : List Json) :
    elementKeys elements = elements.flatMap objectKeys := by
  induction elements with
  | nil => rfl
  | cons v rest ih => rw [elementKeys, ih, List.flatMap_cons]

theorem memberKeys_eq (members : Members) :
    memberKeys members = members.flatMap fun member => member.2.objectKeys := by
  induction members with
  | nil => rfl
  | cons member rest ih => rw [memberKeys, ih, List.flatMap_cons]

/-- No object of a tree gives a key twice if the keys of each object are distinct. -/
theorem not_repeats_iff {v : Json} : ¬ v.Repeats ↔ ∀ keys ∈ v.objectKeys, keys.Nodup := by
  induction v using induction_on_parts with
  | step v ih =>
      cases v with
      | array elements =>
          simp only [not_repeats_array, objectKeys, elementKeys_eq, List.forall_mem_flatMap]
          exact forall₂_congr fun v inside => ih v (.element inside)
      | object members =>
          simp only [not_repeats_object, objectKeys, memberKeys_eq, List.forall_mem_cons,
            List.forall_mem_flatMap]
          refine and_congr_right fun _ => forall₂_congr fun member inside => ?_
          exact ih member.2 (.member inside)
      | null | bool _ | number _ | string _ => simp [objectKeys]

namespace Grammar

variable {cs rest rest' meant meant' : List Char} {ch ch' : Char}

theorem shortEscapes_unique {mark : Char} (known : (mark, ch) ∈ shortEscapes)
    (known' : (mark, ch') ∈ shortEscapes) : ch = ch' ∧ mark ≠ 'u' := by
  have table : ∀ entry ∈ shortEscapes, entry.1 ≠ 'u' ∧
      ∀ other ∈ shortEscapes, entry.1 = other.1 → entry.2 = other.2 := by decide
  exact ⟨(table _ known).2 _ known' rfl, (table _ known).1⟩

theorem Escape.unique (escape : Escape cs ch rest) (escape' : Escape cs ch' rest') :
    ch = ch' ∧ rest = rest' := by
  cases escape with
  | short known =>
      cases escape' with
      | short known' => exact ⟨(shortEscapes_unique known known').1, rfl⟩
      | unit | pair => exact absurd rfl (shortEscapes_unique known known).2
  | unit hex whole =>
      cases escape' with
      | short known => exact absurd rfl (shortEscapes_unique known known).2
      | unit hex' =>
          cases hex.symm.trans hex'
          exact ⟨rfl, rfl⟩
      | pair first _ highHalf =>
          cases hex.symm.trans first
          omega
  | pair first second highHalf =>
      cases escape' with
      | short known => exact absurd rfl (shortEscapes_unique known known).2
      | unit hex whole =>
          cases first.symm.trans hex
          omega
      | pair first' second' =>
          cases first.symm.trans first'
          cases second.symm.trans second'
          exact ⟨rfl, rfl⟩

theorem Content.unique (content : Content cs meant rest) (content' : Content cs meant' rest') :
    meant = meant' ∧ rest = rest' := by
  induction content generalizing meant' with
  | close =>
      cases content' with
      | close => exact ⟨rfl, rfl⟩
      | plain noQuote => exact absurd rfl noQuote
  | plain noQuote noEscape _ _ ih =>
      cases content' with
      | close => exact absurd rfl noQuote
      | plain _ _ _ more =>
          obtain ⟨rfl, rfl⟩ := ih more
          exact ⟨rfl, rfl⟩
      | escaped => exact absurd rfl noEscape
  | escaped escape _ ih =>
      cases content' with
      | plain _ noEscape => exact absurd rfl noEscape
      | escaped escape' more =>
          obtain ⟨rfl, rfl⟩ := escape.unique escape'
          obtain ⟨rfl, rfl⟩ := ih more
          exact ⟨rfl, rfl⟩

theorem value_iff {objects : List (List String)} : Value cs objects rest ↔
    objects = [] ∧ (∃ word ∈ words, cs = word ++ rest) ∨
    objects = [] ∧ behindNumber? cs = some rest ∨
    objects = [] ∧ (∃ tail, cs = '-' :: tail ∧ behindNumber? tail = some rest) ∨
    objects = [] ∧ (∃ tail meant, cs = '"' :: tail ∧ Content tail meant rest) ∨
    (∃ tail, cs = '[' :: tail ∧ Elements true tail objects rest) ∨
    ∃ tail keys inner, cs = '{' :: tail ∧ objects = keys :: inner ∧
      Members true tail keys inner rest := by
  constructor
  · rintro (⟨known, split⟩ | number | number | content | elements | members)
    · exact .inl ⟨rfl, _, known, split⟩
    · exact .inr (.inl ⟨rfl, number⟩)
    · exact .inr (.inr (.inl ⟨rfl, _, rfl, number⟩))
    · exact .inr (.inr (.inr (.inl ⟨rfl, _, _, rfl, content⟩)))
    · exact .inr (.inr (.inr (.inr (.inl ⟨_, rfl, elements⟩))))
    · exact .inr (.inr (.inr (.inr (.inr ⟨_, _, _, rfl, rfl, members⟩))))
  · rintro (⟨rfl, word, known, split⟩ | ⟨rfl, number⟩ | ⟨rfl, tail, rfl, number⟩ |
      ⟨rfl, tail, meant, rfl, content⟩ | ⟨tail, rfl, elements⟩ |
      ⟨tail, keys, inner, rfl, rfl, members⟩)
    · exact .word known split
    · exact .number number
    · exact .negative number
    · exact .string content
    · exact .array elements
    · exact .object members

variable {first : Bool} {start tail source valueStart : List Char} {objects : List (List String)}
variable {keys : List String}

theorem behindNumber?_eq_none (other : isDigit ch = false) : behindNumber? (ch :: rest) = none := by
  have noDigits : behindDigits? (ch :: rest) = none := by simp [behindDigits?, other]
  have noWhole : behindWhole? (ch :: rest) = none := by
    unfold behindWhole?
    split
    next zero =>
      cases zero
      cases other
    next => exact noDigits
  rw [behindNumber?, noWhole]
  rfl

theorem word_head {word : List Char} (known : word ∈ words) : ∃ ch tail, word = ch :: tail ∧
    isDigit ch = false ∧ ch ≠ '-' ∧ ch ≠ '"' ∧ ch ≠ '[' ∧ ch ≠ '{' ∧
      ∀ other ∈ words, other.head? = some ch → other = word := by
  simp only [words, List.mem_cons, List.not_mem_nil, or_false] at known
  rcases known with rfl | rfl | rfl <;> exact ⟨_, _, rfl, by decide⟩

theorem value_word_iff {letters : List Char} (known : ch :: letters ∈ words) :
    Value (ch :: (letters ++ rest')) objects rest ↔ objects = [] ∧ rest = rest' := by
  obtain ⟨_, _, same, noDigit, noSign, noQuote, noBracket, noBrace, only⟩ := word_head known
  cases same
  rw [value_iff, behindNumber?_eq_none noDigit]
  simp only [reduceCtorEq, and_false, List.cons.injEq, noSign, noQuote, noBracket, noBrace,
    false_and, exists_false, or_false]
  refine and_congr_right fun _ => ⟨?_, ?_⟩
  · rintro ⟨word, known', split⟩
    obtain ⟨_, _, rfl, -⟩ := word_head known'
    cases only _ known' (by rw [(List.cons_eq_cons.mp split).1]; rfl)
    simpa using split.symm
  · rintro rfl
    exact ⟨_, known, rfl⟩

theorem no_word (ch : Char) (noWord : ∀ word ∈ words, word.head? ≠ some ch) :
    ¬ ∃ word ∈ words, ch :: tail = word ++ rest := by
  rintro ⟨word, known, split⟩
  obtain ⟨_, _, rfl, -⟩ := word_head known
  exact noWord _ known (by rw [(List.cons_eq_cons.mp split).1]; rfl)

theorem value_number_iff (digit : isDigit ch = true)
    (number : behindNumber? (ch :: tail) = some rest') :
    Value (ch :: tail) objects rest ↔ objects = [] ∧ rest = rest' := by
  have different : ∀ other, isDigit other = false → ch ≠ other := by
    rintro _ noDigit rfl
    exact absurd digit (by simp [noDigit])
  have noWord : ∀ word ∈ words, word.head? ≠ some ch := by
    intro word known head
    obtain ⟨other, _, rfl, noDigit, -⟩ := word_head known
    exact different other noDigit (Option.some.inj head).symm
  rw [value_iff, number]
  simp [no_word ch noWord, different '-' rfl, different '"' rfl, different '[' rfl,
    different '{' rfl, @eq_comm _ rest' rest]

theorem value_negative_iff (number : behindNumber? tail = some rest') :
    Value ('-' :: tail) objects rest ↔ objects = [] ∧ rest = rest' := by
  rw [value_iff, behindNumber?_eq_none rfl]
  simp [no_word '-' (by decide), number, @eq_comm _ rest' rest]

theorem value_string_iff (content : Content tail meant rest') :
    Value ('"' :: tail) objects rest ↔ objects = [] ∧ rest = rest' := by
  have only : (∃ meant, Content tail meant rest) ↔ rest = rest' := by
    constructor
    · rintro ⟨_, content'⟩
      exact (content'.unique content).2
    · rintro rfl
      exact ⟨meant, content⟩
  rw [value_iff, behindNumber?_eq_none rfl]
  simp [no_word '"' (by decide), only]

theorem value_array_iff : Value ('[' :: tail) objects rest ↔ Elements true tail objects rest := by
  rw [value_iff, behindNumber?_eq_none rfl]
  simp [no_word '[' (by decide)]

theorem value_object_iff : Value ('{' :: tail) objects rest ↔
    ∃ keys inner, objects = keys :: inner ∧ Members true tail keys inner rest := by
  rw [value_iff, behindNumber?_eq_none rfl]
  simp [no_word '{' (by decide)]

theorem not_value_bracket : ¬ Value (']' :: tail) objects rest := by
  rw [value_iff, behindNumber?_eq_none rfl]
  simp [no_word ']' (by decide)]

theorem Separated.unique {start' : List Char} (separated : Separated first cs start)
    (separated' : Separated first cs start') : start = start' := by
  cases separated with
  | first =>
      cases separated'
      rfl
  | comma found =>
      cases separated' with
      | comma found' => exact (List.cons_eq_cons.mp (found.symm.trans found')).2

theorem elements_close_iff (found : behindBlanks cs = ']' :: tail) :
    Elements first cs objects rest ↔ objects = [] ∧ rest = tail := by
  constructor
  · rintro (found' | ⟨separated, value, -⟩)
    · exact ⟨rfl, (List.cons_eq_cons.mp (found'.symm.trans found)).2⟩
    · cases separated with
      | first =>
          rw [found] at value
          exact absurd value not_value_bracket
      | comma comma => cases found.symm.trans comma
  · rintro ⟨rfl, rfl⟩
    exact .close found

theorem elements_more_iff (separated : Separated first cs start)
    (further : ∀ tail, behindBlanks cs ≠ ']' :: tail) :
    Elements first cs objects rest ↔ ∃ here others behind, objects = here ++ others ∧
      Value (behindBlanks start) here behind ∧ Elements false behind others rest := by
  constructor
  · rintro (found | ⟨separated', value, later⟩)
    · exact absurd found (further _)
    · rw [separated.unique separated']
      exact ⟨_, _, _, rfl, value, later⟩
  · rintro ⟨here, others, behind, rfl, value, later⟩
    exact .more separated value later

theorem members_close_iff (found : behindBlanks cs = '}' :: tail) :
    Members first cs keys objects rest ↔ keys = [] ∧ objects = [] ∧ rest = tail := by
  constructor
  · rintro (found' | ⟨separated, quote, -⟩)
    · exact ⟨rfl, rfl, (List.cons_eq_cons.mp (found'.symm.trans found)).2⟩
    · cases separated with
      | first => cases found.symm.trans quote
      | comma comma => cases found.symm.trans comma
  · rintro ⟨rfl, rfl, rfl⟩
    exact .close found

theorem members_more_iff (separated : Separated first cs start)
    (further : ∀ tail, behindBlanks cs ≠ '}' :: tail) (quote : behindBlanks start = '"' :: source)
    (key : Content source meant rest') (colon : behindBlanks rest' = ':' :: valueStart) :
    Members first cs keys objects rest ↔ ∃ laterKeys here others behind,
      keys = String.ofList meant :: laterKeys ∧ objects = here ++ others ∧
      Value (behindBlanks valueStart) here behind ∧ Members false behind laterKeys others rest := by
  constructor
  · rintro (found | ⟨separated', quote', key', colon', value, later⟩)
    · exact absurd found (further _)
    · cases separated.unique separated'
      cases (List.cons_eq_cons.mp (quote.symm.trans quote')).2
      obtain ⟨rfl, rfl⟩ := key.unique key'
      cases (List.cons_eq_cons.mp (colon.symm.trans colon')).2
      exact ⟨_, _, _, _, rfl, rfl, value, later⟩
  · rintro ⟨laterKeys, here, others, behind, rfl, rfl, value, later⟩
    exact .more separated quote key colon value later

end Grammar

namespace Reader

variable {c c' : Cursor} {v : Json} {fuel : Nat} {first : Bool} {rest : List Char}
variable {objects : List (List String)} {keys : List String}

theorem word_rest {letters : List Char} (read : word letters c = .ok c') :
    c.rest = letters ++ c'.rest := by
  induction letters generalizing c with
  | nil =>
      cases read
      rfl
  | cons letter letters ih =>
      unfold word at read
      split at read
      next => cases read
      next ch rest head =>
        split at read
        next same =>
          have behind := ih read
          rw [rest_next head] at behind
          rw [head, same, behind]
          rfl
        next => cases read

theorem nextElement_close (found : nextElement first c = .ok (.close c')) :
    behindBlanks c.rest = ']' :: c'.rest := by
  simp only [nextElement] at found
  rw [← rest_skipBlanks]
  split at found
  next => cases found
  next rest head =>
    cases found
    rw [rest_next head, head]
  next =>
    split at found
    · cases found
    · split at found
      · split at found <;> cases found
      · cases found

/-- Where one more element stands, a comma stands in front of it unless it is the first, and the
array does not end. -/
theorem nextElement_more (found : nextElement first c = .ok (.more c')) :
    ∃ start, Separated first c.rest start ∧ c'.rest = behindBlanks start ∧
      ∀ tail, behindBlanks c.rest ≠ ']' :: tail := by
  simp only [nextElement] at found
  rw [← rest_skipBlanks]
  split at found
  next => cases found
  next => cases found
  next ch rest further head =>
    have goesOn : ∀ tail, (skipBlanks c).rest ≠ ']' :: tail := fun tail ends =>
      further (List.cons_eq_cons.mp (head.symm.trans ends)).1
    split at found
    next isFirst =>
      cases found
      subst isFirst
      exact ⟨c.rest, .first, rest_skipBlanks c, goesOn⟩
    next later =>
      split at found
      next comma =>
        split at found
        next => cases found
        next => cases found
        next =>
          cases found
          obtain rfl : first = false := by simpa using later
          refine ⟨rest, .comma ?_, ?_, goesOn⟩
          · rw [← rest_skipBlanks, head, comma]
          · rw [rest_skipBlanks, rest_next head]
      next => cases found

theorem nextMember_close (found : nextMember first c = .ok (.close c')) :
    behindBlanks c.rest = '}' :: c'.rest := by
  simp only [nextMember] at found
  rw [← rest_skipBlanks]
  split at found
  next => cases found
  next rest head =>
    cases found
    rw [rest_next head, head]
  next =>
    split at found
    · split at found <;> cases found
    · split at found
      · split at found <;> cases found
      · cases found

theorem nextMember_more (found : nextMember first c = .ok (.more c')) :
    ∃ start source, Separated first c.rest start ∧ behindBlanks start = '"' :: source ∧
      c'.next.rest = source ∧ ∀ tail, behindBlanks c.rest ≠ '}' :: tail := by
  simp only [nextMember] at found
  rw [← rest_skipBlanks]
  split at found
  next => cases found
  next => cases found
  next ch rest further head =>
    have goesOn : ∀ tail, (skipBlanks c).rest ≠ '}' :: tail := fun tail ends =>
      further (List.cons_eq_cons.mp (head.symm.trans ends)).1
    split at found
    next isFirst =>
      split at found
      next quote =>
        cases found
        subst isFirst
        refine ⟨c.rest, rest, .first, ?_, rest_next head, goesOn⟩
        rw [← rest_skipBlanks, head, quote]
      next => cases found
    next later =>
      split at found
      next comma =>
        split at found
        next => cases found
        next source quote =>
          cases found
          obtain rfl : first = false := by simpa using later
          rw [rest_skipBlanks, rest_next head] at quote
          refine ⟨rest, source, .comma ?_, quote, ?_, goesOn⟩
          · rw [← rest_skipBlanks, head, comma]
          · exact rest_next (by rw [rest_skipBlanks, rest_next head, quote])
        next => cases found
        next => cases found
      next => cases found

theorem colon_rest (read : colon c = .ok c') : behindBlanks c.rest = ':' :: c'.rest := by
  simp only [colon] at read
  rw [← rest_skipBlanks]
  split at read
  next => cases read
  next rest head =>
    cases read
    rw [rest_next head, head]
  next => cases read

/-- With some fuel, a value that is read is what the grammar has behind the blanks. -/
abbrev ValuesStand (fuel : Nat) : Prop :=
  ∀ {depth : Nat} {c c' : Cursor} {v : Json}, value .lastWins fuel depth c = .ok (v, c') →
    ∀ objects rest, Value (behindBlanks c.rest) objects rest ↔
      objects = v.objectKeys ∧ rest = c'.rest

abbrev ElementsStand (fuel : Nat) : Prop :=
  ∀ {depth : Nat} {first : Bool} {c c' : Cursor} {vs : List Json},
    elements .lastWins fuel depth first c = .ok (vs, c') →
      ∀ objects rest, Elements first c.rest objects rest ↔
        objects = elementKeys vs ∧ rest = c'.rest

abbrev MembersStand (fuel : Nat) : Prop :=
  ∀ {depth : Nat} {first : Bool} {seen : List String} {c c' : Cursor} {ms : Members},
    members .lastWins fuel depth first seen c = .ok (ms, c') →
      ∀ keys objects rest, Grammar.Members first c.rest keys objects rest ↔
        keys = ms.map (·.1) ∧ objects = memberKeys ms ∧ rest = c'.rest

theorem behindBlanks_idem (cs : List Char) : behindBlanks (behindBlanks cs) = behindBlanks cs := by
  unfold behindBlanks
  induction cs with
  | nil => rfl
  | cons ch rest ih =>
      by_cases blank : isBlank ch = true
      · simpa only [List.dropWhile_cons, if_pos blank] using ih
      · simp only [List.dropWhile_cons, if_neg blank]

theorem elementsStand_succ (ihValue : ValuesStand fuel) (ihElements : ElementsStand fuel) :
    ElementsStand (fuel + 1) := by
  intro depth first c c' vs read objects rest
  simp only [elements, bind_eq_ok] at read
  obtain ⟨next, found, read⟩ := read
  cases next with
  | close behind =>
      cases read
      rw [elements_close_iff (nextElement_close found)]
      rfl
  | more place =>
      simp only [bind_eq_ok, Prod.exists] at read
      obtain ⟨v, behind, readValue, vs, _, readRest, same⟩ := read
      cases same
      obtain ⟨start, separated, here, further⟩ := nextElement_more found
      have standing : ∀ objects rest, Value (behindBlanks start) objects rest ↔
          objects = v.objectKeys ∧ rest = behind.rest := by
        simpa only [here, behindBlanks_idem] using ihValue readValue
      simp only [elements_more_iff separated further, standing, elementKeys]
      constructor
      · rintro ⟨_, others, _, rfl, ⟨rfl, rfl⟩, later⟩
        obtain ⟨rfl, rfl⟩ := (ihElements readRest _ _).mp later
        exact ⟨rfl, rfl⟩
      · rintro ⟨rfl, rfl⟩
        exact ⟨_, _, _, rfl, ⟨rfl, rfl⟩, (ihElements readRest _ _).mpr ⟨rfl, rfl⟩⟩

theorem membersStand_succ (ihValue : ValuesStand fuel) (ihMembers : MembersStand fuel) :
    MembersStand (fuel + 1) := by
  intro depth first seen c c' ms read keys objects rest
  simp only [members, bind_eq_ok, reduceCtorEq, false_and, if_false] at read
  obtain ⟨next, found, read⟩ := read
  cases next with
  | close behind =>
      cases read
      rw [members_close_iff (nextMember_close found)]
      rfl
  | more place =>
      simp only [bind_eq_ok, Prod.exists] at read
      obtain ⟨key, afterKey, readKey, valueStart, readColon, v, behind, readValue, ms, _, readRest,
        same⟩ := read
      cases same
      obtain ⟨start, source, separated, quote, here, further⟩ := nextMember_more found
      obtain ⟨meant, content, rfl⟩ := content_of_string readKey
      rw [here] at content
      simp only [members_more_iff separated further quote content (colon_rest readColon),
        ihValue readValue, memberKeys]
      constructor
      · rintro ⟨_, _, _, _, rfl, rfl, ⟨rfl, rfl⟩, later⟩
        obtain ⟨rfl, rfl, rfl⟩ := (ihMembers readRest _ _ _).mp later
        exact ⟨rfl, rfl, rfl⟩
      · rintro ⟨rfl, rfl, rfl⟩
        exact ⟨_, _, _, _, rfl, rfl, ⟨rfl, rfl⟩, (ihMembers readRest _ _ _).mpr ⟨rfl, rfl, rfl⟩⟩

theorem value_of_word {ch : Char} {letters tail : List Char} (known : ch :: letters ∈ words)
    (head : c.rest = ch :: tail) (read : word letters c.next = .ok c') :
    Value c.rest objects rest ↔ objects = [] ∧ rest = c'.rest := by
  have behind := word_rest read
  rw [rest_next head] at behind
  rw [head, behind]
  exact value_word_iff known

/-- The first character of a value tells of what kind it is, to the reader and in the grammar. -/
theorem valuesStand_succ (ihElements : ElementsStand fuel) (ihMembers : MembersStand fuel) :
    ValuesStand (fuel + 1) := by
  intro depth c c' v read objects rest
  simp only [value] at read
  rw [← rest_skipBlanks]
  generalize skipBlanks c = c at read
  split at read
  case h_1 => cases read
  case h_2 tail head =>
    obtain ⟨behind, letters, same⟩ := bind_eq_ok.mp read
    cases same
    exact value_of_word (by decide) head letters
  case h_3 tail head =>
    obtain ⟨behind, letters, same⟩ := bind_eq_ok.mp read
    cases same
    exact value_of_word (by decide) head letters
  case h_4 tail head =>
    obtain ⟨behind, letters, same⟩ := bind_eq_ok.mp read
    cases same
    exact value_of_word (by decide) head letters
  case h_5 tail head =>
    obtain ⟨⟨n, behind⟩, readNumber, same⟩ := bind_eq_ok.mp read
    cases same
    rw [head, ← rest_next head]
    exact value_negative_iff (number_rest readNumber)
  case h_6 tail head =>
    obtain ⟨⟨s, behind⟩, readString, same⟩ := bind_eq_ok.mp read
    cases same
    obtain ⟨meant, content, -⟩ := content_of_string readString
    rw [head, ← rest_next head]
    exact value_string_iff content
  case h_7 tail head =>
    split at read
    · cases read
    · obtain ⟨⟨vs, behind⟩, readElements, same⟩ := bind_eq_ok.mp read
      cases same
      rw [head, ← rest_next head, value_array_iff]
      exact ihElements readElements objects rest
  case h_8 tail head =>
    split at read
    · cases read
    · obtain ⟨⟨ms, behind⟩, readMembers, same⟩ := bind_eq_ok.mp read
      cases same
      rw [head, ← rest_next head, value_object_iff]
      simp only [ihMembers readMembers, objectKeys]
      constructor
      · rintro ⟨_, _, rfl, rfl, rfl, rfl⟩
        exact ⟨rfl, rfl⟩
      · rintro ⟨rfl, rfl⟩
        exact ⟨_, _, rfl, rfl, rfl, rfl⟩
  case h_9 ch tail _ _ _ _ _ _ _ head =>
    split at read
    next digit =>
      obtain ⟨⟨n, behind⟩, readNumber, same⟩ := bind_eq_ok.mp read
      cases same
      have number := number_rest readNumber
      rw [head] at number ⊢
      exact value_number_iff digit number
    next => cases read

theorem all_stand (fuel : Nat) : ValuesStand fuel ∧ ElementsStand fuel ∧ MembersStand fuel := by
  induction fuel with
  | zero => exact ⟨nofun, nofun, nofun⟩
  | succ fuel ih =>
      obtain ⟨ihValue, ihElements, ihMembers⟩ := ih
      exact ⟨valuesStand_succ ihElements ihMembers, elementsStand_succ ihValue ihElements,
        membersStand_succ ihValue ihMembers⟩

/-- The objects of a text are those of the tree that is read from it, with its members as they are
written. -/
theorem hasObject_iff {text : String} {v : Json} {keys : List String}
    (read : document .lastWins text = .ok v) : HasObject text keys ↔ keys ∈ v.objectKeys := by
  simp only [document, bind_eq_ok, Prod.exists] at read
  obtain ⟨w, behind, readValue, ended⟩ := read
  split at ended
  next atEnd =>
    cases ended
    have standing := (all_stand _).1 readValue
    have nothing : behindBlanks behind.rest = [] := by
      rw [← rest_skipBlanks]
      exact List.isEmpty_iff.mp atEnd
    constructor
    · rintro ⟨objects, rest, front, -, inside⟩
      obtain ⟨rfl, -⟩ := (standing objects rest).mp front
      exact inside
    · intro inside
      exact ⟨_, _, (standing _ _).mpr ⟨rfl, rfl⟩, nothing, inside⟩
  next => cases ended

end Reader
end AgentManifest.Json
