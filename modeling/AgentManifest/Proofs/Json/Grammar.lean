import AgentManifest.Json.Reader
import AgentManifest.Proofs.Outcome

/-! The grammar of JSON texts. A rule tells what may stand at the front of a text and what is left
behind it. Of a value the grammar keeps the keys of its objects, with escapes replaced by what they
stand for, one list for each object at any depth. A number that the reader takes ends where the
grammar has it end, and a string is what the grammar has its characters mean. -/

namespace AgentManifest.Json

namespace Grammar

open Reader (isBlank digitValue? hexValue?)

def behindBlanks (cs : List Char) : List Char := cs.dropWhile isBlank

def isDigit (ch : Char) : Bool := (digitValue? ch).isSome

/-- What is left behind digits, of which there has to be one. -/
def behindDigits? : List Char → Option (List Char)
  | [] => none
  | ch :: rest => if isDigit ch then some (rest.dropWhile isDigit) else none

/-- A zero stands alone. -/
def behindWhole? : List Char → Option (List Char)
  | '0' :: rest => if rest.head?.any isDigit then none else some rest
  | cs => behindDigits? cs

def behindFraction? : List Char → Option (List Char)
  | '.' :: rest => behindDigits? rest
  | cs => some cs

def behindSign : List Char → List Char
  | '+' :: rest => rest
  | '-' :: rest => rest
  | cs => cs

def behindExponent? : List Char → Option (List Char)
  | 'e' :: rest => behindDigits? (behindSign rest)
  | 'E' :: rest => behindDigits? (behindSign rest)
  | cs => some cs

/-- What is left behind a number without its sign. -/
def behindNumber? (cs : List Char) : Option (List Char) :=
  ((behindWhole? cs).bind behindFraction?).bind behindExponent?

/-- Four hexadecimal digits. -/
def unit? : List Char → Option (Nat × List Char)
  | a :: b :: d :: e :: rest =>
    match hexValue? a, hexValue? b, hexValue? d, hexValue? e with
    | some a, some b, some d, some e => some (((a * 16 + b) * 16 + d) * 16 + e, rest)
    | _, _, _, _ => none
  | _ => none

/-- The escapes of one letter, and what they stand for. -/
def shortEscapes : List (Char × Char) :=
  [('"', '"'), ('\\', '\\'), ('/', '/'), ('b', '\x08'), ('f', '\x0c'), ('n', '\n'), ('r', '\r'),
    ('t', '\t')]

/-- What stands behind a backslash: a letter, the unit of a character, or the two units of a
character beyond the first plane. -/
inductive Escape : List Char → Char → List Char → Prop where
  | short {mark ch : Char} {rest : List Char} (known : (mark, ch) ∈ shortEscapes) :
      Escape (mark :: rest) ch rest
  | unit {cs rest : List Char} {code : Nat} (hex : unit? cs = some (code, rest))
      (whole : code < 0xD800 ∨ 0xDFFF < code) : Escape ('u' :: cs) (Char.ofNat code) rest
  | pair {cs more rest : List Char} {high low : Nat}
      (first : unit? cs = some (high, '\\' :: 'u' :: more)) (second : unit? more = some (low, rest))
      (highHalf : 0xD800 ≤ high ∧ high < 0xDC00) (lowHalf : 0xDC00 ≤ low ∧ low ≤ 0xDFFF) :
      Escape ('u' :: cs) (Char.ofNat ((high - 0xD800) * 1024 + (low - 0xDC00) + 0x10000)) rest

/-- What stands behind a quote, with the closing quote: the characters that are meant. -/
inductive Content : List Char → List Char → List Char → Prop where
  | close {rest : List Char} : Content ('"' :: rest) [] rest
  | plain {ch : Char} {cs meant rest : List Char} (noQuote : ch ≠ '"') (noEscape : ch ≠ '\\')
      (noControl : 32 ≤ ch.toNat) (more : Content cs meant rest) :
      Content (ch :: cs) (ch :: meant) rest
  | escaped {ch : Char} {cs behind meant rest : List Char} (escape : Escape cs ch behind)
      (more : Content behind meant rest) : Content ('\\' :: cs) (ch :: meant) rest

def words : List (List Char) := ["null".toList, "true".toList, "false".toList]

/-- A comma stands in front of all parts but the first. -/
inductive Separated : Bool → List Char → List Char → Prop where
  | first {cs : List Char} : Separated true cs cs
  | comma {cs rest : List Char} (found : behindBlanks cs = ',' :: rest) : Separated false cs rest

mutual

/-- A value at the front of a text: the keys of the objects in it, and what is left behind it. -/
inductive Value : List Char → List (List String) → List Char → Prop where
  | word {cs rest word : List Char} (known : word ∈ words) (split : cs = word ++ rest) :
      Value cs [] rest
  | number {cs rest : List Char} (number : behindNumber? cs = some rest) : Value cs [] rest
  | negative {cs rest : List Char} (number : behindNumber? cs = some rest) :
      Value ('-' :: cs) [] rest
  | string {cs meant rest : List Char} (content : Content cs meant rest) :
      Value ('"' :: cs) [] rest
  | array {cs rest : List Char} {objects : List (List String)}
      (elements : Elements true cs objects rest) : Value ('[' :: cs) objects rest
  | object {cs rest : List Char} {keys : List String} {objects : List (List String)}
      (members : Members true cs keys objects rest) : Value ('{' :: cs) (keys :: objects) rest

/-- The elements of an array, from the first or from a later one on, and its end. -/
inductive Elements : Bool → List Char → List (List String) → List Char → Prop where
  | close {first : Bool} {cs rest : List Char} (found : behindBlanks cs = ']' :: rest) :
      Elements first cs [] rest
  | more {first : Bool} {cs start behind rest : List Char} {objects others : List (List String)}
      (separated : Separated first cs start) (value : Value (behindBlanks start) objects behind)
      (later : Elements false behind others rest) : Elements first cs (objects ++ others) rest

/-- The members of an object, their keys, and the objects in their values. -/
inductive Members : Bool → List Char → List String → List (List String) → List Char → Prop where
  | close {first : Bool} {cs rest : List Char} (found : behindBlanks cs = '}' :: rest) :
      Members first cs [] [] rest
  | more {first : Bool} {cs start source meant afterKey valueStart behind rest : List Char}
      {keys : List String} {objects others : List (List String)}
      (separated : Separated first cs start) (quote : behindBlanks start = '"' :: source)
      (key : Content source meant afterKey) (colon : behindBlanks afterKey = ':' :: valueStart)
      (value : Value (behindBlanks valueStart) objects behind)
      (later : Members false behind keys others rest) :
      Members first cs (String.ofList meant :: keys) (objects ++ others) rest

end

/-- Some object in a text has these keys, in the order they are written. -/
def HasObject (text : String) (keys : List String) : Prop :=
  ∃ objects rest, Value (behindBlanks text.toList) objects rest ∧ behindBlanks rest = [] ∧
    keys ∈ objects

end Grammar

open Grammar

namespace Reader

variable {c c' : Cursor} {cs rest : List Char} {fuel depth : Nat}

theorem rest_skipWhile (p : Char → Bool) (c : Cursor) :
    (c.skipWhile p).rest = c.rest.dropWhile p := by
  rcases c with ⟨cs, offset⟩
  unfold Cursor.skipWhile
  induction cs generalizing offset with
  | nil => rfl
  | cons ch rest ih =>
      rw [Cursor.skipWhile.go, List.dropWhile_cons]
      split
      · exact ih _
      · rfl

@[simp] theorem rest_skipBlanks (c : Cursor) : (skipBlanks c).rest = behindBlanks c.rest :=
  rest_skipWhile isBlank c

theorem rest_skipDigits (c : Cursor) : (skipDigits c).2.rest = c.rest.dropWhile isDigit :=
  rest_skipWhile isDigit c

theorem rest_next {ch : Char} (head : c.rest = ch :: rest) : c.next.rest = rest := by
  rw [Cursor.next, head]

theorem behindDigits?_of_head {ch : Char} (digit : isDigit ch = true) :
    behindDigits? (ch :: rest) = some ((ch :: rest).dropWhile isDigit) := by
  rw [behindDigits?, if_pos digit, List.dropWhile_cons, if_pos digit]

/-- Digits that do not fit the significand are left for those that skip the rest. -/
theorem dropWhile_significandDigits (significand taken offset : Nat) (cs : List Char) :
    (significandDigits significand taken cs offset).2.2.rest.dropWhile isDigit =
      cs.dropWhile isDigit := by
  induction cs generalizing significand taken offset with
  | nil => rfl
  | cons ch rest ih =>
      unfold significandDigits
      split
      next d digit =>
        have isDigit : isDigit ch = true := by simp [Grammar.isDigit, digit]
        split
        · rw [ih, List.dropWhile_cons, if_pos isDigit]
        · rfl
      next => rfl

theorem exponentDigits_rest (value offset : Nat) (cs : List Char) :
    let read := exponentDigits value cs offset
    read.2.2.rest.dropWhile isDigit = cs.dropWhile isDigit ∧
      (read.2.1 = false → read.2.2.rest = cs.dropWhile isDigit) := by
  induction cs generalizing value offset with
  | nil => exact ⟨rfl, fun _ => rfl⟩
  | cons ch rest ih =>
      unfold exponentDigits
      split
      next d digit =>
        have isDigit : isDigit ch = true := by simp [Grammar.isDigit, digit]
        rw [List.dropWhile_cons, if_pos isDigit]
        split
        · exact ih _ _
        · exact ⟨rfl, nofun⟩
      next noDigit =>
        have other : isDigit ch = false := by simp [Grammar.isDigit, noDigit]
        rw [List.dropWhile_cons, if_neg (by simp [other])]
        exact ⟨by rw [List.dropWhile_cons, if_neg (by simp [other])], fun _ => rfl⟩

variable {negative : Bool} {significand skipped : Nat} {exponent : Int} {n : Number}

theorem scaled_rest (read : scaled negative significand exponent c = .ok (n, c')) : c' = c := by
  unfold scaled at read
  split at read <;> cases read
  rfl

theorem behindDigits?_of_ok {α : Type} {next : Except Located α} {a : α} {fault : Fault}
    {ch : Char} (rest : List Char)
    (read : (if (digitValue? ch).isNone then failNext c fault else next) = .ok a) :
    behindDigits? (ch :: rest) = some ((ch :: rest).dropWhile isDigit) ∧ next = .ok a := by
  split at read
  · cases read
  · next digit =>
      refine ⟨behindDigits?_of_head ?_, read⟩
      simpa [isDigit, Option.isSome_iff_ne_none] using digit

theorem exponentPart_rest (read : exponentPart negative significand exponent c = .ok (n, c')) :
    behindDigits? (behindSign c.rest) = some c'.rest := by
  unfold exponentPart at read
  split at read
  next down signed sign =>
    have unsigned : signed.rest = behindSign c.rest := by
      unfold Cursor.peek? at sign
      rcases c with ⟨_ | ⟨ch, rest⟩, offset⟩
      · cases sign
        rfl
      · unfold behindSign
        split at sign
        next plus =>
          cases sign
          cases plus
          rfl
        next minus =>
          cases sign
          cases minus
          rfl
        next plus minus =>
          cases sign
          split
          next same => simp_all
          next same => simp_all
          next => rfl
    rw [← unsigned]
    split at read
    next => cases read
    next ch rest head =>
      rw [head]
      obtain ⟨digits, read⟩ := behindDigits?_of_ok _ read
      rw [digits]
      split at read
      next value overflow behind found =>
        have left := exponentDigits_rest 0 signed.offset signed.rest
        rw [found, head] at left
        split at read
        next =>
          split at read
          · cases read
          · cases read
            rw [rest_skipDigits, left.1]
        next exact_ =>
          cases scaled_rest read
          rw [left.2 (by simpa using exact_)]

theorem exponentOrEnd_rest (read : exponentOrEnd negative significand exponent c = .ok (n, c')) :
    behindExponent? c.rest = some c'.rest := by
  unfold exponentOrEnd Cursor.peek? at read
  rcases c with ⟨_ | ⟨ch, rest⟩, offset⟩
  · cases scaled_rest read
    rfl
  · unfold behindExponent?
    split at read
    next lower =>
      cases lower
      exact exponentPart_rest read
    next upper =>
      cases upper
      exact exponentPart_rest read
    next lower upper =>
      cases scaled_rest read
      split
      next => simp_all
      next => simp_all
      next => rfl

theorem fractionPart_rest (read : fractionPart negative significand exponent c = .ok (n, c')) :
    ∃ mid, behindDigits? c.rest = some mid ∧ behindExponent? mid = some c'.rest := by
  simp only [fractionPart] at read
  split at read
  next => split at read <;> cases read
  next some_ =>
    refine ⟨_, ?_, exponentOrEnd_rest read⟩
    rw [rest_skipDigits, dropWhile_significandDigits]
    cases head : c.rest with
    | nil =>
        simp [head, significandDigits, skipDigits, Cursor.skipWhile, Cursor.skipWhile.go] at some_
    | cons ch rest =>
        refine behindDigits?_of_head ?_
        cases digit : digitValue? ch with
        | some d => simp [isDigit, digit]
        | none =>
            simp [head, significandDigits, skipDigits, Cursor.skipWhile, Cursor.skipWhile.go, digit]
              at some_

/-- A number with neither fraction nor exponent goes no further than its digits. -/
theorem plainNumber_rest
    (read : (if skipped ≠ 0 then scaled negative significand skipped c
      else if !negative then .ok (.integer significand, c)
      else if significand = 0 ∨ 0x8000000000000000 < significand then scaled true significand 0 c
      else .ok (.integer (-significand), c)) = .ok (n, c')) : c' = c := by
  split at read
  · exact scaled_rest read
  · split at read
    · cases read
      rfl
    · split at read
      · exact scaled_rest read
      · cases read
        rfl

theorem numberTail_rest (read : numberTail negative significand skipped c = .ok (n, c')) :
    (behindFraction? c.rest).bind behindExponent? = some c'.rest := by
  unfold numberTail Cursor.peek? at read
  rcases c with ⟨_ | ⟨ch, rest⟩, offset⟩
  · rw [plainNumber_rest read]
    rfl
  · split at read
    next point =>
      cases point
      obtain ⟨mid, digits, later⟩ := fractionPart_rest read
      exact Option.bind_eq_some_iff.mpr ⟨mid, digits, later⟩
    next lower =>
      cases lower
      exact exponentPart_rest read
    next upper =>
      cases upper
      exact exponentPart_rest read
    next point lower upper =>
      have fraction : behindFraction? (ch :: rest) = some (ch :: rest) := by
        unfold behindFraction?
        split <;> simp_all
      rw [plainNumber_rest read, fraction, Option.bind_some]
      unfold behindExponent?
      split <;> simp_all

theorem number_rest (read : number negative c = .ok (n, c')) :
    behindNumber? c.rest = some c'.rest := by
  simp only [number] at read
  rw [behindNumber?]
  split at read
  next => cases read
  next rest head =>
    rw [head, behindWhole?]
    split at read
    next => cases read
    next alone =>
      have single : rest.head?.any isDigit = false := by
        cases rest with
        | nil => rfl
        | cons ch rest => simpa [Cursor.peek?, isDigit] using alone
      rw [if_neg (by simp [single]), Option.bind_some]
      exact numberTail_rest read
  next ch rest notZero head =>
    obtain ⟨digits, read⟩ := behindDigits?_of_ok rest read
    have whole : behindWhole? c.rest = some (c.rest.dropWhile isDigit) := by
      rw [head, ← digits]
      unfold behindWhole?
      split
      next zero => exact absurd (List.cons_eq_cons.mp zero).1 notZero
      next => rfl
    rw [whole, Option.bind_some]
    have left := numberTail_rest read
    rwa [rest_skipDigits, dropWhile_significandDigits] at left

variable {code : Nat} {ch ch' : Char} {meant meant' rest' : List Char}

theorem unit?_of_hexUnit (read : hexUnit c = .ok (code, c')) :
    unit? c.rest = some (code, c'.rest) := by
  unfold hexUnit at read
  split at read
  · cases read
  · split at read
    next a b d e rest head =>
      rw [head]
      split at read
      next hexA hexB hexD hexE =>
        cases read
        rw [unit?, hexA, hexB, hexD, hexE]
      next => cases read
    next => cases read

theorem rest_of_pairMark {mark : Char} (read : pairMark mark c = .ok c') :
    c.rest = mark :: c'.rest := by
  unfold pairMark at read
  split at read
  · cases read
  · next head =>
      split at read
      next same =>
        cases read
        rw [head, same]
      next => cases read

theorem escape_of_unicodeEscape (read : unicodeEscape c = .ok (ch, c')) :
    Escape ('u' :: c.rest) ch c'.rest := by
  simp only [unicodeEscape, bind_eq_ok, Prod.exists] at read
  obtain ⟨code, behind, hex, read⟩ := read
  have first := unit?_of_hexUnit hex
  split at read
  next => cases read
  next noLowHalf =>
    split at read
    next whole =>
      cases read
      exact .unit first (by omega)
    next high =>
      simp only [bind_eq_ok, Prod.exists] at read
      obtain ⟨mark, backslash, letter, marked, low, behind', hex', read⟩ := read
      rw [rest_of_pairMark backslash, rest_of_pairMark marked] at first
      split at read
      next => cases read
      next lowHalf =>
        simp only [Except.ok.injEq, Prod.mk.injEq] at read
        obtain ⟨rfl, rfl⟩ := read
        exact .pair first (unit?_of_hexUnit hex') (by omega) (by omega)

theorem escape_of_ok (read : escape c = .ok (ch, c')) : Escape c.rest ch c'.rest := by
  unfold escape at read
  split at read
  next => cases read
  next mark rest head =>
    rw [head]
    have behind := rest_next head
    dsimp only at read
    split at read
    case h_9 =>
      rw [← behind]
      exact escape_of_unicodeEscape read
    case h_10 => cases read
    all_goals
      cases read
      rw [behind]
      exact .short (by decide)

theorem content_of_stringBody {read : List Char} {s : String}
    (done : stringBody fuel read c = .ok (s, c')) :
    ∃ meant, Content c.rest meant c'.rest ∧ s = String.ofList (read.reverse ++ meant) := by
  induction fuel generalizing read c with
  | zero => cases done
  | succ fuel ih =>
      unfold stringBody at done
      split at done
      next => cases done
      next rest head =>
        cases done
        rw [head, rest_next head]
        exact ⟨[], .close, by simp⟩
      next rest head =>
        simp only [bind_eq_ok, Prod.exists] at done
        obtain ⟨ch, behind, escaped, done⟩ := done
        obtain ⟨meant, content, same⟩ := ih done
        have escape := escape_of_ok escaped
        rw [rest_next head] at escape
        rw [head]
        exact ⟨ch :: meant, .escaped escape content, by simpa using same⟩
      next ch rest noQuote noEscape head =>
        split at done
        next => cases done
        next noControl =>
          obtain ⟨meant, content, same⟩ := ih done
          rw [rest_next head] at content
          rw [head]
          exact ⟨ch :: meant, .plain noQuote noEscape (by omega) content, by simpa using same⟩

theorem content_of_string {s : String} (read : string c = .ok (s, c')) :
    ∃ meant, Content c.rest meant c'.rest ∧ s = String.ofList meant :=
  content_of_stringBody read

end Reader

end AgentManifest.Json
