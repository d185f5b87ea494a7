import Mathlib.Tactic.SplitIfs
import AgentManifest.Proofs.Outcome
import AgentManifest.Proofs.Text.Lines
import AgentManifest.Toml.Value

/-! What is said of a TOML text that is refused. The sentences are all known beforehand but for
numbers, so none of them breaks its line, whatever the text. -/

namespace AgentManifest.Toml

open Text

theorem StringForm.oneLine_text (form : StringForm) : OneLine form.text := by
  cases form <;> exact oneLine_ofList (by decide)

theorem Radix.oneLine_text (radix : Radix) : OneLine radix.text := by
  cases radix <;> exact oneLine_ofList (by decide)

theorem Word.oneLine_sort (word : Word) : OneLine word.sort := by
  cases word <;> exact oneLine_ofList (by decide)

theorem FloatPart.oneLine_text (part : FloatPart) : OneLine part.text := by
  cases part <;> exact oneLine_ofList (by decide)

theorem ValueSort.oneLine_text (found : ValueSort) : OneLine found.text := by
  cases found <;> exact oneLine_ofList (by decide)

theorem DateTimePart.oneLine_text (part : DateTimePart) : OneLine part.text := by
  cases part <;> exact oneLine_ofList (by decide)

namespace Problem

theorem oneLine_description (p : Problem) : OneLine p.description := by
  have invalid : OneLine "invalid " := oneLine_ofList (by decide)
  have plural : OneLine "s" := oneLine_ofList (by decide)
  cases p with
  | multiLineKey form =>
      have keys : OneLine "keys cannot be " := oneLine_ofList (by decide)
      exact oneLine_append.mpr ⟨oneLine_append.mpr ⟨keys, form.oneLine_text⟩, plural⟩
  | stringQuote form | basicChar form | literalChar form =>
      exact oneLine_append.mpr ⟨invalid, form.oneLine_text⟩
  | invalidDigit radix =>
      have number : OneLine " number" := oneLine_ofList (by decide)
      exact oneLine_append.mpr ⟨oneLine_append.mpr ⟨invalid, radix.oneLine_text⟩, number⟩
  | missingDigits part => exact oneLine_append.mpr ⟨invalid, part.oneLine_text⟩
  | wrongWord word => exact oneLine_append.mpr ⟨invalid, word.oneLine_sort⟩
  | dateTime part expected => exact oneLine_append.mpr ⟨invalid, part.oneLine_text⟩
  | notExtendable found =>
      have lead : OneLine "cannot extend value of type " := oneLine_ofList (by decide)
      have rest : OneLine " with a dotted key" := oneLine_ofList (by decide)
      exact oneLine_append.mpr ⟨oneLine_append.mpr ⟨lead, found.oneLine_text⟩, rest⟩
  | _ => exact oneLine_ofList (by decide)

theorem oneLine_mark {s : String} (whole : OneLine s) : OneLine (mark s) := by
  have tick : OneLine "`" := oneLine_ofList (by decide)
  exact oneLine_append.mpr ⟨oneLine_append.mpr ⟨tick, whole⟩, tick⟩

/-- What is expected is known but for date-times. -/
theorem oneLine_expected {p : Problem} {expected : List String}
    (known : ∀ part e, p = .dateTime part (some e) → OneLine e)
    (named : p.expected = some expected) : ∀ e ∈ expected, OneLine e := by
  cases p with
  | dateTime part e =>
      cases e with
      | none => cases named
      | some e =>
          cases named
          exact List.forall_mem_singleton.mpr (known part e rfl)
  | unclosedArrayTable double =>
      cases named
      cases double <;> exact List.forall_mem_singleton.mpr (oneLine_mark (oneLine_ofList (by decide)))
  | stringQuote form =>
      cases named
      cases form <;> exact List.forall_mem_singleton.mpr (oneLine_mark (oneLine_ofList (by decide)))
  | upperRadix radix =>
      cases named
      cases radix <;> exact List.forall_mem_singleton.mpr (oneLine_mark (oneLine_ofList (by decide)))
  | wrongWord word =>
      cases named
      cases word <;> exact List.forall_mem_singleton.mpr (oneLine_mark (oneLine_ofList (by decide)))
  | _ =>
      cases named
      repeat' first
        | exact List.forall_mem_nil _
        | refine List.forall_mem_cons.mpr ⟨?_, ?_⟩
        | with_reducible refine oneLine_mark ?_
        | exact oneLine_ofList (by decide)

theorem oneLine_text {p : Problem} (known : ∀ part e, p = .dateTime part (some e) → OneLine e) :
    OneLine p.text := by
  have description := p.oneLine_description
  unfold text
  split
  next => exact description
  next =>
    have nothing : OneLine ", expected nothing" := oneLine_ofList (by decide)
    exact oneLine_append.mpr ⟨description, nothing⟩
  next expected _ named =>
    have lead : OneLine ", expected " := oneLine_ofList (by decide)
    have comma : OneLine ", " := oneLine_ofList (by decide)
    exact oneLine_append.mpr ⟨oneLine_append.mpr ⟨description, lead⟩,
      (oneLine_intercalate comma).mpr (oneLine_expected known named)⟩

theorem oneLine_dateTime {part : DateTimePart} {expected : String} (known : OneLine expected) :
    OneLine (dateTime part (some expected)).text := by
  refine oneLine_text fun part' e same => ?_
  cases same
  exact known

/-- No other sentence depends on what is read. -/
theorem oneLine_of_ne {p : Problem} (other : ∀ part e, p ≠ .dateTime part (some e)) :
    OneLine p.text :=
  oneLine_text fun part e same => absurd same (other part e)

end Problem

/-- What is said of the fault is on one line. -/
def Fault.Plain (f : Fault) : Prop := OneLine f.problem.text

variable {α : Type} {problem : Problem} {offset : Nat}

theorem failsWith_refuse (other : ∀ part e, problem ≠ .dateTime part (some e)) :
    FailsWith Fault.Plain (refuse problem offset : Except Fault α) :=
  failsWith_error.mpr (Problem.oneLine_of_ne other)

namespace DateTime

variable {part : DateTimePart} {expected : String} {ms : List Mark}

/-- What is said of a date-time is on one line. -/
def Plain (p : Problem) : Prop := OneLine p.text

theorem failsWith_refuse (known : OneLine expected) :
    FailsWith Plain (refuse part expected : Except Problem α) :=
  failsWith_error.mpr (Problem.oneLine_dateTime known)

theorem failsWith_takeDigits (known : OneLine expected) :
    FailsWith Plain (takeDigits part expected ms) := by
  unfold takeDigits
  split
  · exact failsWith_ok
  · exact failsWith_refuse known

theorem failsWith_takeMark {mark : Mark} (known : OneLine expected) :
    FailsWith Plain (takeMark mark part expected ms) := by
  unfold takeMark
  split
  · split
    · exact failsWith_ok
    · exact failsWith_refuse known
  · exact failsWith_refuse known

theorem failsWith_ofLength {count : Nat} {digits : List Char} (known : OneLine expected) :
    FailsWith Plain (ofLength count part expected digits) := by
  unfold ofLength
  split
  · exact failsWith_ok
  · exact failsWith_refuse known

theorem failsWith_readDate (year : List Char) (ms : List Mark) :
    FailsWith Plain (readDate year ms) := by
  refine (failsWith_takeDigits (oneLine_ofList (by decide))).bind fun (month, ms) => ?_
  refine (failsWith_takeMark (oneLine_ofList (by decide))).bind fun ms => ?_
  refine (failsWith_takeDigits (oneLine_ofList (by decide))).bind fun (day, ms) => ?_
  refine (failsWith_ofLength (oneLine_ofList (by decide))).bind fun year => ?_
  refine (failsWith_ofLength (oneLine_ofList (by decide))).bind fun month => ?_
  refine (failsWith_ofLength (oneLine_ofList (by decide))).bind fun day => ?_
  dsimp only
  split
  · exact failsWith_refuse (oneLine_ofList (by decide))
  · split
    · have lead : OneLine "day between 01 and " := oneLine_ofList (by decide)
      exact failsWith_refuse (oneLine_append.mpr ⟨lead, oneLine_nat _⟩)
    · exact failsWith_pure

theorem failsWith_seconds (ms : List Mark) : FailsWith Plain (seconds ms) := by
  unfold seconds
  split
  · refine (failsWith_takeDigits (oneLine_ofList (by decide))).bind fun (second, ms) => ?_
    dsimp only
    split
    · exact (failsWith_takeDigits (oneLine_ofList (by decide))).bind fun _ => failsWith_pure
    · exact failsWith_pure
  · exact failsWith_ok

theorem failsWith_readTime (ms : List Mark) : FailsWith Plain (readTime ms) := by
  refine (failsWith_takeDigits (oneLine_ofList (by decide))).bind fun (hour, ms) => ?_
  refine (failsWith_takeMark (oneLine_ofList (by decide))).bind fun ms => ?_
  refine (failsWith_takeDigits (oneLine_ofList (by decide))).bind fun (minute, ms) => ?_
  refine (failsWith_seconds ms).bind fun (second, ms) => ?_
  refine (failsWith_ofLength (oneLine_ofList (by decide))).bind fun hour => ?_
  refine (failsWith_ofLength (oneLine_ofList (by decide))).bind fun minute => ?_
  have bounds : ∀ (second nanosecond : Nat), FailsWith Plain (do
      if 23 < hour then refuse .time "hour between 00 and 23"
      else if 59 < minute then refuse .time "minute between 00 and 59"
      else if 60 < second then refuse .time "second between 00 and 60"
      else return ((⟨hour, minute, second, nanosecond⟩ : Time), ms)) := by
    intro second nanosecond
    split
    · exact failsWith_refuse (oneLine_ofList (by decide))
    · split
      · exact failsWith_refuse (oneLine_ofList (by decide))
      · split
        · exact failsWith_refuse (oneLine_ofList (by decide))
        · exact failsWith_pure
  dsimp only
  split
  · exact (failsWith_ofLength (oneLine_ofList (by decide))).bind fun second => bounds second _
  · exact bounds 0 0

theorem failsWith_numericOffset (negative : Bool) (ms : List Mark) :
    FailsWith Plain (numericOffset negative ms) := by
  refine (failsWith_takeDigits (oneLine_ofList (by decide))).bind fun (hour, ms) => ?_
  refine (failsWith_takeMark (oneLine_ofList (by decide))).bind fun ms => ?_
  refine (failsWith_takeDigits (oneLine_ofList (by decide))).bind fun (minute, ms) => ?_
  refine (failsWith_ofLength (oneLine_ofList (by decide))).bind fun hour => ?_
  refine (failsWith_ofLength (oneLine_ofList (by decide))).bind fun minute => ?_
  dsimp only
  split
  · exact failsWith_refuse (oneLine_ofList (by decide))
  · split
    · exact failsWith_refuse (oneLine_ofList (by decide))
    · exact failsWith_pure

theorem failsWith_readOffset (ms : List Mark) : FailsWith Plain (readOffset ms) := by
  unfold readOffset
  split
  · exact failsWith_ok
  · exact failsWith_ok
  · exact (failsWith_numericOffset _ _).bind fun _ => failsWith_pure
  · exact (failsWith_numericOffset _ _).bind fun _ => failsWith_pure
  · exact failsWith_refuse (oneLine_ofList (by decide))

theorem failsWith_atEnd (v : DateTime) (ms : List Mark) : FailsWith Plain (atEnd v ms) := by
  unfold atEnd
  split
  · exact failsWith_ok
  · exact failsWith_error.mpr (Problem.oneLine_of_ne nofun)

theorem failsWith_ofChars (cs : List Char) : FailsWith Plain (ofChars cs) := by
  refine (failsWith_takeDigits (oneLine_ofList (by decide))).bind fun (first, rest) => ?_
  dsimp only
  split
  · refine (failsWith_readDate _ _).bind fun (date, rest) => ?_
    dsimp only
    split
    · exact failsWith_pure
    · split
      · refine (failsWith_readTime _).bind fun (time, rest) => ?_
        exact (failsWith_readOffset _).bind fun _ => failsWith_atEnd _ _
      · exact failsWith_refuse (oneLine_ofList (by decide))
  · exact (failsWith_readTime _).bind fun _ => failsWith_atEnd _ _
  · exact failsWith_refuse (oneLine_ofList (by decide))

end DateTime

namespace Scalar

theorem failsWith_openQuote (form : StringForm) (length : Nat) (p : Piece) :
    FailsWith Fault.Plain (openQuote form length p) := by
  unfold openQuote
  dsimp only
  split
  · exact failsWith_ok
  · exact failsWith_refuse nofun

theorem failsWith_closeQuote (form : StringForm) (length : Nat) (p : Piece) (cs : List Char) :
    FailsWith Fault.Plain (closeQuote form length p cs) := by
  unfold closeQuote
  dsimp only
  split
  · exact failsWith_ok
  · exact failsWith_refuse nofun

theorem failsWith_literalChars (form : StringForm) (offset : Nat) (cs : List Char) :
    FailsWith Fault.Plain (literalChars form offset cs) := by
  induction cs generalizing offset with
  | nil => exact failsWith_ok
  | cons c rest ih =>
      unfold literalChars
      dsimp only
      split
      · exact failsWith_refuse nofun
      · split
        · exact (ih _).bind fun _ => failsWith_pure
        · exact failsWith_refuse nofun

theorem failsWith_hexEscape (count offset : Nat) (cs : List Char) :
    FailsWith Fault.Plain (hexEscape count offset cs) := by
  unfold hexEscape
  dsimp only
  split
  · exact failsWith_refuse nofun
  · split
    · exact failsWith_ok
    · exact failsWith_refuse nofun

theorem failsWith_escape (offset : Nat) (cs : List Char) :
    FailsWith Fault.Plain (escape offset cs) := by
  unfold escape
  split
  case h_9 | h_10 | h_11 => exact failsWith_hexEscape _ _ _
  case h_12 => exact failsWith_refuse nofun
  all_goals exact failsWith_ok

theorem failsWith_basicChars (form : StringForm) (fuel offset : Nat) (cs : List Char) :
    FailsWith Fault.Plain (basicChars form fuel offset cs) := by
  induction fuel generalizing offset cs with
  | zero => exact failsWith_ok
  | succ fuel ih =>
      unfold basicChars
      dsimp only
      split
      · exact failsWith_ok
      · split
        · exact ih _ _
        · refine (failsWith_escape _ _).bind fun (c, behind, offset) => ?_
          exact (ih _ _).bind fun _ => failsWith_pure
      · split
        · exact failsWith_refuse nofun
        · split
          · exact (ih _ _).bind fun _ => failsWith_pure
          · exact failsWith_refuse nofun

theorem failsWith_stringOf (form : StringForm) (p : Piece) :
    FailsWith Fault.Plain (stringOf form p) := by
  refine (failsWith_openQuote _ _ _).bind fun opened => ?_
  refine (failsWith_closeQuote _ _ _ _).bind fun closed => ?_
  dsimp only
  split
  · exact (failsWith_literalChars _ _ _).bind fun _ => failsWith_pure
  · exact (failsWith_literalChars _ _ _).bind fun _ => failsWith_pure
  · exact (failsWith_basicChars _ _ _ _).bind fun _ => failsWith_pure
  · exact (failsWith_basicChars _ _ _ _).bind fun _ => failsWith_pure

theorem failsWith_checkKeyChars (offset : Nat) (cs : List Char) :
    FailsWith Fault.Plain (checkKeyChars offset cs) := by
  induction cs generalizing offset with
  | nil => exact failsWith_ok
  | cons c rest ih =>
      unfold checkKeyChars
      split
      · exact ih _
      · exact failsWith_refuse nofun

theorem failsWith_keyOf (p : Piece) : FailsWith Fault.Plain (keyOf p) := by
  unfold keyOf
  split
  · exact failsWith_refuse nofun
  · exact failsWith_refuse nofun
  · exact failsWith_stringOf _ _
  · split
    · exact failsWith_refuse nofun
    · exact (failsWith_checkKeyChars _ _).bind fun _ => failsWith_pure

theorem failsWith_checkPart (isFloat : Bool) (base total first : Nat) (part : List Char) :
    FailsWith Fault.Plain (checkPart isFloat base total first part) := by
  unfold checkPart
  dsimp only
  split
  · exact failsWith_error.mpr (Problem.oneLine_of_ne nofun)
  · split
    · exact failsWith_error.mpr (Problem.oneLine_of_ne nofun)
    · split
      · exact failsWith_refuse nofun
      · exact failsWith_pure

theorem failsWith_withoutUnderscores (isFloat : Bool) (p : Piece) (first : Nat) (cs : List Char) :
    FailsWith Fault.Plain (withoutUnderscores isFloat p first cs) := by
  unfold withoutUnderscores
  dsimp only
  split
  · exact failsWith_pure
  · split
    · exact failsWith_refuse nofun
    · split
      · exact failsWith_refuse nofun
      · exact (failsWith_forM fun _ _ => failsWith_checkPart _ _ _ _ _).bind fun _ =>
          failsWith_pure

theorem failsWith_checkDigits (part : FloatPart) (offset : Nat) (cs : List Char) :
    FailsWith Fault.Plain (checkDigits part offset cs) := by
  unfold checkDigits
  dsimp only
  split
  · exact failsWith_refuse nofun
  · split
    · exact failsWith_refuse nofun
    · exact failsWith_ok

theorem failsWith_exponent (offset : Nat) (cs : List Char) :
    FailsWith Fault.Plain (checkFloat.exponent offset cs) := by
  unfold checkFloat.exponent
  split <;> exact failsWith_checkDigits _ _ _

theorem failsWith_checkFloat (offset : Nat) (cs : List Char) :
    FailsWith Fault.Plain (checkFloat offset cs) := by
  have atEnd (read : List Char × Nat) : FailsWith Fault.Plain (do
      if !read.1.isEmpty then refuse .invalidFloat read.2 : Except Fault Unit) := by
    split
    · exact failsWith_refuse nofun
    · exact failsWith_pure
  refine (failsWith_checkDigits _ _ _).bind fun read => ?_
  dsimp only
  split
  case' h_1 => refine (failsWith_checkDigits _ _ _).bind fun read => ?_
  case' h_2 => refine failsWith_pure.bind fun read => ?_
  all_goals
    split
    · exact (failsWith_exponent _ _).bind atEnd
    · exact (failsWith_exponent _ _).bind atEnd
    · exact atEnd _

theorem failsWith_floatOf (p : Piece) (first : Nat) (cs : List Char) :
    FailsWith Fault.Plain (floatOf p first cs) :=
  (failsWith_checkFloat _ _).bind fun _ =>
    (failsWith_withoutUnderscores _ _ _ _).bind fun _ => failsWith_pure

theorem failsWith_decimalOf (p : Piece) (first : Nat) (cs : List Char) :
    FailsWith Fault.Plain (decimalOf p first cs) := by
  unfold decimalOf
  split
  · exact failsWith_refuse nofun
  · exact (failsWith_withoutUnderscores _ _ _ _).bind fun _ => failsWith_pure

theorem failsWith_unquotedString (p : Piece) :
    FailsWith Fault.Plain (unquotedString p : Except Fault α) :=
  failsWith_refuse nofun

theorem failsWith_numberOf (p : Piece) (first : Nat) (cs : List Char) :
    FailsWith Fault.Plain (numberOf p first cs) := by
  unfold numberOf
  dsimp only
  split
  · exact failsWith_decimalOf _ _ _
  · split
    · split
      · exact failsWith_ok
      next problem refused => exact failsWith_error.mpr (DateTime.failsWith_ofChars _ _ refused)
    · split
      · exact failsWith_unquotedString p
      · split
        · exact failsWith_floatOf _ _ _
        · split
          · exact failsWith_decimalOf _ _ _
          · exact failsWith_unquotedString p

theorem failsWith_checkRadixDigits (radix : Radix) (offset : Nat) (cs : List Char) :
    FailsWith Fault.Plain (checkRadixDigits radix offset cs) := by
  induction cs generalizing offset with
  | nil => exact failsWith_ok
  | cons c rest ih =>
      unfold checkRadixDigits
      split
      · exact ih _
      · exact failsWith_refuse nofun

theorem failsWith_zeroOf (p : Piece) (signed : Bool) (first : Nat) (cs : List Char) :
    FailsWith Fault.Plain (zeroOf p signed first cs) := by
  unfold zeroOf
  split
  · split
    · exact failsWith_numberOf _ _ _
    · split
      · exact failsWith_refuse nofun
      · split
        · exact failsWith_refuse nofun
        · split
          · exact failsWith_refuse nofun
          · exact (failsWith_checkRadixDigits _ _ _).bind fun _ =>
              (failsWith_withoutUnderscores _ _ _ _).bind fun _ => failsWith_pure
  · exact failsWith_pure

theorem failsWith_wordOf (p : Piece) (word : Word) (value : Scalar) :
    FailsWith Fault.Plain (wordOf p word value) := by
  unfold wordOf
  split
  · exact failsWith_ok
  · split
    · exact failsWith_unquotedString p
    · exact failsWith_refuse nofun

theorem failsWith_signedWordOf (p : Piece) (word : Word) (cs : List Char) :
    FailsWith Fault.Plain (signedWordOf p word cs) := by
  unfold signedWordOf
  split
  · exact failsWith_ok
  · exact failsWith_refuse nofun

theorem failsWith_signedOf (p : Piece) (cs : List Char) :
    FailsWith Fault.Plain (signedOf p cs) := by
  unfold signedOf
  split
  · exact failsWith_unquotedString p
  · split_ifs
    · exact failsWith_refuse nofun
    · exact failsWith_zeroOf _ _ _ _
    · exact failsWith_numberOf _ _ _
    · exact failsWith_floatOf _ _ _
    · exact failsWith_signedWordOf _ _ _
    · exact failsWith_signedWordOf _ _ _
    · exact failsWith_unquotedString p

theorem failsWith_unquotedOf (p : Piece) : FailsWith Fault.Plain (unquotedOf p) := by
  unfold unquotedOf
  split
  · exact failsWith_unquotedString p
  · split_ifs
    · exact failsWith_signedOf _ _
    · exact failsWith_zeroOf _ _ _ _
    · exact failsWith_numberOf _ _ _
    · exact failsWith_floatOf _ _ _
    · split
      case h_5 => exact failsWith_unquotedString p
      all_goals exact failsWith_wordOf _ _ _

theorem failsWith_ofPiece (p : Piece) : FailsWith Fault.Plain (ofPiece p) := by
  unfold ofPiece
  split
  · exact failsWith_map.mpr (failsWith_stringOf _ _)
  · exact failsWith_unquotedOf p

end Scalar

namespace Statement

theorem failsWith_checkNewline (t : Token) : FailsWith Fault.Plain (checkNewline t) := by
  unfold checkNewline
  split
  · exact failsWith_refuse nofun
  · exact failsWith_ok

theorem failsWith_checkComment_go (offset : Nat) (cs : List Char) :
    FailsWith Fault.Plain (checkComment.go offset cs) := by
  induction cs generalizing offset with
  | nil => exact failsWith_ok
  | cons c rest ih =>
      unfold checkComment.go
      split
      · exact ih _
      · exact failsWith_refuse nofun

theorem failsWith_comment (s : Stream) : FailsWith Fault.Plain (comment s) := by
  refine (failsWith_checkComment_go _ _).bind fun _ => ?_
  dsimp only
  split
  · exact (failsWith_checkNewline _).bind fun _ => failsWith_pure
  · exact failsWith_pure

theorem failsWith_newline (s : Stream) : FailsWith Fault.Plain (newline s) :=
  (failsWith_checkNewline _).bind fun _ => failsWith_pure

theorem failsWith_lineRest (s : Stream) : FailsWith Fault.Plain (lineRest s) := by
  unfold lineRest
  dsimp only
  split
  · exact failsWith_comment _
  · exact failsWith_newline _
  · exact failsWith_ok
  · exact failsWith_refuse nofun

theorem failsWith_skipLine (fuel : Nat) (s : Stream) :
    FailsWith Fault.Plain (skipLine fuel s) := by
  induction fuel generalizing s with
  | zero => exact failsWith_ok
  | succ fuel ih =>
      unfold skipLine
      split
      · exact failsWith_comment _
      · exact failsWith_newline _
      · exact failsWith_ok
      · exact ih _

/-- The readers of values, arrays and inline tables call each other, so that one bound on their
calls serves all three. -/
theorem failsWith_values (fuel : Nat) :
    (∀ depth s, FailsWith Fault.Plain (term fuel depth s)) ∧
    (∀ depth needsValue s, FailsWith Fault.Plain (array fuel depth needsValue s)) ∧
    (∀ depth need s, FailsWith Fault.Plain (inlineTable fuel depth need s)) := by
  induction fuel with
  | zero =>
      refine ⟨fun _ _ => ?_, fun _ _ _ => ?_, fun _ _ _ => ?_⟩
      all_goals exact failsWith_refuse nofun
  | succ fuel ih =>
      obtain ⟨term_ih, array_ih, table_ih⟩ := ih
      refine ⟨fun depth s => ?_, fun depth needsValue s => ?_, fun depth need s => ?_⟩
      · unfold term
        dsimp only
        split
        case h_6 =>
          split
          · exact failsWith_refuse nofun
          · exact (table_ih _ _ _).bind fun _ => failsWith_pure
        case h_8 =>
          split
          · exact failsWith_refuse nofun
          · exact (array_ih _ _ _).bind fun _ => failsWith_pure
        case h_5 | h_7 | h_9 => exact failsWith_refuse nofun
        case h_10 => exact term_ih _ _
        all_goals exact failsWith_ok
      · unfold array
        dsimp only
        split
        case h_1 => exact (failsWith_comment _).bind fun _ => array_ih _ _ _
        case h_2 => exact (failsWith_newline _).bind fun _ => array_ih _ _ _
        case h_3 => exact array_ih _ _ _
        case h_5 =>
          split
          · exact failsWith_refuse nofun
          · exact array_ih _ _ _
        case h_8 => exact failsWith_ok
        case h_9 =>
          split
          · exact failsWith_refuse nofun
          · exact (term_ih _ _).bind fun _ => (array_ih _ _ _).bind fun _ => failsWith_pure
        all_goals exact failsWith_refuse nofun
      · unfold inlineTable
        dsimp only
        split
        case h_1 => exact (failsWith_comment _).bind fun _ => table_ih _ _ _
        case h_2 => exact (failsWith_newline _).bind fun _ => table_ih _ _ _
        case h_3 => exact table_ih _ _ _
        case h_4 => exact failsWith_refuse nofun
        case h_5 | h_6 | h_7 | h_8 => split <;>
          first | exact failsWith_ok | exact table_ih _ _ _ | exact failsWith_refuse nofun
        case h_9 =>
          split
          · split
            · exact failsWith_refuse nofun
            · exact table_ih _ _ _
          · exact failsWith_refuse nofun
          · split <;> exact failsWith_refuse nofun
          · exact (term_ih _ _).bind fun _ => (table_ih _ _ _).bind fun _ => failsWith_pure

theorem failsWith_readHeader (s : Stream) : FailsWith Fault.Plain (readHeader s) := by
  unfold readHeader
  dsimp only
  split_ifs
  all_goals first
    | exact failsWith_refuse nofun
    | exact (failsWith_skipLine _ _).bind fun _ => failsWith_pure
    | exact (failsWith_lineRest _).bind fun _ => failsWith_pure

theorem failsWith_readEntry (s : Stream) : FailsWith Fault.Plain (readEntry s) := by
  unfold readEntry
  dsimp only
  split
  · exact failsWith_refuse nofun
  · exact ((failsWith_values _).1 _ _).bind fun _ =>
      (failsWith_lineRest _).bind fun _ => failsWith_pure

theorem failsWith_all (fuel : Nat) (s : Stream) : FailsWith Fault.Plain (all fuel s) := by
  induction fuel generalizing s with
  | zero => exact failsWith_ok
  | succ fuel ih =>
      unfold all
      dsimp only
      split
      case h_1 => exact failsWith_ok
      case h_2 => exact ih _
      case h_3 => exact (failsWith_newline _).bind fun _ => ih _
      case h_4 => exact (failsWith_comment _).bind fun _ => ih _
      case h_5 =>
        exact (failsWith_readHeader _).bind fun _ => (ih _).bind fun _ => failsWith_pure
      case h_10 =>
        exact (failsWith_readEntry _).bind fun _ => (ih _).bind fun _ => failsWith_pure
      all_goals exact failsWith_refuse nofun

end Statement

namespace Node

theorem failsWith_keyParts (pieces : List Piece) : FailsWith Fault.Plain (keyParts pieces) :=
  failsWith_mapM fun _ _ => (Scalar.failsWith_keyOf _).bind fun _ => failsWith_pure

theorem failsWith_within {dotted : Bool}
    {change : Keyed Node → Origin → Except Fault (Keyed Node)}
    (changed : ∀ entries origin, FailsWith Fault.Plain (change entries origin))
    (path : List KeyPart) (origin : Origin) (entries : Keyed Node) :
    FailsWith Fault.Plain (within dotted change path origin entries) := by
  induction path generalizing origin entries with
  | nil => exact changed _ _
  | cons part path ih =>
      unfold within
      split
      · exact (ih _ _).bind fun _ => failsWith_pure
      · split
        · exact failsWith_refuse nofun
        · split
          · exact failsWith_refuse nofun
          · exact (ih _ _).bind fun _ => failsWith_pure
      · split
        · exact (ih _ _).bind fun _ => failsWith_pure
        · exact failsWith_refuse nofun
      · exact failsWith_refuse nofun

theorem failsWith_setEntry (key : List KeyPart) (value : Node) (origin : Origin)
    (entries : Keyed Node) : FailsWith Fault.Plain (setEntry key value origin entries) := by
  unfold setEntry
  split
  · exact failsWith_ok
  · refine failsWith_within (fun inner found => ?_) _ _ _
    split
    · exact failsWith_refuse nofun
    · exact failsWith_ok

theorem failsWith_checkLength (key : List KeyPart) :
    FailsWith Fault.Plain (checkLength key) := by
  unfold checkLength
  split
  · exact failsWith_error.mpr (Problem.oneLine_of_ne nofun)
  · exact failsWith_ok

mutual

theorem failsWith_ofTerm (t : Term) : FailsWith Fault.Plain (ofTerm t) := by
  unfold ofTerm
  split
  · exact (Scalar.failsWith_ofPiece _).bind fun _ => failsWith_pure
  next items => exact (failsWith_ofTerms items).bind fun _ => failsWith_pure
  next entries => exact (failsWith_ofEntries [] entries).bind fun _ => failsWith_pure

theorem failsWith_ofTerms (ts : List Term) : FailsWith Fault.Plain (ofTerms ts) := by
  unfold ofTerms
  split
  · exact failsWith_ok
  next t rest =>
    exact (failsWith_ofTerm t).bind fun _ => (failsWith_ofTerms rest).bind fun _ => failsWith_pure

theorem failsWith_ofEntries (table : Keyed Node) (entries : List (List Piece × Term)) :
    FailsWith Fault.Plain (ofEntries table entries) := by
  unfold ofEntries
  split
  · exact failsWith_ok
  next key t rest =>
    refine (failsWith_keyParts key).bind fun key => (failsWith_ofTerm t).bind fun value => ?_
    refine (failsWith_checkLength key).bind fun _ => (failsWith_setEntry _ _ _ _).bind fun _ => ?_
    exact failsWith_ofEntries _ rest

end

namespace Reading

theorem failsWith_finish (r : Reading) : FailsWith Fault.Plain r.finish := by
  have appended (last : KeyPart) (table : Node) (entries : Keyed Node) :
      FailsWith Fault.Plain (appendTable last table entries) := by
    unfold appendTable
    split
    · exact failsWith_ok
    · exact failsWith_ok
    · exact failsWith_refuse nofun
  unfold finish
  split
  · exact failsWith_ok
  · split
    · exact failsWith_ok
    · refine failsWith_within (fun entries _ => ?_) _ _ _
      split
      · exact appended _ _ _
      · exact failsWith_ok

theorem failsWith_start (root : Keyed Node) (h : Header) :
    FailsWith Fault.Plain (start root h) := by
  have claimed (last : KeyPart) (entries : Keyed Node) :
      FailsWith Fault.Plain (claim last entries) := by
    unfold claim
    split
    · exact failsWith_ok
    · exact failsWith_ok
    · exact failsWith_refuse nofun
  unfold start
  split
  · exact failsWith_ok
  · split
    · exact failsWith_ok
    · exact (failsWith_within (fun _ _ => claimed _ _) _ _ _).bind fun _ => failsWith_pure

theorem failsWith_step (r : Reading) (statement : Statement) :
    FailsWith Fault.Plain (r.step statement) := by
  cases statement with
  | header isArray key =>
      refine r.failsWith_finish.bind fun root => (failsWith_keyParts key).bind fun key => ?_
      exact (failsWith_checkLength key).bind fun _ => failsWith_start _ _
  | entry key t =>
      refine (failsWith_keyParts key).bind fun key => (failsWith_ofTerm t).bind fun value => ?_
      refine (failsWith_checkLength key).bind fun _ => ?_
      exact (failsWith_setEntry _ _ _ _).bind fun _ => failsWith_pure

end Reading

theorem failsWith_ofStatements (statements : List Statement) :
    FailsWith Fault.Plain (ofStatements statements) :=
  (failsWith_foldlM fun r statement _ => r.failsWith_step statement).bind fun r =>
    r.failsWith_finish

end Node

namespace Value

theorem failsWith_integer (radix : Radix) (cs : List Char) (offset : Nat) :
    FailsWith Fault.Plain (integer radix cs offset) := by
  unfold integer
  split
  · exact failsWith_refuse nofun
  · split_ifs
    · exact failsWith_refuse nofun
    · exact failsWith_ok
    · exact failsWith_refuse nofun

theorem failsWith_float (cs : List Char) (offset : Nat) :
    FailsWith Fault.Plain (float cs offset) := by
  unfold float
  split
  · exact failsWith_ok
  · split
    · exact failsWith_ok
    · exact failsWith_refuse nofun

theorem failsWith_scalar (v : Scalar) (offset : Nat) :
    FailsWith Fault.Plain (scalar v offset) := by
  cases v with
  | integer radix digits => exact failsWith_integer _ _ _
  | float text => exact failsWith_float _ _
  | _ => exact failsWith_ok

mutual

theorem failsWith_ofNode (n : Node) : FailsWith Fault.Plain (ofNode n) := by
  unfold ofNode
  split
  · exact failsWith_scalar _ _
  next items => exact (failsWith_ofNodes items).bind fun _ => failsWith_pure
  next items => exact (failsWith_ofNodes items).bind fun _ => failsWith_pure
  next entries => exact (failsWith_ofEntries entries).bind fun _ => failsWith_pure

theorem failsWith_ofNodes (ns : List Node) : FailsWith Fault.Plain (ofNodes ns) := by
  unfold ofNodes
  split
  · exact failsWith_ok
  next n rest =>
    exact (failsWith_ofNode n).bind fun _ => (failsWith_ofNodes rest).bind fun _ => failsWith_pure

theorem failsWith_ofEntries (entries : List (String × Node)) :
    FailsWith Fault.Plain (ofEntries entries) := by
  unfold ofEntries
  split
  · exact failsWith_ok
  next key n rest =>
    exact (failsWith_ofNode n).bind fun _ =>
      (failsWith_ofEntries rest).bind fun _ => failsWith_pure

end
end Value

/-- Whatever is wrong with a text, what is said of it is on one line. -/
theorem failsWith_parse (text : String) : FailsWith Fault.Plain (parse text) :=
  (Statement.failsWith_all _ _).bind fun _ => (Node.failsWith_ofStatements _).bind fun _ =>
    (Value.failsWith_ofEntries _).bind fun _ => failsWith_pure

end AgentManifest.Toml
