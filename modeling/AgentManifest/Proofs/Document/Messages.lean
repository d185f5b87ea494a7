import AgentManifest.Proofs.Document.Location
import AgentManifest.Proofs.Toml.Faults

/-! What is said of a document that cannot be read. The sentence is on one line unless it shows a
key of the document that is not: a key that an object gives twice is shown as it is, and so are the
keys on the way to a value that no value tree can keep. -/

namespace AgentManifest

open Text

namespace Document

theorem PlaceTail.oneLine {tail : String} (ends : PlaceTail tail) : OneLine tail := by
  obtain ⟨place, is, chars⟩ := placeTail_iff.mp ends
  rw [OneLine, chars, List.mem_cons, not_or]
  refine ⟨by decide, fun broken => ?_⟩
  rcases mem_joinWith broken with blank | ⟨word, inside, broken⟩
  · exact absurd blank (by decide)
  · exact is.not_mem (by decide) inside broken

theorem oneLine_withoutLocation (sentence : String) :
    OneLine (withoutLocation sentence) ↔ OneLine sentence := by
  rcases withoutLocation_cases sentence with whole | ⟨tail, ends, same⟩
  · rw [whole]
  · have parts : OneLine sentence ↔ OneLine (withoutLocation sentence) ∧ OneLine tail := by
      rw [← oneLine_append, ← same]
    exact (parts.trans (and_iff_left ends.oneLine)).symm

end Document

namespace Json

/-- The keys that are shown with a fault. -/
def Fault.keys : Fault → List String
  | .repeatedKey key => [key]
  | _ => []

theorem Fault.oneLine_message (f : Fault) : OneLine f.message ↔ ∀ key ∈ f.keys, OneLine key := by
  cases f with
  | repeatedKey key =>
      have lead : OneLine "duplicate key `" := oneLine_ofList (by decide)
      have close : OneLine "`" := oneLine_ofList (by decide)
      rw [keys, List.forall_mem_singleton]
      exact oneLine_between lead close
  | _ => exact iff_of_true (oneLine_ofList (by decide)) nofun

end Json

namespace Yaml

theorem Mark.oneLine_text (m : Mark) : OneLine m.text := by
  have position : OneLine "position " := oneLine_ofList (by decide)
  have line : OneLine "line " := oneLine_ofList (by decide)
  have column : OneLine " column " := oneLine_ofList (by decide)
  unfold text
  split <;> simp [position, line, column]

theorem Activity.oneLine_text (activity : Activity) : OneLine activity.text := by
  cases activity <;> exact oneLine_ofList (by decide)

theorem Problem.oneLine_text (p : Problem) : OneLine p.text := by
  cases p <;> exact oneLine_ofList (by decide)

theorem SyntaxFault.oneLine_text (f : SyntaxFault) : OneLine f.text := by
  have nothing : OneLine "" := oneLine_ofList (by decide)
  have at_ : OneLine " at " := oneLine_ofList (by decide)
  have comma : OneLine ", " := oneLine_ofList (by decide)
  unfold text
  dsimp only
  rw [oneLine_append, oneLine_append]
  refine ⟨⟨f.problem.oneLine_text, ?_⟩, ?_⟩
  · split
    · exact nothing
    · exact oneLine_append.mpr ⟨at_, f.mark.oneLine_text⟩
  · split
    · exact nothing
    next activity start _ =>
      have during := oneLine_append.mpr ⟨comma, activity.oneLine_text⟩
      split
      · exact oneLine_append.mpr ⟨oneLine_append.mpr ⟨during, at_⟩, start.oneLine_text⟩
      · exact during

theorem NodeSort.oneLine_text (found : NodeSort) : OneLine found.text := by
  cases found <;> exact oneLine_ofList (by decide)

theorem Wanted.oneLine_text (wanted : Wanted) : OneLine wanted.text := by
  cases wanted <;> exact oneLine_ofList (by decide)

theorem ScalarValue.Kind.oneLine_expected (kind : Kind) : OneLine kind.expected := by
  cases kind <;> exact oneLine_ofList (by decide)

theorem DataFault.oneLine_text (f : DataFault) : OneLine f.text := by
  have expected : OneLine ", expected " := oneLine_ofList (by decide)
  cases f with
  | wrongSort found wanted =>
      have lead : OneLine "invalid type: " := oneLine_ofList (by decide)
      exact oneLine_pair lead found.oneLine_text expected wanted.oneLine_text
  | notOfKind text kind =>
      have lead : OneLine "invalid value: string " := oneLine_ofList (by decide)
      exact oneLine_pair lead (oneLine_quotedText text) expected kind.oneLine_expected
  | outOfRange =>
      have sentence : OneLine "JSON number out of range" := oneLine_ofList (by decide)
      exact sentence

/-- The keys on the way to a value. -/
def ValuePath.names : ValuePath → List String
  | .root => []
  | .index parent _ | .unnamed parent => parent.names
  | .key parent name => name :: parent.names

theorem ValuePath.oneLine_texts (path : ValuePath) :
    (OneLine path.text ↔ ∀ name ∈ path.names, OneLine name) ∧
      (OneLine path.lead ↔ ∀ name ∈ path.names, OneLine name) := by
  have dot : OneLine "." := oneLine_ofList (by decide)
  have unknown : OneLine "?" := oneLine_ofList (by decide)
  induction path with
  | root =>
      have nothing : OneLine "" := oneLine_ofList (by decide)
      exact ⟨iff_of_true dot nofun, iff_of_true nothing nofun⟩
  | index parent i ih =>
      have shown : OneLine (index parent i).text ↔ OneLine parent.text :=
        oneLine_append.trans (and_iff_left (oneLine_index i))
      have led : OneLine (index parent i).lead ↔ OneLine (index parent i).text :=
        oneLine_append.trans (and_iff_left dot)
      rw [led, shown, names]
      exact ⟨ih.1, ih.1⟩
  | key parent name ih =>
      rw [text, lead, oneLine_append, oneLine_append, oneLine_append, and_iff_left dot, ih.2,
        names, List.forall_mem_cons]
      exact ⟨and_comm, and_comm⟩
  | unnamed parent ih =>
      rw [text, lead, oneLine_append, oneLine_append, oneLine_append, and_iff_left dot,
        and_iff_left unknown, names]
      exact ⟨ih.2, ih.2⟩

/-- The keys that are shown with an error. -/
def ReadError.names : ReadError → List String
  | .data _ _ path => path.names
  | _ => []

theorem ReadError.oneLine_placed (text : String) (mark : Mark) :
    OneLine (placed text mark) ↔ OneLine text := by
  have at_ : OneLine " at " := oneLine_ofList (by decide)
  unfold placed
  split
  · exact Iff.rfl
  · rw [oneLine_append, oneLine_append]
    exact ⟨fun whole => whole.1.1, fun whole => ⟨⟨whole, at_⟩, mark.oneLine_text⟩⟩

theorem ReadError.oneLine_text (e : ReadError) :
    OneLine e.text ↔ ∀ name ∈ e.names, OneLine name := by
  cases e with
  | controlCharacter offset =>
      have sentence : OneLine "control characters are not allowed" := oneLine_ofList (by decide)
      have rest : OneLine " at position " := oneLine_ofList (by decide)
      have lead : OneLine "control characters are not allowed at position " :=
        oneLine_append.mpr ⟨sentence, rest⟩
      refine iff_of_true ?_ nofun
      unfold text
      dsimp only
      split
      · exact sentence
      · exact oneLine_append.mpr ⟨lead, oneLine_nat offset⟩
  | syntaxFault f => exact iff_of_true f.oneLine_text nofun
  | unknownAnchor mark | tooDeep mark =>
      exact iff_of_true ((oneLine_placed _ mark).mpr (oneLine_ofList (by decide))) nofun
  | tooManyAliases | moreDocuments | endOfStream =>
      exact iff_of_true (oneLine_ofList (by decide)) nofun
  | data f mark path =>
      have colon : OneLine ": " := oneLine_ofList (by decide)
      have shown := path.oneLine_texts.1
      refine (oneLine_placed _ mark).trans ?_
      rw [oneLine_append, and_iff_left f.oneLine_text, names, ← shown]
      split
      next root =>
        have nothing : OneLine "" := oneLine_ofList (by decide)
        have dot : OneLine "." := oneLine_ofList (by decide)
        exact iff_of_true nothing (root ▸ dot)
      next => exact oneLine_append.trans (and_iff_left colon)

end Yaml

theorem Utf8.Fault.oneLine_message (f : Utf8.Fault) : OneLine f.message := by
  have lead : OneLine "invalid utf-8 sequence of " := oneLine_ofList (by decide)
  have rest : OneLine " bytes from index " := oneLine_ofList (by decide)
  have broken : OneLine "incomplete utf-8 byte sequence from index " := oneLine_ofList (by decide)
  unfold message
  split <;> simp [lead, rest, broken]

namespace Document

/-- The keys of a document that are shown with what is wrong with it. -/
def shownNames (format : DocumentFormat) (bytes : List UInt8) : List String :=
  match Utf8.decode bytes with
  | .error _ => []
  | .ok text =>
    match format with
    | .json =>
      match Json.parseDistinct text with
      | .error e => e.fault.keys
      | .ok _ => []
    | .yaml =>
      match Yaml.parse text with
      | .error e => e.names
      | .ok _ => []
    | .toml => []

theorem oneLine_of_readBytes {format : DocumentFormat} {bytes : List UInt8} {c : Complaint}
    (refused : readBytes format bytes = .error c) :
    OneLine c.message ↔ ∀ name ∈ shownNames format bytes, OneLine name := by
  unfold readBytes at refused
  unfold shownNames
  split at refused
  next text decoded =>
    rw [decoded]
    cases format with
    | json =>
        obtain ⟨e, failed, rfl⟩ := mapError_eq_error.mp refused
        simp only [failed, ofJsonError_message]
        exact e.fault.oneLine_message
    | yaml =>
        obtain ⟨e, failed, rfl⟩ := mapError_eq_error.mp refused
        have message : (ofYamlError e).message = withoutLocation e.text := by
          unfold ofYamlError
          split <;> rfl
        simp only [failed, message]
        exact (oneLine_withoutLocation _).trans e.oneLine_text
    | toml =>
        obtain ⟨f, failed, rfl⟩ := mapError_eq_error.mp refused
        have message : (ofTomlFault text.toUTF8.toList f).message = f.problem.text := by
          unfold ofTomlFault
          split <;> rfl
        simp only [message]
        exact iff_of_true (Toml.failsWith_parse text f failed) nofun
  next fault decoded =>
    cases refused
    have lead : OneLine "invalid UTF-8: " := oneLine_ofList (by decide)
    rw [decoded]
    exact iff_of_true (oneLine_append.mpr ⟨lead, fault.oneLine_message⟩) nofun

end Document

theorem DocumentFormat.oneLine_name (format : DocumentFormat) : OneLine format.name := by
  cases format <;> exact oneLine_ofList (by decide)

theorem ParseError.oneLine_positionText (e : ParseError) : OneLine e.positionText := by
  have colon : OneLine ":" := oneLine_ofList (by decide)
  have nothing : OneLine "" := oneLine_ofList (by decide)
  unfold positionText
  split
  · exact oneLine_pair colon (oneLine_nat _) colon (oneLine_nat _)
  · exact oneLine_append.mpr ⟨colon, oneLine_nat _⟩
  · exact nothing

theorem ParseError.oneLine_text (e : ParseError) :
    OneLine e.text ↔ OneLine e.filename ∧ OneLine e.message := by
  have invalid : OneLine ": invalid " := oneLine_ofList (by decide)
  have colon : OneLine ": " := oneLine_ofList (by decide)
  simp [text, invalid, colon, e.oneLine_positionText, e.format.oneLine_name]

/-- What is said of a document that cannot be read is on one line if the name of its file is, and
the keys that are shown. -/
theorem Document.oneLine_of_read {filename : String} {bytes : List UInt8} {e : ParseError}
    (refused : read filename bytes = .error e) :
    OneLine e.text ↔ OneLine filename ∧
      ∀ name ∈ shownNames (.ofPath filename) bytes, OneLine name := by
  obtain ⟨c, failed, rfl⟩ := mapError_eq_error.mp refused
  rw [ParseError.oneLine_text, ← oneLine_of_readBytes failed]
  exact Iff.rfl

end AgentManifest
