import Mathlib.Data.List.Infix
import AgentManifest.Proofs.Url.Host
import AgentManifest.Proofs.Url.Path

/-! Addresses as their texts show them. What is written of an address is read back part by part,
without knowing how addresses are parsed or made. -/

namespace AgentManifest.Url

/-- The parts of an address of the scheme `https`. -/
structure Address where
  /-- User, password, host and port. -/
  authority : List Char
  segments : List (List Char)
  pairs : List (List Char)
  fragment : Option (List Char)
  deriving DecidableEq

namespace Address

/-- The pairs between the ampersands of a query. Where there is nothing there is no pair. -/
def pairsIn (query : List Char) : List (List Char) := (Text.splitAt '&' query).filter (· ≠ [])

/-- The rest of a text behind the first occurrence of a mark. -/
def behind? (mark : Char) (text : List Char) : Option (List Char) :=
  match text.dropWhile (· ≠ mark) with
  | [] => none
  | _ :: rest => some rest

/-- The parts of what stands behind the scheme and its slashes. -/
def readParts (text : List Char) : Option Address :=
  match text.dropWhile (!separates ·) with
  | '/' :: behind =>
    let resource := behind.takeWhile (· ≠ '#')
    some {
      authority := text.takeWhile (!separates ·)
      segments := Text.splitAt '/' (resource.takeWhile (· ≠ '?'))
      pairs := (behind? '?' resource).elim [] pairsIn
      fragment := behind? '#' behind }
  | _ => none

def read : List Char → Option Address
  | 'h' :: 't' :: 't' :: 'p' :: 's' :: ':' :: '/' :: '/' :: text => readParts text
  | _ => none

end Address

theorem takeWhile_stop {p : Char → Bool} {a b : List Char} (runs : ∀ c ∈ a, p c)
    (stops : ∀ c ∈ b.head?, p c = false) : (a ++ b).takeWhile p = a := by
  rw [List.takeWhile_append_of_pos runs]
  cases b with
  | nil => simp
  | cons c b => rw [List.takeWhile_cons_of_neg (by simp [stops c rfl]), List.append_nil]

theorem dropWhile_stop {p : Char → Bool} {a b : List Char} (runs : ∀ c ∈ a, p c)
    (stops : ∀ c ∈ b.head?, p c = false) : (a ++ b).dropWhile p = b := by
  rw [List.dropWhile_append_of_pos runs]
  cases b with
  | nil => rfl
  | cons c b => rw [List.dropWhile_cons_of_neg (by simp [stops c rfl])]

/-- A part that may be left out, with its mark. -/
def marked (mark : Char) (part : Option (List Char)) : List Char := part.elim [] (mark :: ·)

theorem stops_marked (mark : Char) (part : Option (List Char)) :
    ∀ c ∈ (marked mark part).head?, (decide (c ≠ mark)) = false := by
  cases part with
  | none => simp [marked]
  | some part => simp [marked]

theorem behind?_marked {mark : Char} {front : List Char} (plain : mark ∉ front)
    (part : Option (List Char)) : Address.behind? mark (front ++ marked mark part) = part := by
  have runs : ∀ c ∈ front, decide (c ≠ mark) = true := fun c mem => by
    simp only [ne_eq, decide_not, Bool.not_eq_eq_eq_not, Bool.not_true, decide_eq_false_iff_not]
    rintro rfl
    exact plain mem
  rw [Address.behind?, dropWhile_stop runs (stops_marked mark part)]
  cases part <;> rfl

theorem before_marked {mark : Char} {front : List Char} (plain : mark ∉ front)
    (part : Option (List Char)) :
    (front ++ marked mark part).takeWhile (· ≠ mark) = front := by
  refine takeWhile_stop (fun c mem => ?_) (stops_marked mark part)
  simp only [ne_eq, decide_not, Bool.not_eq_eq_eq_not, Bool.not_true, decide_eq_false_iff_not]
  rintro rfl
  exact plain mem

namespace SecureUrl

def authority (u : SecureUrl) : List Char :=
  u.credentials ++ u.host.text ++ marked ':' (u.port.map fun port => (toString port).toList)

def pairs (u : SecureUrl) : List (List Char) := u.query.elim [] Address.pairsIn

/-- Addresses whose parts hold no character that would end them. -/
structure Sound (u : SecureUrl) : Prop where
  authority : Unbroken u.authority
  filled : u.path.segments ≠ []
  segments : ∀ segment ∈ u.path.segments, Unbroken segment
  query : ∀ query ∈ u.query, '#' ∉ query

theorem text_eq (u : SecureUrl) :
    u.text = "https://".toList ++ (u.authority ++ '/' ::
      (Text.joinWith '/' u.path.segments ++ marked '?' u.query ++ marked '#' u.fragment)) := by
  obtain ⟨credentials, host, port, path, query, fragment⟩ := u
  unfold text authority Path.text
  generalize "https://".toList = scheme
  cases port <;> cases query <;> cases fragment <;>
    simp only [marked, Option.map, Option.elim, List.append_assoc, List.cons_append,
      List.append_nil]

theorem read_text {u : SecureUrl} (sound : u.Sound) :
    Address.read u.text = some ⟨u.authority, u.path.segments, u.pairs, u.fragment⟩ := by
  -- Each part ends at a mark that nothing in front of it holds.
  have whole : ∀ mark, mark = '?' ∨ mark = '#' → mark ∉ Text.joinWith '/' u.path.segments := by
    rintro mark one mem
    obtain rfl | ⟨segment, listed, mem⟩ := Text.mem_joinWith mem
    · simp at one
    · have := sound.segments segment listed mark mem
      obtain rfl | rfl := one <;> cases this
  have noFragment : '#' ∉ Text.joinWith '/' u.path.segments ++ marked '?' u.query := by
    rw [List.mem_append, not_or]
    refine ⟨whole '#' (.inr rfl), ?_⟩
    cases given : u.query with
    | none => simp [marked]
    | some query => simpa [marked] using sound.query query given
  have segments : Text.splitAt '/' (Text.joinWith '/' u.path.segments) = u.path.segments :=
    Text.splitAt_joinWith sound.filled fun segment listed mem => by
      cases sound.segments segment listed '/' mem
  have runs : ∀ c ∈ u.authority, (!separates c) = true := fun c mem => by
    simp [sound.authority c mem]
  obtain ⟨resource, laid⟩ : ∃ resource, resource =
    Text.joinWith '/' u.path.segments ++ marked '?' u.query := ⟨_, rfl⟩
  have path : resource.takeWhile (· ≠ '?') = Text.joinWith '/' u.path.segments :=
    laid ▸ before_marked (whole '?' (.inl rfl)) u.query
  have query : Address.behind? '?' resource = u.query :=
    laid ▸ behind?_marked (whole '?' (.inl rfl)) u.query
  have stops : ∀ c ∈ ('/' :: (resource ++ marked '#' u.fragment)).head?,
      (!separates c) = false := by
    rintro c ⟨⟩
    rfl
  rw [← laid] at noFragment
  have scheme : ∀ text, Address.read ("https://".toList ++ text) = Address.readParts text :=
    fun _ => rfl
  rw [text_eq, ← laid, scheme, Address.readParts, dropWhile_stop runs stops,
    takeWhile_stop runs stops]
  simp only [before_marked noFragment, behind?_marked noFragment, path, query, segments, pairs]

end SecureUrl

namespace Path

variable {holds : List Char → Prop} {before : List (List Char)}

theorem forall_mem_shorten (all : ∀ s ∈ before, holds s) : ∀ s ∈ shorten before, holds s := by
  rw [shorten]
  split
  · exact all
  · exact fun s mem => all s (List.mem_of_mem_dropLast mem)

theorem forall_mem_enter {segment : List Char} (all : ∀ s ∈ before, holds s)
    (here : holds segment) : ∀ s ∈ enter before segment, holds s := by
  rw [enter]
  split_ifs
  · exact forall_mem_shorten all
  · exact all
  · exact List.forall_mem_append.mpr ⟨all, List.forall_mem_singleton.mpr here⟩

theorem forall_mem_finish {segment : List Char} (empty : holds []) (all : ∀ s ∈ before, holds s)
    (here : holds segment) : ∀ s ∈ (finish before segment).segments, holds s := by
  rw [finish]
  split_ifs
  · exact List.forall_mem_append.mpr ⟨forall_mem_shorten all, List.forall_mem_singleton.mpr empty⟩
  · exact List.forall_mem_append.mpr ⟨all, List.forall_mem_singleton.mpr empty⟩
  · exact List.forall_mem_append.mpr ⟨all, List.forall_mem_singleton.mpr here⟩

theorem finish_ne_nil (before : List (List Char)) (segment : List Char) :
    (finish before segment).segments ≠ [] := by
  rw [finish]
  split_ifs <;> simp

theorem forall_mem_ofPieces {pieces : List (List Char)} (empty : holds [])
    (all : ∀ s ∈ before, holds s) (each : ∀ s ∈ pieces, holds s) :
    ∀ s ∈ (ofPieces before pieces).segments, holds s := by
  induction pieces generalizing before with
  | nil => exact forall_mem_finish empty all empty
  | cons piece rest ih =>
      obtain ⟨here, others⟩ := List.forall_mem_cons.mp each
      cases rest with
      | nil => exact forall_mem_finish empty all here
      | cons next rest => exact ih (forall_mem_enter all here) others

theorem ofPieces_ne_nil (before pieces : List (List Char)) :
    (ofPieces before pieces).segments ≠ [] := by
  induction pieces generalizing before with
  | nil => exact finish_ne_nil _ _
  | cons piece rest ih =>
      cases rest with
      | nil => exact finish_ne_nil _ _
      | cons next rest => exact ih _

theorem unbroken_ofText (text : List Char) : ∀ s ∈ (ofText text).segments, Unbroken s := by
  refine forall_mem_ofPieces unbroken_nil (fun s mem => absurd mem List.not_mem_nil) ?_
  intro s mem
  obtain ⟨piece, listed, rfl⟩ := List.mem_map.mp mem
  refine unbroken_percentEncode fun c given breaks => ?_
  obtain rfl | rfl | rfl := separates_iff.mp breaks
  · exact absurd given (Text.not_mem_of_mem_splitAt listed)
  all_goals rfl

end Path

theorem SecureUrl.sound_of_parse {text : List Char} {u : SecureUrl} (parsed : parse text = .ok u) :
    u.Sound := by
  unfold parse at parsed
  extract_lets text shown at parsed
  have unbroken := unbroken_credentials shown
  generalize splitCredentials shown = taken at parsed unbroken
  obtain ⟨credentials, behind⟩ := taken
  dsimp only at parsed unbroken
  generalize splitHost false behind = taken at parsed
  obtain ⟨hostText, behind⟩ := taken
  dsimp only at parsed
  split at parsed
  next => cases parsed
  next =>
    simp only [bind_eq_ok, pure_eq_ok] at parsed
    obtain ⟨host, read, ⟨port, rest⟩, -, made⟩ := parsed
    cases made
    refine ⟨?_, Path.ofPieces_ne_nil _ _, Path.unbroken_ofText _, ?_⟩
    · rw [authority, unbroken_append, unbroken_append]
      refine ⟨⟨unbroken, Host.unbroken_text read⟩, ?_⟩
      cases port with
      | none => exact unbroken_nil
      | some port => exact unbroken_cons.mpr ⟨rfl, unbroken_toString port⟩
    · intro query asked mem
      obtain ⟨text, -, rfl⟩ := Option.map_eq_some_iff.mp asked
      exact not_mem_percentEncode rfl (by decide)
        (fun n bound => by interval_cases n <;> decide) mem

end AgentManifest.Url
