import Mathlib.Data.List.Infix
import AgentManifest.Delivery.Endpoint
import AgentManifest.Proofs.Url.Address

/-! The address that agents are created at, read back from its text. Each name is a segment of its
own, so that different places have different addresses, unless it is a name that no segment can
stand for: dots alone, or one with tabs or line ends in it. -/

namespace AgentManifest

open Url

namespace Url

namespace Path

/-- The segments that stay in front of what is added. An empty last one does not, nor does an empty
one that is left alone. -/
def kept (p : Path) : List (List Char) :=
  let filled := if p.segments.getLast? = some [] then p.segments.dropLast else p.segments
  if filled = [[]] then [] else filled

theorem front_mk (segments : List (List Char)) :
    front ⟨segments⟩ = if segments = [[]] then [] else segments := by
  simp only [front, root, Path.mk.injEq]

theorem front_popIfEmpty {p : Path} (filled : p.segments ≠ []) : p.popIfEmpty.front = p.kept := by
  obtain ⟨segments⟩ := p
  obtain rfl | ⟨before, last, rfl⟩ := List.eq_nil_or_concat' segments
  · exact absurd rfl filled
  cases last with
  | cons c rest =>
      have stays : popIfEmpty ⟨before ++ [c :: rest]⟩ = ⟨before ++ [c :: rest]⟩ := by
        rw [popIfEmpty, List.reverse_append]
        rfl
      have solid : some (c :: rest) ≠ some [] := by simp
      rw [stays, front_mk, kept, List.getLast?_concat, if_neg solid]
  | nil =>
      rw [kept, List.getLast?_concat, if_pos rfl, List.dropLast_concat]
      obtain rfl | ⟨before, next, rfl⟩ := List.eq_nil_or_concat' before
      · rfl
      · have popped : popIfEmpty ⟨before ++ [next] ++ [[]]⟩ = ⟨before ++ [next]⟩ := by
          rw [popIfEmpty, List.reverse_append, List.reverse_append]
          simp
        rw [popped, front_mk]

theorem mem_of_mem_kept {p : Path} {segment : List Char} (mem : segment ∈ p.kept) :
    segment ∈ p.segments := by
  have all : ∀ s ∈ (if p.segments.getLast? = some [] then p.segments.dropLast else p.segments),
      s ∈ p.segments := by
    split
    · exact fun s => List.mem_of_mem_dropLast
    · exact fun s => id
  unfold kept at mem
  generalize (if p.segments.getLast? = some [] then p.segments.dropLast else p.segments) = filled
    at all mem
  dsimp only at mem
  split at mem
  · cases mem
  · exact all segment mem

theorem unbroken_placed {word : List Char} (whole : Unbroken word) (text : List Char) :
    ∀ segment ∈ placed word text, Unbroken segment := by
  have coded : ∀ text, Unbroken (percentEncode segmentEscapes text) := fun text =>
    unbroken_percentEncode fun c _ breaks => by
      obtain rfl | rfl | rfl := separates_iff.mp breaks
      all_goals rfl
  rw [placed]
  split_ifs <;> simp [whole, coded]

end Path

namespace SecureUrl

theorem pairs_withPair (u : SecureUrl) {name value : List Char}
    (whole : '&' ∉ name ++ '=' :: value) :
    (u.withPair name value).pairs = u.pairs ++ [name ++ '=' :: value] := by
  have single : Address.pairsIn (name ++ '=' :: value) = [name ++ '=' :: value] := by
    rw [Address.pairsIn, Text.splitAt_of_not_mem whole]
    simp
  rw [pairs, pairs, withPair]
  cases u.query with
  | none => exact single
  | some query =>
      cases query with
      | nil => exact single
      | cons c query =>
          change Address.pairsIn ((c :: query) ++ '&' :: _) = Address.pairsIn (c :: query) ++ _
          rw [← single, Address.pairsIn, Text.splitAt_append, List.filter_append]
          rfl

theorem Sound.withPair {u : SecureUrl} (sound : u.Sound) {name value : List Char}
    (whole : '#' ∉ name ++ '=' :: value) : (u.withPair name value).Sound := by
  refine ⟨sound.authority, sound.filled, sound.segments, ?_⟩
  intro query asked mem
  rw [SecureUrl.withPair] at asked
  dsimp only at asked
  split at asked
  · cases asked
    exact whole mem
  · cases asked
    exact whole mem
  next before _ given =>
    cases asked
    have earlier := sound.query before given
    rw [List.mem_append, List.mem_cons] at mem
    obtain mem | same | mem := mem
    · exact earlier mem
    · cases same
    · exact whole mem

end SecureUrl

end Url

namespace Endpoint

/-- The segments added for a database and a schema. -/
def added (database schema : String) : List (List Char) :=
  ["api".toList, "v2".toList] ++ (Path.placed "databases".toList database.toList ++
    (Path.placed "schemas".toList schema.toList ++ ["agents".toList]))

def words : List String := ["api", "v2", "databases", "schemas", "agents"]

theorem plain_word {word : String} (listed : word ∈ words) :
    Path.Carried word.toList ∧ percentEncode segmentEscapes word.toList = word.toList := by
  simp only [words, List.mem_cons, List.not_mem_nil, or_false] at listed
  obtain rfl | rfl | rfl | rfl | rfl := listed
  all_goals exact ⟨⟨by decide, by decide, by simp [Path.isDropped]⟩, rfl⟩

theorem append_word (p : Url.Path) {word : String} (listed : word ∈ words) :
    p.append word.toList = ⟨p.front ++ [word.toList]⟩ := by
  obtain ⟨carried, plain⟩ := plain_word listed
  rw [Path.append_of_carried p carried, plain]

/-- Once the first word has been added, no segment is the first. -/
theorem append_later {segments : List (List Char)} (begun : "api".toList ∈ segments) {word : String}
    (listed : word ∈ words) :
    Path.append ⟨segments⟩ word.toList = ⟨segments ++ [word.toList]⟩ := by
  rw [append_word _ listed, Path.front_of_mem begun (by decide)]

theorem segments_foldl (p : Url.Path) (database schema : String) :
    ((segments database schema).foldl (fun p s => p.append s.toList) p).segments =
      p.front ++ added database schema := by
  -- Only the first word meets the path of the base; each name comes behind a word.
  have placed : ∀ (before : List (List Char)) {word : String} (name : String), word ∈ words →
      "api".toList ∈ before →
      (Url.Path.append ⟨before⟩ word.toList).append name.toList =
        ⟨before ++ Path.placed word.toList name.toList⟩ := by
    intro before word name listed begun
    rw [append_later begun listed]
    obtain ⟨filled, stays⟩ : word.toList ≠ [] ∧ Path.isDrive word.toList = false := by
      simp only [words, List.mem_cons, List.not_mem_nil, or_false] at listed
      obtain rfl | rfl | rfl | rfl | rfl := listed
      all_goals exact ⟨by decide, by decide⟩
    exact congrArg Url.Path.mk (Path.segments_append filled stays name.toList)
  simp only [segments, List.foldl_cons, List.foldl_nil]
  have second : (p.append "api".toList).append "v2".toList =
      ⟨p.front ++ ["api".toList] ++ ["v2".toList]⟩ := by
    rw [append_word p (by decide), append_later (by simp) (by decide)]
  rw [second, placed _ database (by decide) (by simp), placed _ schema (by decide) (by simp),
    append_later (by simp) (by decide)]
  simp only [added, List.append_assoc, List.cons_append, List.nil_append]

theorem unbroken_added (database schema : String) :
    ∀ segment ∈ added database schema, Unbroken segment := by
  have words : Unbroken "api".toList ∧ Unbroken "v2".toList ∧ Unbroken "databases".toList ∧
      Unbroken "schemas".toList ∧ Unbroken "agents".toList := by
    simp [separates]
  obtain ⟨api, v2, databases, schemas, agents⟩ := words
  intro segment mem
  rw [added, List.mem_append, List.mem_append, List.mem_append] at mem
  obtain mem | mem | mem | mem := mem
  · simp only [List.mem_cons, List.not_mem_nil, or_false] at mem
    obtain rfl | rfl := mem
    · exact api
    · exact v2
  · exact Path.unbroken_placed databases _ segment mem
  · exact Path.unbroken_placed schemas _ segment mem
  · obtain rfl := List.mem_singleton.mp mem
    exact agents

/-- The added segments stand for what was to be added just when the names can be segments. -/
theorem added_stands_iff (database schema : String) :
    (added database schema).map percentDecode =
        ["api", "v2", "databases", database, "schemas", schema, "agents"].map (utf8 ·.toList) ↔
      Path.Carried database.toList ∧ Path.Carried schema.toList := by
  have databases : percentDecode "databases".toList = utf8 "databases".toList := rfl
  have schemas : percentDecode "schemas".toList = utf8 "schemas".toList := rfl
  rw [← Path.placed_stands_iff databases, ← Path.placed_stands_iff schemas, added]
  have few := Path.length_placed_le "databases".toList database.toList
  have few' := Path.length_placed_le "schemas".toList schema.toList
  generalize Path.placed "databases".toList database.toList = first at few ⊢
  generalize Path.placed "schemas".toList schema.toList = second at few' ⊢
  simp only [List.map_append]
  change _ = [utf8 "api".toList, utf8 "v2".toList] ++
    ([utf8 "databases".toList, utf8 database.toList] ++
      ([utf8 "schemas".toList, utf8 schema.toList] ++ [utf8 "agents".toList])) ↔ _
  constructor
  · intro same
    -- A name may lose its word a segment but never gain one, so equal lengths pair the parts up.
    have lengths := congrArg List.length same
    simp only [List.length_append, List.length_map, List.length_cons, List.length_nil] at lengths
    have rest := (List.append_right_inj [utf8 "api".toList, utf8 "v2".toList]).mp same
    obtain ⟨here, rest⟩ := List.append_inj rest (by simp; omega)
    obtain ⟨there, -⟩ := List.append_inj rest (by simp; omega)
    exact ⟨here, there⟩
  · rintro ⟨here, there⟩
    rw [here, there]
    rfl

theorem sound_of_base {baseUrl : String} {url : SecureUrl} (parsed : base baseUrl = .ok url) :
    url.Sound := by
  unfold base at parsed
  exact SecureUrl.sound_of_parse parsed

theorem create_reads {baseUrl : String} {url : SecureUrl} (parsed : base baseUrl = .ok url)
    (database schema : String) (mode : CreateMode) :
    ∃ endpoint, create baseUrl database schema mode = .ok endpoint ∧
      Address.read endpoint.toList = some {
        authority := url.authority
        segments := url.path.kept ++ added database schema
        pairs := url.pairs ++ [("createMode=" ++ mode.name).toList]
        fragment := url.fragment } := by
  have sound := sound_of_base parsed
  obtain ⟨path, reached⟩ : ∃ path, path = (segments database schema).foldl
    (fun p s => p.append s.toList) url.path.popIfEmpty := ⟨_, rfl⟩
  have laid : path.segments = url.path.kept ++ added database schema := by
    rw [reached, segments_foldl, Path.front_popIfEmpty sound.filled]
  obtain ⟨noAmpersand, noHash⟩ : '&' ∉ "createMode".toList ++ '=' :: mode.name.toList ∧
      '#' ∉ "createMode".toList ++ '=' :: mode.name.toList := by
    cases mode <;> decide
  have pair : "createMode".toList ++ '=' :: mode.name.toList =
      ("createMode=" ++ mode.name).toList := by
    rw [String.toList_append]
    rfl
  -- No added segment holds what would end the path, so the whole is read back as it was made.
  have sound' : ({ url with path } : SecureUrl).Sound := by
    refine ⟨sound.authority, ?_, ?_, sound.query⟩
    · rw [laid]
      simp [added]
    · intro segment mem
      rw [laid, List.mem_append] at mem
      obtain mem | mem := mem
      · exact sound.segments segment (Path.mem_of_mem_kept mem)
      · exact unbroken_added database schema segment mem
  refine ⟨String.ofList (({ url with path } : SecureUrl).withPair "createMode".toList
    mode.name.toList).text, ?_, ?_⟩
  · rw [create, parsed, reached]
    rfl
  · have read := SecureUrl.read_text (sound'.withPair noHash)
    rw [SecureUrl.pairs_withPair _ noAmpersand, pair] at read
    rw [String.toList_ofList, ← laid]
    exact read

theorem eq_of_added_eq {database schema database' schema' : String}
    (same : added database schema = added database' schema')
    (carried : Path.Carried database.toList ∧ Path.Carried schema.toList)
    (carried' : Path.Carried database'.toList ∧ Path.Carried schema'.toList) :
    database = database' ∧ schema = schema' := by
  have stands := (added_stands_iff database schema).mpr carried
  have stands' := (added_stands_iff database' schema').mpr carried'
  rw [same, stands'] at stands
  simp only [List.map_cons, List.map_nil, List.cons.injEq, true_and, and_true] at stands
  exact ⟨String.toList_injective (utf8_injective stands.1.symm),
    String.toList_injective (utf8_injective stands.2.symm)⟩

/-- Behind the segments of the base address there are seven that stand for the database, the schema
and the words around them, just when both names can be segments. Then no other place has the same
address, and in every case the mode is the last pair of the query. -/
theorem create_places {baseUrl : String} {url : SecureUrl} (parsed : base baseUrl = .ok url)
    (database schema : String) (mode : CreateMode) :
    ∃ endpoint names, create baseUrl database schema mode = .ok endpoint ∧
      Address.read endpoint.toList = some {
        authority := url.authority
        segments := url.path.kept ++ names
        pairs := url.pairs ++ [("createMode=" ++ mode.name).toList]
        fragment := url.fragment } ∧
      (names.map percentDecode =
          ["api", "v2", "databases", database, "schemas", schema, "agents"].map (utf8 ·.toList) ↔
        Path.Carried database.toList ∧ Path.Carried schema.toList) ∧
      (Path.Carried database.toList ∧ Path.Carried schema.toList → ∀ database' schema' : String,
        Path.Carried database'.toList ∧ Path.Carried schema'.toList →
        create baseUrl database' schema' mode = .ok endpoint →
          database' = database ∧ schema' = schema) := by
  obtain ⟨endpoint, made, read⟩ := create_reads parsed database schema mode
  refine ⟨endpoint, added database schema, made, read, added_stands_iff database schema, ?_⟩
  intro carried database' schema' carried' made'
  obtain ⟨endpoint', other, read'⟩ := create_reads parsed database' schema' mode
  rw [made'] at other
  cases other
  rw [read] at read'
  simp only [Option.some.injEq, Address.mk.injEq] at read'
  have same := List.append_cancel_left read'.2.1
  exact eq_of_added_eq same.symm carried' carried

def loopback : SecureUrl where
  credentials := []
  host := .ipv6 [0, 0, 0, 0, 0, 0, 0, 1]
  port := none
  path := .root
  query := none
  fragment := none

theorem base_loopback : base "[::1]" = .ok loopback := by
  decide

theorem create_places_loopback :
    ∃ endpoint names, create "[::1]" "my db" "x/y%2E" .orReplace = .ok endpoint ∧
      Address.read endpoint.toList =
        some ⟨"[::1]".toList, names, ["createMode=orReplace".toList], none⟩ ∧
      names.map percentDecode =
        ["api", "v2", "databases", "my db", "schemas", "x/y%2E", "agents"].map (utf8 ·.toList) := by
  have carried : Path.Carried "my db".toList ∧ Path.Carried "x/y%2E".toList :=
    ⟨⟨by decide, by decide, by simp [Path.isDropped]⟩,
      ⟨by decide, by decide, by simp [Path.isDropped]⟩⟩
  obtain ⟨endpoint, names, made, read, stands, -⟩ :=
    create_places base_loopback "my db" "x/y%2E" .orReplace
  exact ⟨endpoint, names, made, read, stands.mpr carried⟩

/-- Two schemas with one address: what addresses drop is dropped from a name too. -/
theorem create_drops_tabs :
    "a\tb" ≠ "ab" ∧ ∀ schema ∈ ["a\tb", "ab"], create "[::1]" "DB" schema .orReplace =
      .ok "https://[::1]/api/v2/databases/DB/schemas/ab/agents?createMode=orReplace" := by
  decide

end Endpoint

end AgentManifest
