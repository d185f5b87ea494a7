import AgentManifest.Delivery.Statement

/-! A reader of the statements that create agents. It knows the grammar of such a statement and
nothing of how one is written: names have character classes of their own, a doubled mark stands for
one wherever a text is quoted, and the specification runs to the first two dollar signs. Statements
are read back: whatever characters the names, the literals and the specification are made of, each
is found where it was written, and nothing else is. -/

namespace AgentManifest

namespace StatementReader

/-- What follows a text at the start of another. -/
def behind? : List Char → List Char → Option (List Char)
  | [], text => some text
  | _ :: _, [] => none
  | c :: word, d :: text => if c = d then behind? word text else none

def isBlank (c : Char) : Bool := c = ' ' || c = '\n'

def skipBlanks (text : List Char) : List Char := text.dropWhile isBlank

/-- What follows a word and the blanks behind it. Without a blank the word goes on. -/
def word (w : String) (text : List Char) : Option (List Char) :=
  match behind? w.toList text with
  | some (c :: rest) => if isBlank c then some (skipBlanks rest) else none
  | _ => none

def words (ws : List String) (text : List Char) : Option (List Char) :=
  ws.foldlM (fun text w => word w text) text

/-- The first words of a statement. The longer forms come first. -/
def head (text : List Char) : Option (CreateMode × List Char) :=
  ((words ["CREATE", "OR", "REPLACE", "AGENT"] text).map (CreateMode.orReplace, ·)).or <|
  ((words ["CREATE", "AGENT", "IF", "NOT", "EXISTS"] text).map (CreateMode.ifNotExists, ·)).or <|
  (words ["CREATE", "AGENT"] text).map (CreateMode.errorIfExists, ·)

def beginsName (c : Char) : Bool := ('A' ≤ c && c ≤ 'Z') || ('a' ≤ c && c ≤ 'z') || c = '_'

def insideName (c : Char) : Bool := beginsName c || ('0' ≤ c && c ≤ '9') || c = '$'

/-- The text before the first lone mark, and what follows it. Two marks in a row stand for one. -/
def quoted (mark : Char) : List Char → Option (List Char × List Char)
  | [] => none
  | [c] => if c = mark then some ([], []) else none
  | c :: d :: rest =>
    if c ≠ mark then (quoted mark (d :: rest)).map (Prod.map (c :: ·) id)
    else if d = mark then (quoted mark rest).map (Prod.map (mark :: ·) id)
    else some ([], d :: rest)

def identifier : List Char → Option (String × List Char)
  | [] => none
  | c :: rest =>
    if c = '"' then (quoted '"' rest).map (Prod.map String.ofList id)
    else if beginsName c then
      some (String.ofList (c :: rest.takeWhile insideName), rest.dropWhile insideName)
    else none

def literal : List Char → Option (String × List Char)
  | [] => none
  | c :: rest => if c = '\'' then (quoted '\'' rest).map (Prod.map String.ofList id) else none

/-- A clause that may be left out, and the blanks behind it. -/
def clause (key : String) (text : List Char) : Option (Option String × List Char) :=
  match word key text with
  | none => some (none, text)
  | some rest => do
    let rest ← word "=" rest
    let (value, rest) ← literal rest
    return (some value, skipBlanks rest)

/-- What stands before the first two dollar signs, and what follows them. -/
def untilDollars : List Char → Option (List Char × List Char)
  | '$' :: '$' :: rest => some ([], rest)
  | c :: rest => (untilDollars rest).map (Prod.map (c :: ·) id)
  | [] => none

/-- The statement that a text is from its first character to its last, a semicolon. -/
def read (text : List Char) : Option CreateStatement := do
  let (mode, rest) ← head text
  let (database, rest) ← identifier rest
  let rest ← behind? ['.'] rest
  let (schema, rest) ← identifier rest
  let rest ← behind? ['.'] rest
  let (name, rest) ← identifier rest
  let (comment, rest) ← clause "COMMENT" (skipBlanks rest)
  let (profile, rest) ← clause "PROFILE" rest
  let rest ← words ["FROM", "SPECIFICATION"] rest
  let rest ← behind? ['$', '$'] rest
  let (body, rest) ← untilDollars rest
  let rest ← behind? [';'] rest
  if rest.isEmpty then
    some { mode, database, schema, name, comment, profile,
           specification := String.ofList (Text.trim isBlank body) }
  else none

theorem behind?_eq_some {w text rest : List Char} :
    behind? w text = some rest ↔ text = w ++ rest := by
  induction w generalizing text with
  | nil => simp [behind?]
  | cons c w ih =>
      cases text with
      | nil => simp [behind?]
      | cons d text =>
          rw [behind?, List.cons_append, List.cons.injEq, ← ih]
          split
          next same => simp [same]
          next other => simp [Ne.symm other]

@[simp] theorem behind?_append (w rest : List Char) : behind? w (w ++ rest) = some rest :=
  behind?_eq_some.mpr rfl

theorem skipBlanks_of_head {text : List Char} (solid : ∀ c ∈ text.head?, isBlank c = false) :
    skipBlanks text = text :=
  Text.trimStart_eq_self solid

/-- A text with its marks doubled is read up to the lone mark behind it. -/
theorem quoted_double {mark : Char} (text : List Char) {rest : List Char}
    (lone : rest.head? ≠ some mark) :
    quoted mark (CreateStatement.double mark text ++ mark :: rest) = some (text, rest) := by
  induction text with
  | nil =>
      cases rest with
      | nil => simp [CreateStatement.double, quoted]
      | cons d rest =>
          have other : d ≠ mark := by simpa using lone
          simp [CreateStatement.double, quoted, other]
  | cons c text ih =>
      rw [CreateStatement.double] at ih ⊢
      rw [List.flatMap_cons]
      split
      next same =>
        subst same
        simp [quoted, ih]
      next other =>
        -- something follows every character of a quoted text, the mark at least
        obtain ⟨d, tail, follows⟩ : ∃ d tail,
            (text.flatMap fun c => if c = mark then [c, c] else [c]) ++ mark :: rest = d :: tail :=
          List.exists_cons_of_ne_nil (by simp)
        rw [List.singleton_append, List.cons_append, follows, quoted, if_pos other, ← follows, ih]
        rfl

theorem literal_literal (text : String) {rest : List Char} (lone : rest.head? ≠ some '\'') :
    literal (CreateStatement.literal text ++ rest) = some (text, rest) := by
  rw [CreateStatement.literal, List.cons_append, List.append_assoc, List.singleton_append]
  rw [literal, if_pos rfl, quoted_double text.toList lone, Option.map_some, Prod.map_apply,
    String.ofList_toList, id]

theorem beginsName_eq (c : Char) : beginsName c = CreateStatement.startsName c := by
  have upper : (decide ('A' ≤ c) && decide (c ≤ 'Z')) = c.isUpper := (Bool.decide_and _ _).symm
  rw [beginsName, upper]
  rfl

theorem insideName_eq (c : Char) : insideName c = CreateStatement.continuesName c := by
  rw [insideName, beginsName_eq, CreateStatement.startsName, Bool.or_right_comm c.isAlpha]
  rfl

theorem solid_of_insideName {c : Char} (inside : insideName c) : isBlank c = false := by
  rw [← Bool.not_eq_true]
  intro blank
  obtain rfl | rfl : c = ' ' ∨ c = '\n' := by simpa [isBlank] using blank
  all_goals cases inside

/-- How a name is written: bare, when all its characters are those of a name, or between quotes. -/
theorem identifier_cases (name : String) :
    (∃ c rest, name.toList = c :: rest ∧ beginsName c ∧ (∀ d ∈ rest, insideName d) ∧
      CreateStatement.identifier name = c :: rest) ∨
    CreateStatement.identifier name =
      '"' :: (CreateStatement.double '"' name.toList ++ ['"']) := by
  rw [CreateStatement.identifier]
  split
  next plain =>
    left
    cases text : name.toList with
    | nil => simp [text, CreateStatement.isPlainName] at plain
    | cons c rest =>
        rw [text, CreateStatement.isPlainName, Bool.and_eq_true, List.all_eq_true] at plain
        obtain ⟨first, others⟩ := plain
        exact ⟨c, rest, rfl, (beginsName_eq c).trans first,
          fun d mem => (insideName_eq d).trans (others d mem), rfl⟩
  next => exact .inr rfl

theorem identifier_identifier (name : String) {rest : List Char}
    (ends : ∀ c ∈ rest.head?, insideName c = false ∧ c ≠ '"') :
    identifier (CreateStatement.identifier name ++ rest) = some (name, rest) := by
  obtain ⟨c, text, characters, first, others, bare⟩ | quoted := identifier_cases name
  · have unquoted : c ≠ '"' := by rintro rfl; simp [beginsName] at first
    have stops : rest.takeWhile insideName = [] ∧ rest.dropWhile insideName = rest := by
      cases rest with
      | nil => exact ⟨rfl, rfl⟩
      | cons d rest => simp [(ends d rfl).1]
    rw [bare, List.cons_append, identifier, if_neg unquoted, if_pos first,
      List.takeWhile_append_of_pos others, List.dropWhile_append_of_pos others, stops.1, stops.2,
      List.append_nil, ← characters, String.ofList_toList]
  · have lone : rest.head? ≠ some '"' := fun mark => (ends _ mark).2 rfl
    rw [quoted, List.cons_append, List.append_assoc, List.singleton_append, identifier,
      if_pos rfl, quoted_double name.toList lone, Option.map_some, Prod.map_apply,
      String.ofList_toList, id]

theorem solid_identifier (name : String) (rest : List Char) :
    ∀ c ∈ (CreateStatement.identifier name ++ rest).head?, isBlank c = false := by
  obtain ⟨first, text, -, begins, -, bare⟩ | quoted := identifier_cases name
  · rw [bare]
    rintro c ⟨⟩
    exact solid_of_insideName (by simp [insideName, begins])
  · rw [quoted]
    rintro c ⟨⟩
    rfl

/-- No word with a blank behind it is read from a name with a dot behind it. -/
theorem word_identifier {w : String} {c : Char} {text : List Char} (spelled : w.toList = c :: text)
    (inside : ∀ d ∈ c :: text, insideName d) (name : String) (rest : List Char) :
    word w (CreateStatement.identifier name ++ '.' :: rest) = none := by
  rw [word, spelled]
  split
  next d behind found =>
    refine if_neg (Bool.not_eq_true _ ▸ ?_)
    have same := behind?_eq_some.mp found
    obtain ⟨first, name, -, begins, others, bare⟩ | quoted := identifier_cases name
    · rw [bare] at same
      -- the word ends with the name or inside it, so that a dot or more of the name follows
      obtain ⟨more, longer, split⟩ | ⟨more, shorter, split⟩ := List.append_eq_append_iff.mp same
      · cases more with
        | nil => cases split; rfl
        | cons e more =>
            cases split
            have dot : insideName '.' := inside _ (longer ▸ by simp)
            cases dot
      · cases more with
        | nil => cases split; rfl
        | cons e more =>
            cases split
            have mem : d ∈ first :: name := shorter ▸ by simp
            obtain rfl | mem := List.mem_cons.mp mem
            · exact solid_of_insideName (by simp [insideName, begins])
            · exact solid_of_insideName (others d mem)
    · rw [quoted] at same
      have mark : insideName '"' := inside _ ((List.cons.inj same).1 ▸ List.mem_cons_self)
      cases mark
  next => rfl

theorem head_head (mode : CreateMode) (name : String) (rest : List Char) :
    head ((CreateStatement.head mode).toList ++
        ' ' :: (CreateStatement.identifier name ++ '.' :: rest)) =
      some (mode, CreateStatement.identifier name ++ '.' :: rest) := by
  have spelled : "IF".toList = ['I', 'F'] := rfl
  have noCondition : word "IF" (CreateStatement.identifier name ++ '.' :: rest) = none :=
    word_identifier spelled (by simp [insideName, beginsName]) name rest
  have solid := skipBlanks_of_head (solid_identifier name ('.' :: rest))
  generalize CreateStatement.identifier name ++ '.' :: rest = names at noCondition solid ⊢
  -- Which words stand in front is computed; only whether `IF` does depends on the name behind.
  cases mode with
  | orReplace =>
      have first : words ["CREATE", "OR", "REPLACE", "AGENT"]
          ("CREATE OR REPLACE AGENT".toList ++ ' ' :: names) = some (skipBlanks names) := rfl
      rw [CreateStatement.head, head, first, solid]
      rfl
  | ifNotExists =>
      have first : words ["CREATE", "OR", "REPLACE", "AGENT"]
          ("CREATE AGENT IF NOT EXISTS".toList ++ ' ' :: names) = none := rfl
      have second : words ["CREATE", "AGENT", "IF", "NOT", "EXISTS"]
          ("CREATE AGENT IF NOT EXISTS".toList ++ ' ' :: names) = some (skipBlanks names) := rfl
      rw [CreateStatement.head, head, first, second, solid]
      rfl
  | errorIfExists =>
      have first : words ["CREATE", "OR", "REPLACE", "AGENT"]
          ("CREATE AGENT".toList ++ ' ' :: names) = none := rfl
      have second : words ["CREATE", "AGENT", "IF", "NOT", "EXISTS"]
          ("CREATE AGENT".toList ++ ' ' :: names) =
            (word "IF" (skipBlanks names)).bind (words ["NOT", "EXISTS"]) := rfl
      have third : words ["CREATE", "AGENT"] ("CREATE AGENT".toList ++ ' ' :: names) =
          some (skipBlanks names) := rfl
      rw [CreateStatement.head, head, first, second, third, solid, noCondition]
      rfl

theorem word_word (w : String) {rest : List Char}
    (solid : ∀ c ∈ rest.head?, isBlank c = false) :
    word w (w.toList ++ ' ' :: rest) = some rest := by
  rw [word, behind?_append]
  exact congrArg some (skipBlanks_of_head solid)

/-- A clause is read when it is there, and nothing is when it is not. -/
theorem clause_clause {key : String} {c : Char} {text : List Char}
    (spelled : key.toList = c :: text) (solid : isBlank c = false) (value : Option String)
    {rest : List Char} (other : word key (skipBlanks ('\n' :: rest)) = none) :
    clause key (skipBlanks (CreateStatement.clause key value ++ '\n' :: rest)) =
      some (value, skipBlanks ('\n' :: rest)) := by
  cases value with
  | none => rw [CreateStatement.clause, List.nil_append, clause, other]
  | some value =>
      have written : skipBlanks (CreateStatement.clause key (some value) ++ '\n' :: rest) =
          key.toList ++ ' ' ::
            ("=".toList ++ ' ' :: (CreateStatement.literal value ++ '\n' :: rest)) := by
        calc skipBlanks (CreateStatement.clause key (some value) ++ '\n' :: rest)
          _ = skipBlanks (key.toList ++ " = ".toList ++ CreateStatement.literal value
                ++ '\n' :: rest) := rfl
          _ = key.toList ++ " = ".toList ++ CreateStatement.literal value ++ '\n' :: rest :=
              skipBlanks_of_head (by simp [spelled, solid])
          _ = _ := by simp
      have begins : word key (skipBlanks (CreateStatement.clause key (some value) ++ '\n' :: rest))
          = some ("=".toList ++ ' ' :: (CreateStatement.literal value ++ '\n' :: rest)) := by
        rw [written]
        exact word_word key (by simp [isBlank])
      have equals : word "=" ("=".toList ++ ' ' :: (CreateStatement.literal value ++ '\n' :: rest))
          = some (CreateStatement.literal value ++ '\n' :: rest) :=
        word_word "=" (by simp [CreateStatement.literal, isBlank])
      have given : literal (CreateStatement.literal value ++ '\n' :: rest) =
          some (value, '\n' :: rest) := literal_literal value (by simp)
      rw [clause, begins]
      simp only [equals, given, Option.bind_eq_bind, Option.bind_some, Option.pure_def]

theorem untilDollars_of_not_hasDollarQuote (text : List Char) {rest : List Char}
    (closed : CreateStatement.hasDollarQuote text = false) :
    untilDollars (text ++ '\n' :: ' ' :: ' ' :: '$' :: '$' :: rest) =
      some (text ++ ['\n', ' ', ' '], rest) := by
  induction text with
  | nil => rfl
  | cons c text ih =>
      rw [CreateStatement.hasDollarQuote, Bool.or_eq_false_iff] at closed
      obtain ⟨here, later⟩ := closed
      rw [List.cons_append, untilDollars, ih later]
      · rfl
      · rintro behind rfl follows
        cases text with
        | nil => simp at follows
        | cons d text => simp_all

/-- Blanks around a text that neither begins nor ends with one are trimmed away. -/
theorem trim_between (before text after : List Char) (front : ∀ c ∈ before, isBlank c)
    (back : ∀ c ∈ after, isBlank c) (first : ∀ c ∈ text.head?, isBlank c = false)
    (last : ∀ c ∈ text.getLast?, isBlank c = false) :
    Text.trim isBlank (before ++ (text ++ after)) = text := by
  rw [← List.append_assoc, Text.trim_between front back, Text.trim_eq_self first last]

end StatementReader

open StatementReader

namespace CreateStatement

/-- Every clause, and what follows the clauses, is on a line of its own. -/
theorem clause_append (key : String) (value : Option String) (rest : List Char) :
    ∃ more, clause key value ++ '\n' :: rest = '\n' :: more := by
  cases value with
  | none => exact ⟨rest, rfl⟩
  | some value => exact ⟨_, rfl⟩

/-- The clauses that may be left out, before one that may not. -/
theorem clauses_read (comment profile : Option String) (rest : List Char) :
    ∃ more middle,
      clause "COMMENT" comment ++ (clause "PROFILE" profile ++ '\n' :: ' ' :: ' ' :: 'F' :: rest) =
        '\n' :: more ∧
      StatementReader.clause "COMMENT" (skipBlanks ('\n' :: more)) = some (comment, middle) ∧
      StatementReader.clause "PROFILE" middle = some (profile, 'F' :: rest) := by
  obtain ⟨behind, later⟩ := clause_append "PROFILE" profile (' ' :: ' ' :: 'F' :: rest)
  obtain ⟨more, all⟩ := clause_append "COMMENT" comment behind
  have noComment : word "COMMENT" (skipBlanks ('\n' :: behind)) = none := by
    rw [← later]
    cases profile <;> rfl
  refine ⟨more, skipBlanks ('\n' :: behind), later ▸ all, ?_, ?_⟩
  · rw [← all]
    exact clause_clause (c := 'C') rfl rfl comment noComment
  · rw [← later]
    exact clause_clause (c := 'P') rfl rfl profile rfl

/-- A statement is read back from its text when its specification neither ends it nor has blanks at
its ends. -/
theorem read_text {s : CreateStatement} (closed : hasDollarQuote s.specification.toList = false)
    (first : ∀ c ∈ s.specification.toList.head?, isBlank c = false)
    (last : ∀ c ∈ s.specification.toList.getLast?, isBlank c = false) :
    StatementReader.read s.text.toList = some s := by
  -- What follows the clauses is known by name only, so that no step looks into it before its turn.
  obtain ⟨tail, body⟩ : ∃ tail, tail = '\n' :: s.specification.toList ++ "\n  $$;".toList :=
    ⟨_, rfl⟩
  obtain ⟨rest, last_clause⟩ : ∃ rest, rest = "ROM SPECIFICATION\n  $$".toList ++ tail := ⟨_, rfl⟩
  obtain ⟨more, middle, clauses, comment, profile⟩ := clauses_read s.comment s.profile rest
  have parts : s.text.toList = (head s.mode).toList ++ ' ' :: (identifier s.database ++ '.' ::
      (identifier s.schema ++ '.' :: (identifier s.name ++ '\n' :: more))) := by
    rw [← clauses, last_clause, body, text, String.toList_ofList]
    simp only [List.append_assoc, List.cons_append]
    rfl
  have opened : words ["FROM", "SPECIFICATION"] ('F' :: rest) = some ('$' :: '$' :: tail) :=
    last_clause ▸ rfl
  have read_body : untilDollars tail =
      some (['\n'] ++ (s.specification.toList ++ ['\n', ' ', ' ']), [';']) :=
    body ▸ untilDollars_of_not_hasDollarQuote ('\n' :: s.specification.toList) closed
  have inner := trim_between ['\n'] s.specification.toList ['\n', ' ', ' ']
    (by simp [isBlank]) (by simp [isBlank]) first last
  have dot : ∀ rest, ∀ c ∈ ('.' :: rest).head?, insideName c = false ∧ c ≠ '"' := by
    rintro rest c ⟨⟩
    decide
  have line : ∀ c ∈ ('\n' :: more).head?, insideName c = false ∧ c ≠ '"' := by
    rintro c ⟨⟩
    decide
  rw [parts, StatementReader.read]
  refine Option.bind_eq_some_iff.mpr ⟨_, head_head s.mode s.database _, ?_⟩
  refine Option.bind_eq_some_iff.mpr ⟨_, identifier_identifier s.database (dot _), ?_⟩
  refine Option.bind_eq_some_iff.mpr ⟨_, behind?_append ['.'] _, ?_⟩
  refine Option.bind_eq_some_iff.mpr ⟨_, identifier_identifier s.schema (dot _), ?_⟩
  refine Option.bind_eq_some_iff.mpr ⟨_, behind?_append ['.'] _, ?_⟩
  refine Option.bind_eq_some_iff.mpr ⟨_, identifier_identifier s.name line, ?_⟩
  refine Option.bind_eq_some_iff.mpr ⟨_, comment, ?_⟩
  refine Option.bind_eq_some_iff.mpr ⟨_, profile, ?_⟩
  refine Option.bind_eq_some_iff.mpr ⟨_, opened, ?_⟩
  refine Option.bind_eq_some_iff.mpr ⟨_, behind?_append ['$', '$'] tail, ?_⟩
  refine Option.bind_eq_some_iff.mpr ⟨_, read_body, ?_⟩
  refine Option.bind_eq_some_iff.mpr ⟨_, behind?_append [';'] [], ?_⟩
  rw [inner, String.ofList_toList]
  rfl

theorem pretty_object (members : List (String × Json)) :
    ∃ inside, (Json.object members).pretty.toList = '\x7b' :: (inside ++ ['\x7d']) := by
  cases members with
  | nil => exact ⟨[], by simp [Json.pretty, Json.prettyChars]⟩
  | cons m rest => exact ⟨_, by rw [Json.pretty, Json.prettyChars, String.toList_ofList]⟩

/-- Whatever the texts in an agent are, the statement that creates it is one statement to its end,
and says of the agent what the agent is. -/
theorem read_ofAgent {a : Agent} {mode : CreateMode} {s : CreateStatement}
    (rendered : ofAgent a mode = .ok s) :
    StatementReader.read s.text.toList = some {
      mode
      database := a.database
      schema := a.schema
      name := a.name
      comment := a.comment.filter (· ≠ "")
      profile := a.profile.map fun p => p.toJson.compact
      specification := a.specification.pretty } := by
  rw [ofAgent] at rendered
  split at rendered
  · cases rendered
  next closed =>
    cases rendered
    obtain ⟨inside, object⟩ :
        ∃ inside, a.specification.pretty.toList = '\x7b' :: (inside ++ ['\x7d']) := pretty_object _
    refine read_text (by simpa using closed) ?_ ?_
    · rw [object]
      rintro c ⟨⟩
      rfl
    · rw [object, ← List.cons_append, List.getLast?_concat]
      rintro c ⟨⟩
      rfl

def quarrelsome : Agent where
  database := "IF"
  schema := "a.\"b\"$$"
  name := "x\n  COMMENT = 'y'"
  comment := some "it's\n  FROM SPECIFICATION\n  $$\n\x7b\x7d\n  $$;"
  profile := some { displayName := some "o'clock", avatar := none, color := none }
  models := none
  instructions := some { response := some "'; $1 ;$", orchestration := none, system := none,
                         sampleQuestions := [] }
  orchestration := none
  tools := []
  resources := []

theorem read_ofAgent_quarrelsome :
    ∃ s, ofAgent quarrelsome .errorIfExists = .ok s ∧
      StatementReader.read s.text.toList = some {
        mode := .errorIfExists
        database := "IF"
        schema := "a.\"b\"$$"
        name := "x\n  COMMENT = 'y'"
        comment := some "it's\n  FROM SPECIFICATION\n  $$\n\x7b\x7d\n  $$;"
        profile := some "\x7b\"display_name\":\"o'clock\"\x7d"
        specification := quarrelsome.specification.pretty } := by
  have closed : hasDollarQuote quarrelsome.specification.pretty.toList = false := by
    decide
  have profile : (quarrelsome.profile.map fun p => p.toJson.compact) =
      some "\x7b\"display_name\":\"o'clock\"\x7d" := by decide
  obtain ⟨s, rendered⟩ : ∃ s, ofAgent quarrelsome .errorIfExists = .ok s := by
    rw [ofAgent]
    simp [closed]
  exact ⟨s, rendered, profile ▸ read_ofAgent rendered⟩

end CreateStatement

end AgentManifest
