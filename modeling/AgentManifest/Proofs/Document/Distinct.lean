import AgentManifest.Document.Reader
import AgentManifest.Json.Printer
import AgentManifest.Proofs.Json.Objects
import AgentManifest.Proofs.Toml.Distinct

/-! Documents in which some object, mapping or table gives a key twice. In JSON and in TOML they are
refused. In YAML they are read, and the last of the values under a key is kept. -/

namespace AgentManifest.Document

/-- Some object, mapping or table of a text, at any depth, gives a key twice. JSON and YAML texts
are taken as trees with their members as they are written, aliases followed; a TOML text is taken
as its statements, which say from the top of the text what they define. -/
def GivesKeyTwice : DocumentFormat → String → Prop
  | .json, text => ∃ v, Json.Reader.document .lastWins text = .ok v ∧ v.Repeats
  | .yaml, text =>
    Yaml.controlOffset? 0 text.toList = none ∧
      ∃ v, Yaml.Value.ofDocument (Yaml.Document.ofText text.toList) = .ok v ∧ v.Repeats
  | .toml, text =>
    ∃ statements, Toml.Statement.ofTokens (Toml.Token.scan text.toList) = .ok statements ∧
      Toml.Statement.GiveTwice statements

variable {text : String} {bytes : List UInt8}

theorem parseDistinct_refuses (twice : GivesKeyTwice .json text) :
    ∃ e, Json.parseDistinct text = .error e := by
  obtain ⟨v, written, repeats⟩ := twice
  unfold Json.parseDistinct
  cases read : Json.Reader.document .distinct text with
  | error e => exact ⟨_, rfl⟩
  | ok w =>
      obtain ⟨written', distinct⟩ := Json.Reader.document_distinct_iff.mp read
      obtain rfl := Except.ok.inj (written.symm.trans written')
      exact absurd repeats distinct

theorem toml_refuses (twice : GivesKeyTwice .toml text) : ∃ e, Toml.parse text = .error e := by
  obtain ⟨statements, written, repeats⟩ := twice
  cases read : Toml.parse text with
  | error e => exact ⟨e, rfl⟩
  | ok v =>
      simp only [Toml.parse, written, ok_bind, bind_eq_ok] at read
      obtain ⟨entries, tables, -⟩ := read
      exact absurd repeats (Toml.Node.not_giveTwice_of_ofStatements tables)

theorem yaml_keeps_last (twice : GivesKeyTwice .yaml text) :
    ∃ v, Yaml.Value.ofDocument (Yaml.Document.ofText text.toList) = .ok v ∧ v.Repeats ∧
      Yaml.parse text = .ok v.canonical := by
  obtain ⟨allowed, v, written, repeats⟩ := twice
  exact ⟨v, written, repeats, by rw [Yaml.parse, allowed, written, ok_map]⟩

/-- A document that gives a key twice is refused, unless it is YAML: then it is read, and at every
place it holds the last of the values that are given there. -/
theorem read_of_givesKeyTwice (filename : String) (decoded : Utf8.decode bytes = .ok text)
    (twice : GivesKeyTwice (DocumentFormat.ofPath filename) text) :
    (DocumentFormat.ofPath filename ≠ .yaml →
      ∃ e, read filename bytes = .error e ∧ e.filename = filename ∧
        e.format = DocumentFormat.ofPath filename) ∧
    (DocumentFormat.ofPath filename = .yaml →
      ∃ v, Yaml.Value.ofDocument (Yaml.Document.ofText text.toList) = .ok v ∧ v.Repeats ∧
        ∃ kept, read filename bytes = .ok kept ∧
          ∀ path, kept.at? path = (v.lastAt? path).map Json.canonical) := by
  unfold read readBytes
  rw [decoded]
  generalize DocumentFormat.ofPath filename = format at twice ⊢
  cases format with
  | json =>
      obtain ⟨e, refused⟩ := parseDistinct_refuses twice
      refine ⟨fun _ => ?_, nofun⟩
      simp [readText, refused, Complaint.inFile]
  | yaml =>
      obtain ⟨v, written, repeats, parsed⟩ := yaml_keeps_last twice
      refine ⟨fun other => absurd rfl other, fun _ => ⟨v, written, repeats, v.canonical, ?_, ?_⟩⟩
      · simp [readText, parsed]
      · exact fun path => Json.at?_canonical path v
  | toml =>
      obtain ⟨e, refused⟩ := toml_refuses twice
      refine ⟨fun _ => ?_, nofun⟩
      simp [readText, refused, Complaint.inFile]

theorem read_of_givesKeyTwice_each :
    (∃ e, read "a.json" "[\x7b\"a\":1,\"\\u0061\":2\x7d]".toUTF8.toList = .error e) ∧
    (∃ e, read "a.toml" "[[t]]\na.b = 1\n\"a\".b = 2\n".toUTF8.toList = .error e) ∧
    ∃ v kept : Json, v.Repeats ∧
      read "a.yaml" "- \x7bk: 1, \"k\": 2\x7d\n".toUTF8.toList = .ok kept ∧
      ∀ path, kept.at? path = (v.lastAt? path).map Json.canonical := by
  have json : GivesKeyTwice (DocumentFormat.ofPath "a.json") "[\x7b\"a\":1,\"\\u0061\":2\x7d]" := by
    rw [show DocumentFormat.ofPath "a.json" = .json from rfl, GivesKeyTwice]
    decide +kernel
  have toml : GivesKeyTwice (DocumentFormat.ofPath "a.toml") "[[t]]\na.b = 1\n\"a\".b = 2\n" := by
    rw [show DocumentFormat.ofPath "a.toml" = .toml from rfl, GivesKeyTwice]
    have defined : ∃ statements,
        Toml.Statement.ofTokens (Toml.Token.scan "[[t]]\na.b = 1\n\"a\".b = 2\n".toList) =
            .ok statements ∧
          Toml.Statement.definitions [] statements =
            [⟨.item, ["t"]⟩, ⟨.value, ["t", "a", "b"]⟩, ⟨.value, ["t", "a", "b"]⟩] := by
      decide +kernel
    obtain ⟨statements, written, definitions⟩ := defined
    refine ⟨statements, written, .inl ⟨[_], _, [], _, [], definitions, ?_, by simp⟩⟩
    simp [Toml.Definition.Clashes]
  have yaml : GivesKeyTwice (DocumentFormat.ofPath "a.yaml") "- \x7bk: 1, \"k\": 2\x7d\n" := by
    rw [show DocumentFormat.ofPath "a.yaml" = .yaml from rfl, GivesKeyTwice]
    decide +kernel
  have decoded : ∀ text ∈ ["[\x7b\"a\":1,\"\\u0061\":2\x7d]", "[[t]]\na.b = 1\n\"a\".b = 2\n",
      "- \x7bk: 1, \"k\": 2\x7d\n"], Utf8.decode text.toUTF8.toList = .ok text := by decide +kernel
  obtain ⟨e, refused, -⟩ :=
    (read_of_givesKeyTwice "a.json" (decoded _ (by simp)) json).1 (by decide)
  obtain ⟨e', refused', -⟩ :=
    (read_of_givesKeyTwice "a.toml" (decoded _ (by simp)) toml).1 (by decide)
  obtain ⟨v, -, repeats, kept, accepted, last⟩ :=
    (read_of_givesKeyTwice "a.yaml" (decoded _ (by simp)) yaml).2 rfl
  exact ⟨⟨e, refused⟩, ⟨e', refused'⟩, v, kept, repeats, accepted, last⟩

/-- A mapping that gives a key twice, read without a word about the value that is lost. -/
theorem yaml_reads_repeated_key :
    DocumentFormat.ofPath "a.yaml" = .yaml ∧ GivesKeyTwice .yaml "a: 1\na: 2\n" ∧
      ∃ v, read "a.yaml" "a: 1\na: 2\n".toUTF8.toList = .ok v ∧ v.compact = "\x7b\"a\":2\x7d" := by
  rw [GivesKeyTwice]
  decide +kernel

theorem parse_eq_ok_iff {v : Json} : Json.parse text = .ok v ↔
    ∃ w, Json.Reader.document .lastWins text = .ok w ∧ w.canonical = v := by
  unfold Json.parse
  cases Json.Reader.document .lastWins text <;> simp

theorem parseDistinct_eq_ok_iff {v : Json} : Json.parseDistinct text = .ok v ↔
    ∃ w, Json.Reader.document .lastWins text = .ok w ∧ ¬ w.Repeats ∧ w.canonical = v := by
  have distinct : Json.parseDistinct text = .ok v ↔
      ∃ w, Json.Reader.document .distinct text = .ok w ∧ w.canonical = v := by
    unfold Json.parseDistinct
    cases Json.Reader.document .distinct text <;> simp
  simp only [distinct, Json.Reader.document_distinct_iff, and_assoc]

/-- A JSON document is read exactly if it is JSON and none of the objects in its text, at whatever
depth, has two keys that are equal once their escapes are replaced; and then it is read as the tree
that it is without this rule. -/
theorem readText_json_eq_ok_iff {v : Json} : readText .json text = .ok v ↔
    Json.parse text = .ok v ∧ ∀ keys, Json.Grammar.HasObject text keys → keys.Nodup := by
  rw [readText, mapError_eq_ok, parse_eq_ok_iff, parseDistinct_eq_ok_iff]
  constructor
  · rintro ⟨w, written, none, same⟩
    refine ⟨⟨w, written, same⟩, fun keys inside => ?_⟩
    exact Json.not_repeats_iff.mp none keys ((Json.Reader.hasObject_iff written).mp inside)
  · rintro ⟨⟨w, written, same⟩, distinct⟩
    refine ⟨w, written, Json.not_repeats_iff.mpr fun keys inside => ?_, same⟩
    exact distinct keys ((Json.Reader.hasObject_iff written).mpr inside)

/-- A key is the same however it is spelled, and objects beside each other may share one. -/
example : (readText .json "\x7b\"a\":1,\"\\u0061\":2\x7d").isOk = false ∧
    (readText .json "[\x7b\"a\":1\x7d,\x7b\"a\":2\x7d]").isOk = true := by decide +kernel

end AgentManifest.Document
