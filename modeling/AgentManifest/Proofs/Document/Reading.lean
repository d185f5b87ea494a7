import AgentManifest.Build.Overrides
import AgentManifest.Document.Reader
import AgentManifest.Proofs.Json.Reading
import AgentManifest.Proofs.Text.Utf8

/-! Whatever its format, a document that can be read gives a well-formed tree, and overriding
members keeps it one. -/

namespace AgentManifest

namespace Yaml.Value

theorem ofScalarValue_storable {value : ScalarValue} {v : Json}
    (read : ofScalarValue value = .ok v) :
    v.Storable := by
  cases value with
  | null | notFinite =>
      cases read
      exact .null
  | bool b =>
      cases read
      exact .bool b
  | integer i =>
      simp only [ofScalarValue] at read
      split at read
      next fits =>
        cases read
        exact .number fits
      next => cases read
  | number x =>
      cases read
      exact .number trivial
  | text s =>
      cases read
      exact .string s

theorem ofScalar_storable {tag : Option String} {text : String} {style : ScalarStyle} {v : Json}
    (read : ofScalar tag text style = .ok v) : v.Storable := by
  unfold ofScalar at read
  split at read
  · split at read
    · split at read
      · exact ofScalarValue_storable read
      · cases read
    · cases read
      exact .string text
  · split at read
    · exact ofScalarValue_storable read
    · cases read
      exact .string text

variable {d : Document}

theorem value_storable (fuel : Nat) :
    (∀ {depth : Nat} {path : ValuePath} {i jumps : Nat} {v : Json} {after : Nat × Nat},
      value d fuel depth path i jumps = .ok (v, after) → v.Storable) ∧
    (∀ {depth : Nat} {path : ValuePath} {count i jumps : Nat} {vs : List Json} {after : Nat × Nat},
      elements d fuel depth path count i jumps = .ok (vs, after) → ∀ v ∈ vs, v.Storable) ∧
    (∀ {depth : Nat} {path : ValuePath} {first : Bool} {i jumps : Nat} {ms : Members}
      {after : Nat × Nat},
      members d fuel depth path first i jumps = .ok (ms, after) → ∀ m ∈ ms, m.2.Storable) := by
  induction fuel with
  | zero =>
      refine ⟨fun read => ?_, fun read => ?_, fun read => ?_⟩
      · simp [value] at read
      · simp [elements] at read
      · simp [members] at read
  | succ fuel ih =>
      obtain ⟨ihValue, ihElements, ihMembers⟩ := ih
      refine ⟨fun read => ?_, fun read => ?_, fun read => ?_⟩
      · simp only [value, bind_eq_ok] at read
        obtain ⟨⟨item, mark⟩, found, read⟩ := read
        split at read
        · simp only [bind_eq_ok] at read
          obtain ⟨⟨target, jumps⟩, followed, ⟨v, behind⟩, readValue, same⟩ := read
          cases same
          exact ihValue readValue
        · split at read
          · cases read
          · split at read
            next scalar =>
              cases read
              exact ofScalar_storable scalar
            next => cases read
        · split at read
          · cases read
          · split at read
            · cases read
            · simp only [bind_eq_ok] at read
              obtain ⟨⟨vs, behind⟩, readElements, same⟩ := read
              cases same
              exact .array (ihElements readElements)
        · split at read
          · cases read
          · split at read
            · cases read
            · simp only [bind_eq_ok] at read
              obtain ⟨⟨ms, behind⟩, readMembers, same⟩ := read
              cases same
              exact .object (ihMembers readMembers)
        · cases read
          exact .null
        · cases read
        · cases read
      · simp only [elements, bind_eq_ok] at read
        obtain ⟨⟨item, mark⟩, found, read⟩ := read
        split at read
        · cases read
          simp
        · simp only [bind_eq_ok] at read
          obtain ⟨⟨v, behind⟩, readValue, ⟨vs, end_⟩, readRest, same⟩ := read
          cases same
          exact List.forall_mem_cons.mpr ⟨ihValue readValue, ihElements readRest⟩
      · simp only [members, bind_eq_ok] at read
        obtain ⟨⟨item, mark⟩, found, read⟩ := read
        split at read
        · cases read
          simp
        · simp only [bind_eq_ok] at read
          obtain ⟨⟨name, start⟩, readKey, ⟨v, behind⟩, readValue, ⟨ms, end_⟩, readRest, same⟩ :=
            read
          cases same
          exact List.forall_mem_cons.mpr ⟨ihValue readValue, ihMembers readRest⟩

theorem ofDocument_storable {v : Json} (read : ofDocument d = .ok v) : v.Storable := by
  simp only [ofDocument, bind_eq_ok] at read
  obtain ⟨⟨w, after⟩, readValue, ended⟩ := read
  split at ended
  · cases ended
  · split at ended
    · cases ended
    · cases ended
      exact (value_storable _).1 readValue

end Yaml.Value

theorem Yaml.wellFormed_of_parse {text : String} {v : Json} (read : Yaml.parse text = .ok v) :
    v.WellFormed := by
  unfold Yaml.parse at read
  split at read
  · cases read
  · obtain ⟨tree, document, rfl⟩ := map_eq_ok.mp read
    exact Json.wellFormed_canonical (Yaml.Value.ofDocument_storable document)

namespace Toml.Value

theorem integer_storable {radix : Radix} {cs : List Char} {offset : Nat} {v : Json}
    (read : integer radix cs offset = .ok v) : v.Storable := by
  unfold integer at read
  split at read
  · cases read
  · split at read
    · cases read
    · split at read
      next fits =>
        cases read
        exact .number fits
      next => cases read

theorem float_storable {cs : List Char} {offset : Nat} {v : Json}
    (read : float cs offset = .ok v) : v.Storable := by
  unfold float at read
  split at read
  · cases read
    exact .null
  · split at read
    · cases read
      exact .number trivial
    · cases read

theorem scalar_storable {s : Scalar} {offset : Nat} {v : Json} (read : scalar s offset = .ok v) :
    v.Storable := by
  cases s with
  | string s =>
      cases read
      exact .string s
  | boolean b =>
      cases read
      exact .bool b
  | dateTime d =>
      cases read
      exact .object (by simpa using Json.Storable.string d.text)
  | integer radix digits => exact integer_storable read
  | float text => exact float_storable read

mutual

theorem ofNode_storable : (node : Node) → ∀ {v : Json}, ofNode node = .ok v → v.Storable
  | .scalar s offset, _, read => scalar_storable read
  | .array items, _, read => by
      simp only [ofNode, bind_eq_ok] at read
      obtain ⟨vs, readItems, same⟩ := read
      cases same
      exact .array (ofNodes_storable items readItems)
  | .tables items, _, read => by
      simp only [ofNode, bind_eq_ok] at read
      obtain ⟨vs, readItems, same⟩ := read
      cases same
      exact .array (ofNodes_storable items readItems)
  | .table _ entries, _, read => by
      simp only [ofNode, bind_eq_ok] at read
      obtain ⟨ms, readEntries, same⟩ := read
      cases same
      exact .object (ofEntries_storable entries readEntries)

theorem ofNodes_storable :
    (nodes : List Node) → ∀ {vs : List Json}, ofNodes nodes = .ok vs → ∀ v ∈ vs, v.Storable
  | [], _, read => by
      cases read
      simp
  | node :: rest, _, read => by
      simp only [ofNodes, bind_eq_ok] at read
      obtain ⟨v, readNode, vs, readRest, same⟩ := read
      cases same
      exact List.forall_mem_cons.mpr ⟨ofNode_storable node readNode, ofNodes_storable rest readRest⟩

theorem ofEntries_storable :
    (entries : List (String × Node)) → ∀ {ms : Members}, ofEntries entries = .ok ms →
      ∀ m ∈ ms, m.2.Storable
  | [], _, read => by
      cases read
      simp
  | (key, node) :: rest, _, read => by
      simp only [ofEntries, bind_eq_ok] at read
      obtain ⟨v, readNode, ms, readRest, same⟩ := read
      cases same
      exact List.forall_mem_cons.mpr
        ⟨ofNode_storable node readNode, ofEntries_storable rest readRest⟩

end

end Toml.Value

theorem Toml.wellFormed_of_parse {text : String} {v : Json} (read : Toml.parse text = .ok v) :
    v.WellFormed := by
  simp only [Toml.parse, bind_eq_ok] at read
  obtain ⟨statements, grouped, entries, built, ms, readEntries, same⟩ := read
  cases same
  exact Json.wellFormed_canonical (.object (Toml.Value.ofEntries_storable entries readEntries))

theorem Document.wellFormed_of_read {filename : String} {bytes : List UInt8} {v : Json}
    (read : Document.read filename bytes = .ok v) : v.WellFormed := by
  have readBytes := mapError_eq_ok.mp read
  unfold Document.readBytes at readBytes
  split at readBytes
  · unfold Document.readText at readBytes
    split at readBytes
    · exact Json.wellFormed_of_parseDistinct (mapError_eq_ok.mp readBytes)
    · exact Yaml.wellFormed_of_parse (mapError_eq_ok.mp readBytes)
    · exact Toml.wellFormed_of_parse (mapError_eq_ok.mp readBytes)
  · cases readBytes

theorem Document.read_json {filename text : String} {v : Json}
    (format : DocumentFormat.ofPath filename = .json)
    (parsed : Json.parseDistinct text = .ok v) :
    Document.read filename text.toUTF8.toList = .ok v := by
  simp only [Document.read, Document.readBytes, Document.readText, format, Utf8.decode_toUTF8,
    parsed, ok_mapError]

/-- A document whose text is known is best read by its characters. -/
theorem Document.read_chars {filename text : String} {chars : List Char} {v : Json}
    (format : DocumentFormat.ofPath filename = .json) (spelled : text = String.ofList chars)
    (parsed : Json.Reader.documentOf .distinct chars = .ok v) :
    Document.read filename text.toUTF8.toList = .ok v.canonical := by
  have read : Json.Reader.document .distinct text = .ok v := by
    rw [spelled, Json.Reader.document_ofList, parsed]
  exact Document.read_json format (by rw [Json.parseDistinct, read])

namespace Overrides

theorem set_wellFormed {key : String} {value : Option String} {members : Members}
    (wellFormed : (Json.object members).WellFormed) :
    (Json.object (set key value members)).WellFormed := by
  cases value with
  | none => exact wellFormed
  | some text => exact wellFormed.insert (.string text)

theorem apply_wellFormed (overrides : Overrides) {v : Json} (wellFormed : v.WellFormed) :
    (overrides.apply v).WellFormed := by
  cases v with
  | object members => exact set_wellFormed (set_wellFormed (set_wellFormed wellFormed))
  | null | bool b | number n | string s | array elements => exact wellFormed

end Overrides
end AgentManifest
