import AgentManifest.Proofs.Schema.Annotations
import AgentManifest.Proofs.Schema.RuleFaults

/-! What a tree is refused for as a schema. From the names that lead to a place it is known what is
expected there, and where a tree is refused something stands that is not that. Faults of reading are
followed through the tree, and faults of references through the schemas that were read from it. -/

namespace AgentManifest

/-- What is expected at a place of a tree with schemas. -/
inductive SchemaSite where
  | root
  /-- The definitions under their names. -/
  | definitions
  | schema
  /-- A schema for the members that are not listed, or whether there may be any. -/
  | additional
  /-- The schemas of members under their names. -/
  | listing
  /-- A keyword that holds no schema. -/
  | rule (key : String)
  deriving DecidableEq, Repr

namespace SchemaSite

def ofKey : String → SchemaSite
  | "items" => .schema
  | "additionalProperties" => .additional
  | "properties" => .listing
  | key => .rule key

/-- What is expected under a name. -/
def inside? : SchemaSite → String → Option SchemaSite
  | .root, name => some (if name = "$defs" then .definitions else .ofKey name)
  | .schema, name | .additional, name => some (.ofKey name)
  | .definitions, _ | .listing, _ => some .schema
  | .rule _, _ => none

end SchemaSite

namespace SchemaLocation

variable {l l' : SchemaLocation} {name : String}

def site? (l : SchemaLocation) : Option SchemaSite := l.foldlM SchemaSite.inside? .root

theorem site?_member (l : SchemaLocation) (name : String) :
    (l.member name).site? = l.site?.bind (·.inside? name) := by
  simp only [site?, member, List.foldlM_append, List.foldlM_cons, List.foldlM_nil, bind_pure]
  rfl

/-- The place of another member of the same object. -/
def beside (l : SchemaLocation) (name : String) : SchemaLocation := member l.dropLast name

@[simp] theorem beside_member (l : SchemaLocation) (name other : String) :
    (l.member name).beside other = l.member other := by
  simp [beside, member]

end SchemaLocation

/-- What stands at a place of a tree with schemas. -/
abbrev Json.atLocation? (tree : Json) (l : SchemaLocation) : Option Json := tree.at? (l.map .field)

theorem Json.atLocation?_member (tree : Json) (l : SchemaLocation) (name : String) :
    tree.atLocation? (l.member name) = (tree.atLocation? l).bind (·.at? [.field name]) := by
  rw [atLocation?, SchemaLocation.member, List.map_append, at?_append]
  rfl

namespace Schema

/-- What is wrong with the value at a place: it is not what is expected there. -/
inductive Misfit (tree : Json) (at_ : SchemaLocation) :
    SchemaSite → Json → SchemaFault → Prop where
  | root {v : Json} (unfit : ∀ members, v ≠ .object members) :
      Misfit tree at_ .root v .rootNotObject
  | definitions {v : Json} (unfit : ∀ members, v ≠ .object members) :
      Misfit tree at_ .definitions v .notObject
  | listing {v : Json} (unfit : ∀ members, v ≠ .object members) :
      Misfit tree at_ .listing v .notObject
  | schema {v : Json} (unfit : ∀ members, v ≠ .object members) (notAny : v ≠ .bool true) :
      Misfit tree at_ .schema v .notSchema
  | additional {v : Json} (unfit : ∀ members, v ≠ .object members) (noTruth : ∀ b, v ≠ .bool b) :
      Misfit tree at_ .additional v .notSchema
  /-- Keywords come in the order of their names, so of two that list values `enum` is the second. -/
  | rule {key : String} {v : Json} {fault : SchemaFault}
      (wrong : RuleFault (key = "enum" ∧ tree.atLocation? (at_.beside "const") ≠ none)
        key v fault) : Misfit tree at_ (.rule key) v fault
  | unresolvedReference {name : String} (filled : name ≠ "") (whole : '/' ∉ name.toList)
      (undefined : tree.atLocation? ["$defs", name] = none) :
      Misfit tree at_ (.rule "$ref") (.string ("#/$defs/" ++ name)) (.unresolvedReference name)

/-- An error that tells of a value of the tree that is wrong, and where it stands. -/
def Told (tree : Json) (e : SchemaError) : Prop :=
  ∃ at_ fault site v, e = .malformed at_ fault ∧ at_.site? = some site ∧
    tree.atLocation? at_ = some v ∧ Misfit tree at_ site v fault

variable {at_ : SchemaLocation} {s s' t : Schema} {key name : String} {v w inner tree : Json}
  {keywords listed : Members} {e : SchemaError} {step : SchemaStep} {r : Rules}
  {definitions : Keyed Schema}

theorem ofMembers_eq_error (refused : ofMembers at_ s keywords = .error e) :
    ∃ before key v rest s', keywords = before ++ (key, v) :: rest ∧
      ofMembers at_ s before = .ok s' ∧ ofKeyword at_ s' key v = .error e := by
  induction keywords generalizing s with
  | nil => cases refused
  | cons first rest ih =>
      obtain ⟨key, v⟩ := first
      rw [ofMembers_cons] at refused
      rcases bind_eq_error.mp refused with here | ⟨s₁, read, later⟩
      · exact ⟨[], key, v, rest, s, rfl, by rw [ofMembers], here⟩
      · obtain ⟨before, key', v', rest', s', rfl, readBefore, refused⟩ := ih later
        refine ⟨(key, v) :: before, key', v', rest', s', rfl, ?_, refused⟩
        rw [ofMembers_cons, read, ok_bind, readBefore]

theorem ofProperties_eq_error (refused : ofProperties at_ listed = .error e) :
    ∃ name v, (name, v) ∈ listed ∧ ofJson (at_.member name) v = .error e := by
  induction listed with
  | nil => cases refused
  | cons first rest ih =>
      obtain ⟨name, v⟩ := first
      rw [ofProperties] at refused
      rcases bind_eq_error.mp refused with here | ⟨s, -, later⟩
      · exact ⟨name, v, List.mem_cons_self, here⟩
      · obtain ⟨name', v', inside, refused⟩ := ih (bind_pure_eq_error.mp later)
        exact ⟨name', v', List.mem_cons_of_mem _ inside, refused⟩

/-- Why one keyword is refused: because of a schema inside it, or because of itself. -/
inductive KeywordRefused (at_ : SchemaLocation) (r : Rules) :
    String → Json → SchemaError → Prop where
  | items {v : Json} {e : SchemaError} (refused : ofJson (at_.member "items") v = .error e) :
      KeywordRefused at_ r "items" v e
  | additional {v : Json} {e : SchemaError} (noTruth : ∀ b, v ≠ .bool b)
      (refused : ofJson (at_.member "additionalProperties") v = .error e) :
      KeywordRefused at_ r "additionalProperties" v e
  | property {listed : Members} {name : String} {v : Json} {e : SchemaError}
      (inside : (name, v) ∈ listed)
      (refused : ofJson ((at_.member "properties").member name) v = .error e) :
      KeywordRefused at_ r "properties" (.object listed) e
  | listing {v : Json} (unfit : ∀ members, v ≠ .object members) :
      KeywordRefused at_ r "properties" v (.malformed (at_.member "properties") .notObject)
  | rule {key : String} {v : Json} {fault : SchemaFault} (own : key ∉ innerKeywords)
      (refused : ruleKeyword key v r = .error fault) :
      KeywordRefused at_ r key v (.malformed (at_.member key) fault)

theorem keywordRefused_of_ofKeyword (refused : ofKeyword at_ s key v = .error e) :
    KeywordRefused at_ s.rules key v e := by
  unfold ofKeyword at refused
  dsimp only at refused
  split at refused
  next same =>
    subst same
    exact .items (bind_pure_eq_error.mp refused)
  next notItems =>
    split at refused
    next same =>
      subst same
      split at refused
      next => cases refused
      next => cases refused
      next notTrue notFalse =>
        refine .additional ?_ (bind_pure_eq_error.mp refused)
        rintro (_ | _) rfl
        · exact notFalse rfl
        · exact notTrue rfl
    next notAdditional =>
      split at refused
      next same =>
        subst same
        split at refused
        next listed =>
          obtain ⟨name, v, inside, refused⟩ :=
            ofProperties_eq_error (bind_pure_eq_error.mp refused)
          exact .property inside refused
        next noObject =>
          cases refused
          exact .listing noObject
      next notProperties =>
        split at refused
        next => cases refused
        next fault refused' =>
          cases refused
          exact .rule (by simp [innerKeywords, notItems, notAdditional, notProperties]) refused'

/-- Keywords that stand in a tree at a place for a schema. -/
structure Keywords (tree : Json) (at_ : SchemaLocation) (keywords : Members) : Prop where
  wellFormed : (Json.object keywords).WellFormed
  stands : ∀ {key v}, Keyed.get? key keywords = some v →
    tree.atLocation? (at_.member key) = some v
  const : tree.atLocation? (at_.member "const") = Keyed.get? "const" keywords
  site : ∀ {key v}, Keyed.get? key keywords = some v →
    (at_.member key).site? = some (.ofKey key)

/-- A value that stands in a tree at a place for a schema. -/
structure Standing (tree : Json) (at_ : SchemaLocation) (v : Json) : Prop where
  wellFormed : v.WellFormed
  stands : tree.atLocation? at_ = some v
  site : at_.site? = some .schema ∨ at_.site? = some .additional ∧ ∀ b, v ≠ .bool b

theorem keywords_of_standing (standing : Standing tree at_ (.object keywords)) :
    Keywords tree at_ keywords where
  wellFormed := standing.wellFormed
  stands found := by
    rw [Json.atLocation?_member, standing.stands, Option.bind_some, Json.at?_field, found]
  const := by rw [Json.atLocation?_member, standing.stands, Option.bind_some, Json.at?_field]
  site _ := by
    rw [SchemaLocation.site?_member]
    rcases standing.site with site | ⟨site, -⟩ <;> rw [site] <;> rfl

/-- What is written one step inside a schema stands one step further. -/
theorem standing_of_inner (here : Keywords tree at_ keywords)
    (written : (Json.object keywords).inner? step = some inner) :
    Standing tree (at_ ++ step.names) inner := by
  have wellFormed := here.wellFormed.inner? written
  cases step with
  | items =>
      simp only [Json.inner?, SchemaStep.names, List.map_cons, List.map_nil, Json.at?_field]
        at written
      exact ⟨wellFormed, here.stands written, .inl (here.site written)⟩
  | additional =>
      simp only [Json.inner?, SchemaStep.names, List.map_cons, List.map_nil, Json.at?_field]
        at written
      split at written
      next => cases written
      next noTruth =>
        refine ⟨wellFormed, here.stands written, .inr ⟨here.site written, ?_⟩⟩
        rintro b rfl
        exact noTruth b rfl written
  | property name =>
      obtain ⟨listed, found, written⟩ := Option.bind_eq_some_iff.mp written
      have further : at_ ++ SchemaStep.names (.property name) =
          (at_.member "properties").member name := by
        simp [SchemaStep.names, SchemaLocation.member]
      rw [further]
      refine ⟨wellFormed, ?_, .inl ?_⟩
      · rw [Json.atLocation?_member, here.stands found, Option.bind_some]
        exact written
      · rw [SchemaLocation.site?_member, here.site found]
        rfl

theorem RuleFault.congr {second second' : Prop} {fault : SchemaFault}
    (wrong : RuleFault second key v fault) (same : Lists key → (second ↔ second')) :
    RuleFault second' key v fault := by
  cases wrong with
  | nestedDefinitions => exact .nestedDefinitions v
  | unsupportedReference unfit => exact .unsupportedReference unfit
  | enumWithConst lists behind => exact .enumWithConst lists ((same lists).mp behind) v
  | notNonEmptyArray alone unfit =>
      exact .notNonEmptyArray (fun behind => alone ((same (by simp [Lists])).mpr behind)) unfit
  | notCount counts unfit => exact .notCount counts unfit
  | notNumber bounds unfit => exact .notNumber bounds unfit
  | notNames unfit => exact .notNames unfit
  | notTypes noName noList => exact .notTypes noName noList
  | typeNotString inside unfit => exact .typeNotString inside unfit
  | unknownType unknown => exact .unknownType unknown
  | unknownTypeAmong known unknown => exact .unknownTypeAmong known unknown
  | unsupportedKeyword unsupported => exact .unsupportedKeyword unsupported v

/-- Values have been listed when another keyword is to list them only if that is `enum` and there is
a `const`. -/
theorem allowed_iff_of_lists {before rest : Members}
    (ordered : Keyed.Ordered (before ++ (key, v) :: rest)) (lists : Lists key)
    (read : ofMembers at_ any before = .ok s) : s.rules.allowed.isSome = true ↔
      key = "enum" ∧ Keyed.get? "const" (before ++ (key, v) :: rest) ≠ none := by
  obtain ⟨orderedBefore, orderedRest, below⟩ := List.pairwise_append.mp ordered
  obtain ⟨above, -⟩ := List.pairwise_cons.mp orderedRest
  have parts := readFrom_of_ofMembers (Keyed.Ordered.nodup orderedBefore) read
  have absent : ∀ {name}, key ≤ name → Keyed.get? name before = none := fun le =>
    Keyed.get?_eq_none_iff.mpr fun entry inside same =>
      absurd (below entry inside _ List.mem_cons_self) (same ▸ not_lt.mpr le)
  have order : "const" < "enum" := by decide
  simp only [Lists, List.mem_cons, List.not_mem_nil, or_false] at lists
  rcases lists with rfl | rfl
  · have later : Keyed.get? "const" (("enum", v) :: rest) = none := by
      refine Keyed.get?_eq_none_iff.mpr (List.forall_mem_cons.mpr ⟨by simp, ?_⟩)
      exact fun entry inside same => absurd (above entry inside) (same ▸ not_lt.mpr order.le)
    rw [Keyed.get?_append, later, Option.or_none]
    cases found : Keyed.get? "const" before with
    | none => simp [parts.free (absent le_rfl) found]
    | some w => simp [parts.const w found]
  · simp [parts.free (absent order.le) (absent le_rfl)]

theorem told_of_ofMembers (here : Keywords tree at_ keywords)
    (further : ∀ step inner e, (Json.object keywords).inner? step = some inner →
      ofJson (at_ ++ step.names) inner = .error e → Told tree e)
    (refused : ofMembers at_ any keywords = .error e) : Told tree e := by
  obtain ⟨before, key, v, rest, s, same, read, refused⟩ := ofMembers_eq_error refused
  have ordered := here.wellFormed.ordered
  have found : Keyed.get? key keywords = some v := ordered.get?_eq_some_iff.mpr (by simp [same])
  have stands := here.stands found
  have site := here.site found
  cases keywordRefused_of_ofKeyword refused with
  | items refused =>
      refine further .items v e ?_ refused
      simpa [Json.inner?, SchemaStep.names, Json.at?] using found
  | additional noTruth refused =>
      refine further .additional v e ?_ refused
      simp only [Json.inner?, SchemaStep.names, List.map_cons, List.map_nil, Json.at?_field, found]
      split
      next b _ same => exact absurd (Option.some.inj same) (noTruth b)
      next => rfl
  | @property listed name v e inside refused =>
      have under : Keyed.get? name listed = some v :=
        (here.wellFormed.member found).ordered.get?_eq_some_iff.mpr inside
      refine further (.property name) v e ?_ ?_
      · simp [Json.inner?, SchemaStep.names, Json.at?, found, under]
      · simpa [SchemaStep.names, SchemaLocation.member] using refused
  | listing unfit => exact ⟨_, _, _, v, rfl, site, stands, .listing unfit⟩
  | @rule _ _ fault own misread =>
      have plain : SchemaSite.ofKey key = .rule key := by
        simp only [innerKeywords, List.mem_cons, List.not_mem_nil, or_false, not_or] at own
        unfold SchemaSite.ofKey
        split <;> simp_all
      refine ⟨_, fault, _, v, rfl, plain ▸ site, stands, .rule ?_⟩
      refine (ruleFault_of_ruleKeyword own misread).congr fun lists => ?_
      rw [SchemaLocation.beside_member, here.const, same]
      exact allowed_iff_of_lists (same ▸ ordered) lists read

theorem sizeOf_lt_of_inner? (written : v.inner? step = some inner) : sizeOf inner < sizeOf v := by
  cases step with
  | items | property => exact Json.sizeOf_lt_of_at? written
  | additional =>
      unfold Json.inner? at written
      split at written
      next => cases written
      next => exact Json.sizeOf_lt_of_at? written

/-- What holds of a schema when it holds of the schemas inside it holds of every schema. -/
@[elab_as_elim]
theorem induction_on_schemas {P : SchemaLocation → Json → Prop} (at_ : SchemaLocation) (v : Json)
    (step : ∀ at_ v, (∀ step inner, v.inner? step = some inner → P (at_ ++ step.names) inner) →
      P at_ v) : P at_ v :=
  step at_ v fun _ inner _ => induction_on_schemas _ inner step
termination_by sizeOf v
decreasing_by exact sizeOf_lt_of_inner? ‹_›

theorem told_of_ofJson (standing : Standing tree at_ v) (refused : ofJson at_ v = .error e) :
    Told tree e := by
  induction at_, v using induction_on_schemas generalizing e with
  | step at_ v ih =>
      have noSchema (unfit : ∀ members, v ≠ .object members) (notAny : v ≠ .bool true) :
          Told tree (.malformed at_ .notSchema) := by
        rcases standing.site with site | ⟨site, noTruth⟩
        · exact ⟨_, _, _, v, rfl, site, standing.stands, .schema unfit notAny⟩
        · exact ⟨_, _, _, v, rfl, site, standing.stands, .additional unfit noTruth⟩
      unfold ofJson at refused
      split at refused
      next => cases refused
      next keywords =>
        have here := keywords_of_standing standing
        refine told_of_ofMembers here (fun step inner e written => ?_) refused
        exact ih step inner written (standing_of_inner here written)
      next notAny noObject =>
        cases refused
        exact noSchema noObject notAny

theorem checkPropertyReferences_eq_error {properties : List (String × Schema)}
    (refused : checkPropertyReferences definitions at_ properties = .error e) :
    ∃ name s, (name, s) ∈ properties ∧
      checkReferences definitions (at_.member name) s = .error e := by
  induction properties with
  | nil => cases refused
  | cons first rest ih =>
      obtain ⟨name, s⟩ := first
      rw [checkPropertyReferences] at refused
      rcases bind_eq_error.mp refused with here | ⟨-, -, later⟩
      · exact ⟨name, s, List.mem_cons_self, here⟩
      · obtain ⟨name', s', inside, refused⟩ := ih later
        exact ⟨name', s', List.mem_cons_of_mem _ inside, refused⟩

theorem refused_of_checkReferences {rules : Rules} {items : Option Schema}
    {properties : List (String × Schema)} {additional : Additional Schema}
    (refused : checkReferences definitions at_ ⟨rules, items, properties, additional⟩ = .error e) :
    (∃ target, rules.reference = some target ∧ Keyed.contains target definitions = false ∧
      e = .malformed (at_.member "$ref") (.unresolvedReference target)) ∨
    (∃ inner, items = some inner ∧
      checkReferences definitions (at_.member "items") inner = .error e) ∨
    checkPropertyReferences definitions (at_.member "properties") properties = .error e ∨
    ∃ extra, additional = .schema extra ∧
      checkReferences definitions (at_.member "additionalProperties") extra = .error e := by
  unfold checkReferences at refused
  cases target : rules.reference with
  | none =>
      rw [target] at refused
      cases items <;> cases additional <;> simp_all [bind_eq_error] <;> grind
  | some name =>
      cases known : Keyed.contains name definitions with
      | true =>
          simp only [target, known] at refused
          cases items <;> cases additional <;> simp_all [bind_eq_error] <;> grind
      | false =>
          simp only [target, known, Bool.false_eq_true, if_false] at refused
          cases refused
          exact .inl ⟨name, rfl, known, rfl⟩

/-- A reference that is refused is one of the schema itself, or of one inside it. -/
theorem checkReferences_eq_error (ordered : Keyed.Ordered s.properties)
    (refused : checkReferences definitions at_ s = .error e) :
    (∃ target, s.rules.reference = some target ∧ Keyed.contains target definitions = false ∧
      e = .malformed (at_.member "$ref") (.unresolvedReference target)) ∨
    ∃ step inner, s.inner? step = some inner ∧
      checkReferences definitions (at_ ++ step.names) inner = .error e := by
  obtain ⟨rules, items, properties, additional⟩ := s
  rcases refused_of_checkReferences refused with
    unknown | ⟨inner, rfl, within⟩ | within | ⟨inner, rfl, within⟩
  · exact .inl unknown
  · exact .inr ⟨.items, inner, rfl, within⟩
  · obtain ⟨name, inner, inside, within⟩ := checkPropertyReferences_eq_error within
    refine .inr ⟨.property name, inner, ordered.get?_eq_some_iff.mpr inside, ?_⟩
    simpa [SchemaStep.names, SchemaLocation.member] using within
  · exact .inr ⟨.additional, inner, rfl, within⟩

theorem ordered_of_ofProperties {properties : Keyed Schema}
    (read : ofProperties at_ listed = .ok properties) : Keyed.Ordered properties := by
  induction listed generalizing properties with
  | nil =>
      cases read
      exact Keyed.ordered_nil
  | cons first rest ih =>
      obtain ⟨name, v⟩ := first
      rw [ofProperties] at read
      obtain ⟨inner, -, read⟩ := bind_eq_ok.mp read
      obtain ⟨others, readOthers, same⟩ := bind_eq_ok.mp read
      cases same
      exact (ih readOthers).insert

theorem ReadFrom.ordered_properties (parts : s.ReadFrom keywords) :
    Keyed.Ordered s.properties := by
  have properties := parts.properties
  cases found : Keyed.get? "properties" keywords with
  | none =>
      rw [found] at properties
      have none : s.properties = [] := properties
      exact none ▸ Keyed.ordered_nil
  | some v =>
      rw [found] at properties
      obtain ⟨_, written, -, read⟩ := properties
      exact ordered_of_ofProperties read

theorem told_of_references (here : Keywords tree at_ keywords)
    (undefined : ∀ name, Keyed.contains name definitions = false →
      tree.atLocation? ["$defs", name] = none)
    {elsewhere : SchemaLocation} (read : ofJson elsewhere (.object keywords) = .ok s)
    (further : ∀ step inner elsewhere s, (Json.object keywords).inner? step = some inner →
      ofJson elsewhere inner = .ok s →
      checkReferences definitions (at_ ++ step.names) s = .error e → Told tree e)
    (refused : checkReferences definitions at_ s = .error e) : Told tree e := by
  have parts := readFrom_of_ofJson here.wellFormed.ordered.nodup read
  rcases checkReferences_eq_error parts.ordered_properties refused with
    ⟨target, refers, unknown, rfl⟩ | ⟨step, inner, inside, refused⟩
  · obtain ⟨v, found, target', written, same⟩ := parts.reference.given_of_ne (by simp [refers])
    obtain rfl : target' = target := by simpa [refers] using same.symm
    obtain ⟨⟨filled, whole⟩, rfl⟩ := referenceTarget?_eq_some_iff.mp written
    exact ⟨_, _, _, _, rfl, here.site found, here.stands found,
      .unresolvedReference filled whole (undefined _ unknown)⟩
  · have part := inner?_of_ofJson here.wellFormed read step
    obtain ⟨v, written, elsewhere', inner', readInner, same⟩ := part.given_of_ne (by simp [inside])
    obtain rfl : inner' = inner := by simpa [inside] using same.symm
    exact further step v elsewhere' inner' written readInner refused

theorem told_of_checkReferences (standing : Standing tree at_ v)
    (undefined : ∀ name, Keyed.contains name definitions = false →
      tree.atLocation? ["$defs", name] = none)
    {elsewhere : SchemaLocation} (read : ofJson elsewhere v = .ok s)
    (refused : checkReferences definitions at_ s = .error e) : Told tree e := by
  induction at_, v using induction_on_schemas generalizing s elsewhere with
  | step at_ v ih =>
      cases v with
      | object keywords =>
          have here := keywords_of_standing standing
          exact told_of_references here undefined read
            (fun step inner _ _ written => ih step inner written (standing_of_inner here written))
            refused
      | bool b =>
          cases b with
          | false => cases read
          | true =>
              rw [ofJson] at read
              cases read
              rcases checkReferences_eq_error Keyed.ordered_nil refused with
                ⟨target, refers, -, -⟩ | ⟨step, inner, inside, -⟩
              · cases refers
              · cases step <;> cases inside
      | _ => cases read

end Schema

namespace SchemaStore

variable {tree w : Json} {members : Members} {e : SchemaError} {definitions : Keyed Schema}

theorem keywords_of_root (wellFormed : (Json.object members).WellFormed) :
    Schema.Keywords (.object members) .root (Keyed.erase "$defs" members) where
  wellFormed := wellFormed.erase
  stands {key v} found := by
    rw [Keyed.get?_erase] at found
    split at found
    next => cases found
    next => exact (Json.at?_field members key).trans found
  const := by
    rw [Keyed.get?_erase, if_neg (by decide)]
    exact Json.at?_field members "const"
  site {key v} found := by
    rw [Keyed.get?_erase] at found
    split at found
    next => cases found
    next other =>
      rw [SchemaLocation.site?_member]
      show some (if key = "$defs" then _ else _) = _
      rw [if_neg other]

theorem undefined_of_defines (defines : Defines members definitions) (name : String)
    (unknown : Keyed.contains name definitions = false) :
    (Json.object members).atLocation? ["$defs", name] = none := by
  have absent : name ∉ definedNames members := by
    rw [← defines.contains_iff, unknown]
    exact Bool.false_ne_true
  simp only [Json.atLocation?, List.map_cons, List.map_nil, Json.at?]
  rw [definedNames] at absent
  cases given : Keyed.get? "$defs" members with
  | none => rfl
  | some v =>
      cases v with
      | object listed =>
          rw [given] at absent
          rw [Option.bind_some, Json.at?_field, Keyed.get?_eq_none_iff]
          exact fun entry inside same => absent (List.mem_map.mpr ⟨entry, inside, same⟩)
      | _ => rfl

theorem standing_of_definition {listed : Members} {name : String} {v : Json}
    (wellFormed : (Json.object members).WellFormed)
    (given : Keyed.get? "$defs" members = some (.object listed))
    (found : Keyed.get? name listed = some v) :
    Schema.Standing (.object members) ["$defs", name] v where
  wellFormed := (wellFormed.member given).member found
  stands := by simp [Json.atLocation?, Json.at?, given, found]
  site := .inl rfl

/-- Behind the definitions, what is wrong is wrong in the root or with a reference. -/
theorem told_of_defines (wellFormed : (Json.object members).WellFormed)
    (defines : Defines members definitions) (refused : (do
      let root ← Schema.ofMembers .root .any (Keyed.erase "$defs" members)
      Schema.checkReferences definitions .root root
      Schema.checkPropertyReferences definitions ["$defs"] definitions
      return (⟨root, definitions⟩ : SchemaStore)) = .error e) :
    Schema.Told (.object members) e := by
  have undefined := undefined_of_defines defines
  have here := keywords_of_root wellFormed
  rcases bind_eq_error.mp refused with refused | ⟨root, read, refused⟩
  · exact Schema.told_of_ofMembers here
      (fun step inner e written => Schema.told_of_ofJson (Schema.standing_of_inner here written))
      refused
  rcases bind_eq_error.mp refused with refused | ⟨_, -, refused⟩
  · rw [← Schema.ofJson] at read
    exact Schema.told_of_references here undefined read
      (fun step inner _ s written =>
        Schema.told_of_checkReferences (Schema.standing_of_inner here written) undefined) refused
  obtain ⟨name, s, inside, refused⟩ :=
    Schema.checkPropertyReferences_eq_error (bind_pure_eq_error.mp refused)
  obtain ⟨v, given, listed, rfl, read⟩ := defines.given_of_ne (List.ne_nil_of_mem inside)
  have part := Schema.readAs_of_ofProperties read name
  rw [(Schema.ordered_of_ofProperties read).get?_eq_some_iff.mpr inside] at part
  obtain ⟨v, found, _, s', readInner, same⟩ := part.given_of_ne (by simp)
  cases same
  exact Schema.told_of_checkReferences (standing_of_definition wellFormed given found) undefined
    readInner refused

/-- Whatever a tree is refused for stands in it, where it is told. -/
theorem told_of_ofJson (wellFormed : tree.WellFormed) (refused : ofJson tree = .error e) :
    Schema.Told tree e := by
  unfold ofJson at refused
  split at refused
  next members =>
    dsimp only at refused
    split at refused
    next absent =>
      exact told_of_defines wellFormed (by simp [Defines, absent, Schema.ReadAs]) refused
    next listed given =>
      rcases bind_eq_error.mp refused with refused | ⟨definitions, read, refused⟩
      · obtain ⟨name, v, inside, refused⟩ := Schema.ofProperties_eq_error refused
        have found := (wellFormed.member given).ordered.get?_eq_some_iff.mpr inside
        exact Schema.told_of_ofJson (standing_of_definition wellFormed given found) refused
      · exact told_of_defines wellFormed (by simp [Defines, given, Schema.ReadAs, read]) refused
    next v noObject given =>
      cases refused
      have stands : (Json.object members).atLocation? ["$defs"] = some v :=
        (Json.at?_field members "$defs").trans given
      exact ⟨_, _, .definitions, v, rfl, rfl, stands, .definitions noObject⟩
  next noObject =>
    cases refused
    exact ⟨_, _, .root, tree, rfl, rfl, rfl, .root noObject⟩

end SchemaStore
end AgentManifest
