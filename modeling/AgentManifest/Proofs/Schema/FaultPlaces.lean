import AgentManifest.Proofs.Schema.Misfits

/-! The places of faults. A tree that is refused as a schema is refused at a place where something
stands that causes the fault: without it, or with a value in its stead that can stand there, nothing
is wrong at that place any more. -/

namespace AgentManifest

namespace SchemaLocation

variable {l l' : SchemaLocation}

/-- The place of `enum` is not that of `const` beside it. -/
theorem beside_apart (expected : l.site? = some (.rule "enum")) :
    ¬ l <+: l.beside "const" ∧ ¬ l.beside "const" <+: l := by
  rcases List.eq_nil_or_concat l with rfl | ⟨holder, last, rfl⟩
  · cases expected
  rw [List.concat_eq_append, ← member] at expected ⊢
  rw [beside_member]
  have other : member holder last ≠ member holder "const" := by
    intro same
    rw [same, site?_member] at expected
    obtain ⟨site, -, expected⟩ := Option.bind_eq_some_iff.mp expected
    cases site <;> simp [SchemaSite.inside?, SchemaSite.ofKey] at expected
  have length : (member holder last).length = (member holder "const").length := by simp [member]
  exact ⟨fun before => other (before.eq_of_length length),
    fun before => other (before.eq_of_length length.symm).symm⟩

theorem splitAt_text (whole : ∀ name ∈ l, '/' ∉ name.toList) :
    Text.splitAt '/' l.text.toList = ['#'] :: l.map String.toList := by
  induction l using List.reverseRecOn with
  | nil => rfl
  | append_singleton l name ih =>
      rw [← member, text_member, String.toList_append, String.toList_append, List.append_assoc]
      show Text.splitAt '/' ((text l).toList ++ '/' :: name.toList) = _
      rw [Text.splitAt_append, ih fun other inside => whole other (List.mem_append_left _ inside),
        Text.splitAt_of_not_mem (whole name (by simp)), member, List.map_append]
      rfl

theorem text_inj (whole : ∀ name ∈ l ++ l', '/' ∉ name.toList) (same : l'.text = l.text) :
    l' = l := by
  have pieces := congrArg (fun text => Text.splitAt '/' text.toList) same
  simp only [splitAt_text fun name inside => whole name (List.mem_append_left _ inside),
    splitAt_text fun name inside => whole name (List.mem_append_right _ inside)] at pieces
  exact (List.map_inj_right fun _ _ => String.toList_inj.mp).mp (List.cons.inj pieces).2

end SchemaLocation

namespace SchemaStore

variable {tree v w : Json} {at_ : SchemaLocation} {fault : SchemaFault}

/-- Nothing is wrong at a place or inside it, and no error reads as if there were. Where names hold
slashes, the places of two errors may read the same. -/
def ClearAt (tree : Json) (at_ : SchemaLocation) : Prop :=
  ∀ at' fault, ofJson tree = .error (.malformed at' fault) →
    ¬ at_ <+: at' ∧ ((∀ name ∈ at_ ++ at', '/' ∉ name.toList) → at'.text ≠ at_.text)

/-- What stands at a place is what an error tells of. It is wrong there, and when it is gone, or
gives way to a value that can stand there, nothing is wrong there any more. The root cannot be
gone. -/
structure Causes (tree : Json) (at_ : SchemaLocation) (v : Json) (fault : SchemaFault) : Prop where
  stands : tree.atLocation? at_ = some v
  misfit : ∃ site, at_.site? = some site ∧ Schema.Misfit tree at_ site v fault
  removed : at_ ≠ .root → ClearAt (tree.changed none at_) at_
  replaced : ∀ w, fault.remedy? = some w → ClearAt (tree.changed (some w) at_) at_
  root : at_ = .root → fault = .rootNotObject

theorem exists_misfit (wellFormed : tree.WellFormed)
    (refused : ofJson tree = .error (.malformed at_ fault)) : ∃ site v, at_.site? = some site ∧
      tree.atLocation? at_ = some v ∧ Schema.Misfit tree at_ site v fault := by
  obtain ⟨_, _, site, v, same, told⟩ := told_of_ofJson wellFormed refused
  cases same
  exact ⟨site, v, told⟩

theorem clearAt_of_prefix (clear : ∀ more fault,
    ofJson tree ≠ .error (.malformed (at_ ++ more) fault)) : ClearAt tree at_ := by
  have apart : ∀ at' fault, ofJson tree = .error (.malformed at' fault) → ¬ at_ <+: at' := by
    rintro _ fault refused ⟨more, rfl⟩
    exact clear more fault refused
  refine fun at' fault refused => ⟨apart at' fault refused, fun whole same => ?_⟩
  exact apart at' fault refused (SchemaLocation.text_inj whole same ▸ List.prefix_refl at_)

theorem clearAt_of_removed (wellFormed : tree.WellFormed) (stands : tree.atLocation? at_ = some v)
    (inside : at_ ≠ .root) : ClearAt (tree.changed none at_) at_ := by
  refine clearAt_of_prefix fun more fault refused => ?_
  obtain ⟨_, v', -, stands', -⟩ := exists_misfit (wellFormed.changed (by simp) at_) refused
  have gone : (tree.changed none at_).atLocation? (at_ ++ more) = none :=
    Json.at?_changed wellFormed stands (.inl inside)
  rw [stands'] at gone
  cases gone

/-- A remedy fits where what was wrong did not. -/
theorem not_misfit_remedy {site : SchemaSite} {fault' : SchemaFault} (wellFormed : tree.WellFormed)
    (expected : at_.site? = some site) (misfit : Schema.Misfit tree at_ site v fault)
    (remedied : fault.remedy? = some w) :
    ¬ Schema.Misfit (tree.changed (some w) at_) at_ site w fault' := by
  intro again
  cases misfit with
  | root unfit | definitions unfit | listing unfit =>
      cases remedied
      cases again with
      | _ unfit => exact unfit [] rfl
  | schema unfit notAny =>
      cases remedied
      cases again with
      | schema _ notAny => exact notAny rfl
  | additional unfit noTruth =>
      cases remedied
      cases again with
      | additional _ noTruth => exact noTruth true rfl
  | rule wrong =>
      obtain ⟨written, alone⟩ : Schema.WrittenRule (fun _ => False) _ w ∧ _ :=
        wrong.writtenRule_of_remedy remedied
      cases again with
      | rule wrong' =>
          refine written.faultless (fun lists ⟨enum, const⟩ => alone lists ⟨enum, ?_⟩) wrong'
          obtain ⟨apart, apart'⟩ := SchemaLocation.beside_apart (enum ▸ expected)
          rwa [Json.atLocation?, Json.at?_changed_of_apart wellFormed apart apart'] at const
      | unresolvedReference filled whole undefined =>
          exact written.known_of_reference
            (Schema.referenceTarget?_eq_some_iff.mpr ⟨⟨filled, whole⟩, rfl⟩)
  | unresolvedReference => cases remedied

theorem clearAt_of_replaced (wellFormed : tree.WellFormed) {site : SchemaSite}
    (stands : tree.atLocation? at_ = some v) (expected : at_.site? = some site)
    (misfit : Schema.Misfit tree at_ site v fault) (remedied : fault.remedy? = some w) :
    ClearAt (tree.changed (some w) at_) at_ := by
  refine clearAt_of_prefix fun more fault' refused => ?_
  have formed : (tree.changed (some w) at_).WellFormed := by
    refine wellFormed.changed ?_ at_
    rintro _ ⟨⟩
    exact SchemaFault.wellFormed_remedy remedied
  obtain ⟨site', v', expected', stands', misfit'⟩ := exists_misfit formed refused
  have put : (tree.changed (some w) at_).atLocation? (at_ ++ more) = w.at? (more.map .field) :=
    Json.at?_changed wellFormed stands (.inr nofun)
  rw [stands'] at put
  cases more with
  | nil =>
      rw [List.append_nil] at expected' misfit'
      cases expected.symm.trans expected'
      cases put
      exact not_misfit_remedy wellFormed expected misfit remedied misfit'
  | cons name more =>
      rw [List.map_cons, SchemaFault.at?_remedy remedied] at put
      cases put

/-- A tree is refused at a place where a value stands that is wrong there, and that causes the
fault. -/
theorem faults_stand_where_told (wellFormed : tree.WellFormed)
    (refused : ofJson tree = .error (.malformed at_ fault)) : ∃ v, Causes tree at_ v fault := by
  obtain ⟨site, v, expected, stands, misfit⟩ := exists_misfit wellFormed refused
  refine ⟨v, stands, ⟨site, expected, misfit⟩, clearAt_of_removed wellFormed stands,
    fun w => clearAt_of_replaced wellFormed stands expected misfit, ?_⟩
  rintro rfl
  cases expected
  cases misfit
  rfl

/-- A definition that refers, deep inside, to one that is not there. -/
def dangling : Json := .object [("$defs", .object [("A", .object [("properties", .object [
  ("x", .object [("items", .object [("$ref", .string "#/$defs/B")])])])])])]

def danglingAt : SchemaLocation := ["$defs", "A", "properties", "x", "items", "$ref"]

theorem faults_stand_where_told_dangling : dangling.WellFormed ∧
    ofJson dangling = .error (.malformed danglingAt (.unresolvedReference "B")) ∧
    danglingAt.text = "#/$defs/A/properties/x/items/$ref" ∧
    ∃ v, Causes dangling danglingAt v (.unresolvedReference "B") := by
  have wellFormed : dangling.WellFormed := by
    simp [dangling, Json.wellFormed_object_iff, Keyed.ordered_cons, Json.WellFormed.string]
  have refused : ofJson dangling = .error (.malformed danglingAt (.unresolvedReference "B")) := by
    have fails : ∃ e, ofJson dangling = .error e ∧
        e = .malformed danglingAt (.unresolvedReference "B") := by
      decide +kernel
    obtain ⟨_, refused, rfl⟩ := fails
    exact refused
  exact ⟨wellFormed, refused, rfl, faults_stand_where_told wellFormed refused⟩

end SchemaStore
end AgentManifest
