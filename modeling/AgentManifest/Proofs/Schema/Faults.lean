import AgentManifest.Schema.Document

/-! How schemas are refused. A tree that is no schema is refused with a fault and its place; nothing
else goes wrong with a tree. -/

namespace AgentManifest
namespace Schema

variable {α β : Type} {step : Except SchemaError α} {next : α → Except SchemaError β}
  {at_ : SchemaLocation} {fault : SchemaFault} {definitions : Keyed Schema}

/-- A step that fails, if it does, with a fault at a place. -/
def Placed (step : Except SchemaError α) : Prop :=
  ∀ e, step = .error e → ∃ at_ fault, e = .malformed at_ fault

@[simp] theorem placed_ok {a : α} : Placed (.ok a : Except SchemaError α) := nofun

@[simp] theorem placed_pure {a : α} : Placed (pure a : Except SchemaError α) := nofun

@[simp] theorem placed_refuse : Placed (refuse at_ fault : Except SchemaError α) := by
  rintro e ⟨⟩
  exact ⟨at_, fault, rfl⟩

theorem Placed.bind (first : Placed step) (second : ∀ a, Placed (next a)) :
    Placed (step >>= next) := by
  intro e failed
  cases step with
  | error e' =>
      cases failed
      exact first e rfl
  | ok a => exact second a e failed

mutual

theorem placed_ofJson (at_ : SchemaLocation) : (v : Json) → Placed (ofJson at_ v)
  | .bool true => by
      rw [ofJson]
      exact placed_ok
  | .object members => by
      rw [ofJson]
      exact placed_ofMembers at_ any members
  | .bool false | .null | .number _ | .string _ | .array _ => by simp [ofJson]

theorem placed_ofMembers (at_ : SchemaLocation) (s : Schema) :
    (keywords : List (String × Json)) → Placed (ofMembers at_ s keywords)
  | [] => by
      rw [ofMembers]
      exact placed_ok
  | (key, value) :: rest => by
      have rest_placed : ∀ s, Placed (ofMembers at_ s rest) := fun s => placed_ofMembers at_ s rest
      have value_placed : ∀ at_, Placed (ofJson at_ value) := fun at_ => placed_ofJson at_ value
      unfold ofMembers
      dsimp only
      split
      · exact (value_placed _).bind fun inner => rest_placed _
      · split
        · split
          · exact rest_placed _
          · exact rest_placed _
          · exact (value_placed _).bind fun inner => rest_placed _
        · split
          · split
            next listed =>
              exact (placed_ofProperties _ listed).bind fun inner => rest_placed _
            next => exact placed_refuse.bind rest_placed
          · split
            · exact rest_placed _
            · exact placed_refuse.bind rest_placed

theorem placed_ofProperties (at_ : SchemaLocation) :
    (written : List (String × Json)) → Placed (ofProperties at_ written)
  | [] => by
      rw [ofProperties]
      exact placed_ok
  | (name, value) :: rest => by
      rw [ofProperties]
      refine (placed_ofJson (at_.member name) value).bind fun s => ?_
      exact (placed_ofProperties at_ rest).bind fun _ => placed_ok

end

mutual

theorem placed_checkReferences (at_ : SchemaLocation) :
    (s : Schema) → Placed (checkReferences definitions at_ s)
  | ⟨rules, items, properties, additional⟩ => by
      have members_placed : Placed (do
          checkPropertyReferences definitions (at_.member "properties") properties
          match additional with
          | .schema s => checkReferences definitions (at_.member "additionalProperties") s
          | .allowed | .forbidden => pure ()) := by
        refine (placed_checkPropertyReferences _ properties).bind fun _ => ?_
        match additional with
        | .schema s => exact placed_checkReferences _ s
        | .allowed | .forbidden => exact placed_pure
      have items_placed : ∀ s, items = some s →
          Placed (checkReferences definitions (at_.member "items") s) := by
        match items with
        | none => exact nofun
        | some s =>
            rintro _ ⟨⟩
            exact placed_checkReferences _ s
      have onward : Placed (do
          match items with
          | some s => checkReferences definitions (at_.member "items") s
          | none => pure ()
          checkPropertyReferences definitions (at_.member "properties") properties
          match additional with
          | .schema s => checkReferences definitions (at_.member "additionalProperties") s
          | .allowed | .forbidden => pure ()) := by
        dsimp only
        split
        next s => exact (items_placed s rfl).bind fun _ => members_placed
        next => exact members_placed
      unfold checkReferences
      dsimp only
      split
      · split
        · exact onward
        · exact placed_refuse.bind fun _ => onward
      · exact onward

theorem placed_checkPropertyReferences (at_ : SchemaLocation) :
    (properties : List (String × Schema)) →
    Placed (checkPropertyReferences definitions at_ properties)
  | [] => by
      rw [checkPropertyReferences]
      exact placed_ok
  | (name, s) :: rest => by
      rw [checkPropertyReferences]
      exact (placed_checkReferences (at_.member name) s).bind fun _ =>
        placed_checkPropertyReferences at_ rest

end

end Schema

theorem SchemaStore.placed_ofJson (tree : Json) : Schema.Placed (SchemaStore.ofJson tree) := by
  unfold SchemaStore.ofJson
  split
  next members =>
    dsimp only
    have onward : ∀ definitions, Schema.Placed (do
        let root ← Schema.ofMembers .root .any (Keyed.erase "$defs" members)
        Schema.checkReferences definitions .root root
        Schema.checkPropertyReferences definitions ["$defs"] definitions
        return (⟨root, definitions⟩ : SchemaStore)) := fun definitions =>
      (Schema.placed_ofMembers _ _ _).bind fun root =>
        (Schema.placed_checkReferences _ root).bind fun _ =>
          (Schema.placed_checkPropertyReferences _ definitions).bind fun _ => Schema.placed_pure
    split
    · exact onward []
    next written _ => exact (Schema.placed_ofProperties _ written).bind onward
    · exact Schema.placed_refuse.bind onward
  next => exact Schema.placed_refuse

end AgentManifest
