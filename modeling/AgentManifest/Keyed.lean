/-! Finite maps from names, as lists in the order of the names. Names are ordered by code point,
which is the order of their UTF-8 bytes. `insert` keeps that order, so a map built with it lists its
entries in ascending order and holds each name once. -/

namespace AgentManifest

abbrev Keyed (α : Type) := List (String × α)

namespace Keyed

def insert {α : Type} (key : String) (value : α) : Keyed α → Keyed α
  | [] => [(key, value)]
  | (k, v) :: rest =>
    if key < k then (key, value) :: (k, v) :: rest
    else if key = k then (key, value) :: rest
    else (k, v) :: insert key value rest

def get? {α : Type} (key : String) (entries : Keyed α) : Option α := entries.lookup key

def contains {α : Type} (key : String) (entries : Keyed α) : Bool := (get? key entries).isSome

def erase {α : Type} (key : String) (entries : Keyed α) : Keyed α :=
  entries.filter (fun e => e.1 != key)

/-- The entries in order; of those with one name the last is kept. -/
def ofList {α : Type} (entries : List (String × α)) : Keyed α :=
  entries.foldl (fun acc e => insert e.1 e.2 acc) []

def keys {α : Type} (entries : Keyed α) : List String := entries.map (·.1)

end Keyed
end AgentManifest
