/-! Places inside a value tree, as the steps that lead there from the root. The text of a path joins
fields with dots and puts indices in brackets, as in `tools[0].name`; the root is `$`. -/

namespace AgentManifest

inductive PathStep where
  | field (name : String)
  | index (position : Nat)
  deriving DecidableEq, Repr

abbrev FieldPath := List PathStep

namespace FieldPath

def root : FieldPath := []

def isRoot (p : FieldPath) : Bool := p.isEmpty

def field (p : FieldPath) (name : String) : FieldPath := p ++ [.field name]

def index (p : FieldPath) (position : Nat) : FieldPath := p ++ [.index position]

def parent (p : FieldPath) : FieldPath := p.dropLast

def under (p lead : FieldPath) : FieldPath := lead ++ p

def stepText : PathStep → String
  | .field name => "." ++ name
  | .index position => s!"[{position}]"

def firstText : PathStep → String
  | .field name => name
  | .index position => s!"[{position}]"

def text : FieldPath → String
  | [] => "$"
  | step :: steps => firstText step ++ String.join (steps.map stepText)

end FieldPath
end AgentManifest
