import AgentManifest.Text.Split

/-! Sentences that end in a place, such as `at line 3 column 1` or `at position 12`. Where the place
is told apart from the sentence, `withoutLocation` takes the sentence alone. -/

namespace AgentManifest.Document

def isNumeric (word : List Char) : Bool := word ≠ [] && word.all Char.isDigit

/-- The words of a sentence in front of the place it ends in, all in reverse order. There has to be
a word, though it may be empty, before the place. -/
def beforeLocation? : List (List Char) → Option (List (List Char))
  | c :: ['c', 'o', 'l', 'u', 'm', 'n'] :: l :: ['l', 'i', 'n', 'e'] :: ['a', 't'] :: w :: before =>
    if isNumeric l && isNumeric c then some (w :: before) else none
  | p :: ['p', 'o', 's', 'i', 't', 'i', 'o', 'n'] :: ['a', 't'] :: w :: before =>
    if isNumeric p then some (w :: before) else none
  | _ => none

/-- A sentence without the place it ends in, of which at most one is dropped. -/
def withoutLocation (sentence : String) : String :=
  match beforeLocation? (Text.splitAt ' ' sentence.toList).reverse with
  | some before => String.ofList (Text.joinWith ' ' before.reverse)
  | none => sentence

end AgentManifest.Document
