import Dunning.Text.Lowercase

/-!
# Looking for phrases

Whether one of a list of phrases occurs in a text, capitals and small letters alike.
-/

namespace Dunning.Text

/-- Whether `part` occurs in a list of characters as consecutive elements. -/
def occursIn (part : List Char) : List Char → Bool
  | [] => part.isEmpty
  | c :: cs => part.isPrefixOf (c :: cs) || occursIn part cs

/-- Whether the lower case of `message` holds one of `phrases`. -/
def mentionsAny (message : String) (phrases : List String) : Bool :=
  let lowered := (lower message).toList
  phrases.any fun phrase => occursIn phrase.toList lowered

end Dunning.Text
