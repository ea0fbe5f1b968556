import Dunning.Json.Reader

/-!
# Conversation numbers

A conversation is numbered by 32 hexadecimal digits. They are written in lower case and in groups of
8, 4, 4, 4 and 12; reading takes them in any case, grouped or not, and grouped ones also in braces
or after `urn:uuid:` in any case.
-/

namespace Dunning.ConversationId

/-- The lengths of the groups that `grouped` makes. -/
def groups : List Nat := [8, 4, 4, 4, 12]

/-- Cuts digits into groups of the given lengths with hyphens between them. -/
def grouped : List Nat → List Char → List Char
  | [], _ => []
  | [n], ds => ds.take n
  | n :: ns, ds => ds.take n ++ '-' :: grouped ns (ds.drop n)

/-- The number written by 32 `digits`, in lower case. -/
def ofDigits (digits : List Char) : String :=
  String.ofList (grouped groups (digits.map Char.toLower))

/-- Whether a text is 32 hexadecimal digits. -/
def isDigits (cs : List Char) : Bool :=
  cs.length = 32 && cs.all fun c => (Json.hexValue? c).isSome

/-- The digits of a text that is cut into `groups`. -/
def ungrouped? (cs : List Char) : Option (List Char) :=
  let digits := cs.filter (· ≠ '-')
  if isDigits digits && grouped groups digits == cs then some digits else none

/-- Reads a number from `s`, by `ungrouped?` or as it stands. -/
def ofText? (s : String) : Option String :=
  let cs := s.toList
  let urn := "urn:uuid:".toList
  let digits :=
    if isDigits cs then some cs
    else if cs.length = 38 ∧ cs.head? = some '\x7b' ∧ cs.getLast? = some '\x7d' then
      ungrouped? (cs.drop 1).dropLast
    else if urn.isPrefixOf (cs.map Char.toLower) then ungrouped? (cs.drop urn.length)
    else ungrouped? cs
  digits.map ofDigits

end Dunning.ConversationId
