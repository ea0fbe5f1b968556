import Dunning.Text.DecimalDigit
import Dunning.Text.WordChar

/-!
# Document numbers in messages

An identity document is written plainly (`93388915`) or with dots (`93.388.915`). Two searches look
for one. `isMentioned` asks whether some plain number stands between word boundaries; `extract?`
takes the first number of either form and keeps its digits.
-/

namespace Dunning.Document

open Dunning.Text

/-- Whether a word boundary lies between the characters `before` and `after`, absent ones included.
-/
def isBoundary (before after : Option Char) : Bool :=
  before.any isWordChar != after.any isWordChar

/-- Takes exactly `n` decimal digits off the front. -/
def takeDigits? : Nat → List Char → Option (List Char × List Char)
  | 0, cs => some ([], cs)
  | n + 1, c :: cs =>
    if isDecimalDigit c then (takeDigits? n cs).map fun (ds, rest) => (c :: ds, rest) else none
  | _ + 1, [] => none

/-- Takes exactly `n` groups off the front, each a dot and three decimal digits. -/
def takeGroups? : Nat → List Char → Option (List Char × List Char)
  | 0, cs => some ([], cs)
  | n + 1, '.' :: cs => do
    let (ds, rest) ← takeDigits? 3 cs
    let (groups, rest) ← takeGroups? n rest
    some ('.' :: ds ++ groups, rest)
  | _ + 1, _ => none

/-- The written forms of a document number. -/
inductive Form where
  /-- A first group of so many digits, then so many groups of a dot and three digits. -/
  | dotted (first groups : Nat)
  /-- So many digits. -/
  | plain (digits : Nat)
deriving DecidableEq, Repr

/-- Takes a number of the given `Form` off the front. -/
def Form.take? : Form → List Char → Option (List Char × List Char)
  | dotted first groups, cs => do
    let (ds, rest) ← takeDigits? first cs
    let (gs, rest) ← takeGroups? groups rest
    some (ds ++ gs, rest)
  | plain digits, cs => takeDigits? digits cs

/-- The `plain` forms, longest first. -/
def plainForms : List Form :=
  [.plain 10, .plain 9, .plain 8, .plain 7]

/-- All forms, in the order in which they are tried at one place of a message. -/
def allForms : List Form :=
  [.dotted 3 3, .dotted 3 2, .dotted 2 3, .dotted 2 2, .dotted 1 3, .dotted 1 2] ++ plainForms

/-- The number of the first of `forms` that fits at the front and ends at a word boundary. -/
def takeAny? (forms : List Form) (cs : List Char) : Option (List Char) :=
  forms.findSome? fun form =>
    match form.take? cs with
    | some (number, rest) =>
      if isBoundary number.getLast? rest.head? then some number else none
    | none => none

/-- The first number of one of `forms` between word boundaries; `before` is the character that
stands before the text. -/
def find? (forms : List Form) (before : Option Char) : List Char → Option (List Char)
  | [] => none
  | c :: cs =>
    let here := if isBoundary before (some c) then takeAny? forms (c :: cs) else none
    here.or (find? forms (some c) cs)

/-- Whether `message` holds a plain number of seven to ten digits between word boundaries. -/
def isMentioned (message : String) : Bool :=
  (find? plainForms none message.toList).isSome

/-- The ASCII digits of the first number in `message`, as `find?` gives it, if there are seven to
ten of them. -/
def extract? (message : String) : Option String :=
  ((find? allForms none message.toList).map (·.filter Char.isDigit)).bind fun digits =>
    if 7 ≤ digits.length ∧ digits.length ≤ 10 then some (String.ofList digits) else none

end Dunning.Document
