import Dunning.Text.Ranges

/-!
# Blanks

The characters with the property `White_Space`. Every trimming and every splitting into words uses
this class; it is wider than `Char.isWhitespace`.
-/

namespace Dunning.Text

/-- The code points with the property `White_Space`, ascending. -/
def blankRanges : Ranges :=
  [(0x9, 0xD), (0x20, 0x20), (0x85, 0x85), (0xA0, 0xA0), (0x1680, 0x1680), (0x2000, 0x200A),
    (0x2028, 0x2029), (0x202F, 0x202F), (0x205F, 0x205F), (0x3000, 0x3000)]

/-- Whether `c` is white space. -/
def isBlank (c : Char) : Bool :=
  blankRanges.contains c

/-- The characters of a text without the blanks at its two ends. -/
def trimList (cs : List Char) : List Char :=
  ((cs.dropWhile isBlank).reverse.dropWhile isBlank).reverse

/-- A text without the blanks at its two ends, by `trimList`. -/
def trim (s : String) : String :=
  String.ofList (trimList s.toList)

/-- The maximal runs of characters that are not `isBlank`. -/
def wordsList (cs : List Char) : List (List Char) :=
  (cs.splitOnP isBlank).filter (· ≠ [])

/-- The words of a text, its `wordsList`. -/
def words (s : String) : List String :=
  (wordsList s.toList).map String.ofList

end Dunning.Text
