import Dunning.Json.Basic

/-!
# JSON text

The compact form, with no blanks at all, and the indented form with one member a line. Inside a
string only the quotation mark, the backslash and the control characters are escaped.
-/

namespace Dunning.Json

/-- A digit of a character escape. -/
def hexDigit (n : Nat) : Char :=
  Nat.digitChar n

/-- The character `c` inside a quoted string. -/
def escapeChar (c : Char) : List Char :=
  if c = '"' then ['\\', '"']
  else if c = '\\' then ['\\', '\\']
  else if c = '\n' then ['\\', 'n']
  else if c = '\r' then ['\\', 'r']
  else if c = '\t' then ['\\', 't']
  else if c.toNat = 8 then ['\\', 'b']
  else if c.toNat = 12 then ['\\', 'f']
  else if c.toNat < 32 then
    ['\\', 'u', '0', '0', hexDigit (c.toNat / 16), hexDigit (c.toNat % 16)]
  else [c]

/-- A quoted string, each character by `escapeChar`. -/
def quoted (s : String) : List Char :=
  '"' :: (s.toList.flatMap escapeChar ++ ['"'])

mutual

/-- The compact characters of a value. -/
def compactList : Json → List Char
  | null => ['n', 'u', 'l', 'l']
  | bool true => ['t', 'r', 'u', 'e']
  | bool false => ['f', 'a', 'l', 's', 'e']
  | num n => n.textList
  | str s => quoted s
  | arr [] => ['[', ']']
  | arr (item :: items) => '[' :: (compactList item ++ compactItems items)
  | obj [] => ['\x7b', '\x7d']
  | obj ((name, value) :: members) =>
    '\x7b' :: (quoted name ++ ':' :: (compactList value ++ compactMembers members))

/-- The rest of an array after `compactList` of its first item: every further item after a comma,
then the bracket. -/
def compactItems : List Json → List Char
  | [] => [']']
  | item :: items => ',' :: (compactList item ++ compactItems items)

/-- The rest of an object after its first member: every further member after a comma, then the
brace. -/
def compactMembers : List (String × Json) → List Char
  | [] => ['\x7d']
  | (name, value) :: members =>
    ',' :: (quoted name ++ ':' :: (compactList value ++ compactMembers members))

end

/-- The compact text of a value, its `compactList`. -/
def compact (value : Json) : String :=
  String.ofList (compactList value)

/-- A line break and the indentation of the nesting level `level`. -/
def newline (level : Nat) : List Char :=
  '\n' :: List.replicate (2 * level) ' '

mutual

/-- The indented characters of a value at the nesting level `level`. -/
def indentedList (level : Nat) : Json → List Char
  | arr (item :: items) =>
    '[' :: (newline (level + 1) ++ indentedList (level + 1) item ++ indentedItems level items)
  | obj ((name, value) :: members) =>
    '\x7b' :: (newline (level + 1) ++ quoted name ++ ':' :: ' '
      :: (indentedList (level + 1) value ++ indentedMembers level members))
  | arr [] => ['[', ']']
  | obj [] => ['\x7b', '\x7d']
  | null => compactList null
  | bool b => compactList (bool b)
  | num n => compactList (num n)
  | str s => compactList (str s)

/-- The rest of an indented array, as `compactItems` is of a compact one. -/
def indentedItems (level : Nat) : List Json → List Char
  | [] => newline level ++ [']']
  | item :: items =>
    ',' :: (newline (level + 1) ++ indentedList (level + 1) item ++ indentedItems level items)

/-- The rest of an indented object, as `compactMembers` is of a compact one. -/
def indentedMembers (level : Nat) : List (String × Json) → List Char
  | [] => newline level ++ ['\x7d']
  | (name, value) :: members =>
    ',' :: (newline (level + 1) ++ quoted name ++ ':' :: ' '
      :: (indentedList (level + 1) value ++ indentedMembers level members))

end

/-- The indented text of a value, its `indentedList` at the outermost level; members keep their
order. -/
def indented (value : Json) : String :=
  String.ofList (indentedList 0 value)

end Dunning.Json
