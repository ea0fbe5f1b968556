import Dunning.Toml.Scalar

/-!
# TOML documents

A document gives the entries of a table. Headers open tables and rows of tables, and names may be
paths of names. Nothing may be said twice: a table is opened once only, a path may only add to
tables that paths have made, and a table in braces is closed for good.
-/

namespace Dunning.Toml

/-- A part of a document while it is read. -/
inductive Part where
  /-- A value, to which nothing can be added. -/
  | value (v : Setting)
  /-- A table: whether no header has opened it yet, and whether a path of names has made it. -/
  | table (unopened byPath : Bool) (entries : List (String × Part))
  /-- Rows of tables, of which the last one is open. -/
  | rows (earlier : List Setting) (last : List (String × Part))

namespace Part

mutual

/-- The setting that a `Part` gives. -/
def setting : Part → Setting
  | value v => v
  | table _ _ entries => .table (Fields.ofList (settings entries))
  | rows earlier last => .list (earlier ++ [.table (Fields.ofList (settings last))])

/-- The settings that the entries of a table give, each by `setting`. -/
def settings : List (String × Part) → List (String × Setting)
  | [] => []
  | (name, part) :: rest => (name, setting part) :: settings rest

end

/-- The entries of a table. -/
abbrev Entries := List (String × Part)

/-- Changes the entry of `name`, or adds one; fails where `change` does. -/
def alter (change : Option Part → Option Part) (name : String) : Entries → Option Entries
  | [] => (change none).map fun part => [(name, part)]
  | (k, part) :: rest =>
    if k = name then (change (some part)).map fun part => (k, part) :: rest
    else (alter change name rest).map ((k, part) :: ·)

/-- Changes what is at the end of a path of headers by `alter`; tables on the way are made. -/
def atHeader (change : Option Part → Option Part) : List String → Entries → Option Entries
  | [], _ => none
  | [name], entries => alter change name entries
  | name :: rest, entries =>
    alter (fun part =>
      match part with
      | none => (atHeader change rest []).map (table true false)
      | some (table unopened byPath inner) =>
        (atHeader change rest inner).map (table unopened byPath)
      | some (rows earlier last) => (atHeader change rest last).map (rows earlier)
      | some (value _) => none) name entries

/-- Opens a table, unless it is open already. -/
def openTable : Option Part → Option Part
  | none => some (table false false [])
  | some (table true false entries) => some (table false false entries)
  | some _ => none

/-- Opens a new row after those of `rows`. -/
def openRow : Option Part → Option Part
  | none => some (rows [] [])
  | some (rows earlier last) => some (rows (earlier ++ [.table (Fields.ofList (settings last))]) [])
  | some _ => none

/-- Adds `v` under a path of names; tables on the way are made. `byPath` tells whether a path has
led to these entries, and `made` whether a path has made their table. -/
def add (v : Setting) (byPath made : Bool) : List String → Entries → Option Entries
  | [], _ => none
  | [name], entries =>
    if byPath && !made then none
    else alter (fun part => if part.isNone then some (value v) else none) name entries
  | name :: rest, entries =>
    alter (fun part =>
      match part with
      | none => (add v true true rest []).map (table true true)
      | some (table true made inner) => (add v true made rest inner).map (table true made)
      | some (rows earlier last) => (add v true false rest last).map (rows earlier)
      | some _ => none) name entries

/-- Adds `v` under `path` inside the table that `header` has opened. -/
def addUnder (header path : List String) (v : Setting) (entries : Entries) : Option Entries :=
  if header.isEmpty then add v false false path entries
  else
    atHeader (fun part =>
      match part with
      | some (table unopened byPath inner) =>
        (add v false false path inner).map (table unopened byPath)
      | some (rows earlier last) => (add v false false path last).map (rows earlier)
      | _ => none) header entries

end Part

/-! ## Reading -/

/-- Reads a name: a word of letters, digits, underscores and hyphens, or a text in quotes. -/
def name? (cs : List Char) : Option (String × List Char) :=
  let word := cs.takeWhile fun c => c.isAlphanum || c = '_' || c = '-'
  if !word.isEmpty then some (String.ofList word, cs.drop word.length)
  else
    match cs with
    | '"' :: rest =>
      (lineText? '"' (rest.length + 1) rest).map fun (t, rest) => (String.ofList t, rest)
    | '\'' :: rest =>
      (lineText? '\'' (rest.length + 1) rest).map fun (t, rest) => (String.ofList t, rest)
    | _ => none

/-- Reads names, each by `name?`, with points between them. -/
def names? : Nat → List Char → Option (List String × List Char)
  | 0, _ => none
  | fuel + 1, cs => do
    let (name, rest) ← name? (skipBlanks cs)
    match skipBlanks rest with
    | '.' :: rest => (names? fuel rest).map fun (names, rest) => (name :: names, rest)
    | rest => some ([name], rest)

/-- How deep lists and tables may be nested, and how many names a path may have. -/
def maxDepth : Nat := 79

/-- Reads a path of at most `maxDepth` names. -/
def path? (cs : List Char) : Option (List String × List Char) :=
  (names? (cs.length + 1) cs).filter fun (names, _) => names.length ≤ maxDepth

mutual

/-- Reads a value that is nested at most `depth` levels deep. -/
def value? : (depth : Nat) → Nat → List Char → Option (Setting × List Char)
  | _, 0, _ => none
  | depth, fuel + 1, cs =>
    match cs, depth with
    | '[' :: rest, depth + 1 =>
      (items? depth fuel rest).map fun (items, rest) => (.list items, rest)
    | '\x7b' :: rest, depth + 1 =>
      match skipBlanks rest with
      | '\x7d' :: rest => some (.table [], rest)
      | rest =>
        (members? depth fuel [] rest).map fun (entries, rest) =>
          (.table (Fields.ofList (Part.settings entries)), rest)
    | _, _ =>
      if cs.head?.any fun c => c = '"' || c = '\'' then
        (text? cs).map fun (t, rest) => (.text (String.ofList t), rest)
      else
        let (word, rest) := takeWord cs
        (word? word).map (·, rest)

/-- Reads the items of a list up to its bracket; there may be a comma after the last one. -/
def items? : (depth : Nat) → Nat → List Char → Option (List Setting × List Char)
  | _, 0, _ => none
  | depth, fuel + 1, cs => do
    let cs ← skipLines? (cs.length + 1) cs
    match cs with
    | ']' :: rest => some ([], rest)
    | _ =>
      let (item, rest) ← value? depth fuel cs
      match ← skipLines? (rest.length + 1) rest with
      | ']' :: rest => some ([item], rest)
      | ',' :: rest => (items? depth fuel rest).map fun (items, rest) => (item :: items, rest)
      | _ => none

/-- Reads the entries of a table in braces, all on one line. -/
def members? :
    (depth : Nat) → Nat → Part.Entries → List Char → Option (Part.Entries × List Char)
  | _, 0, _, _ => none
  | depth, fuel + 1, entries, cs => do
    let (path, v, rest) ← member? depth fuel cs
    let entries ← Part.add v false false path entries
    match skipBlanks rest with
    | '\x7d' :: rest => some (entries, rest)
    | ',' :: rest => members? depth fuel entries rest
    | _ => none

/-- Reads a path of names by `path?`, and a value. -/
def member? : (depth : Nat) → Nat → List Char → Option (List String × Setting × List Char)
  | _, 0, _ => none
  | depth, fuel + 1, cs => do
    let (path, rest) ← path? cs
    match rest with
    | '=' :: rest => (value? depth fuel (skipBlanks rest)).map fun (v, rest) => (path, v, rest)
    | _ => none

end

/-- Reads a header: its path, and whether it opens a row. -/
def header? : List Char → Option (List String × Bool × List Char)
  | '[' :: '[' :: rest => do
    match ← path? rest with
    | (path, ']' :: ']' :: rest) => some (path, true, rest)
    | _ => none
  | '[' :: rest => do
    match ← path? rest with
    | (path, ']' :: rest) => some (path, false, rest)
    | _ => none
  | _ => none

/-- Reads the lines of a document after `header`, which is open. -/
def lines? : Nat → List String → Part.Entries → List Char → Option Part.Entries
  | 0, _, _, _ => none
  | fuel + 1, header, entries, cs => do
    match ← skipLines? (cs.length + 1) cs with
    | [] => some entries
    | '[' :: rest =>
      let (path, isRow, rest) ← header? ('[' :: rest)
      let change := if isRow then Part.openRow else Part.openTable
      let entries ← Part.atHeader change path entries
      let rest ← skipComment? rest
      if rest.isEmpty || (lineBreak? rest).isSome then lines? fuel path entries rest else none
    | cs =>
      let (path, v, rest) ← member? maxDepth (cs.length + 1) cs
      let entries ← Part.addUnder header path v entries
      let rest ← skipComment? rest
      if rest.isEmpty || (lineBreak? rest).isSome then lines? fuel header entries rest else none

/-- The entries that a text gives, by `lines?`. A byte order mark at its beginning is dropped. -/
def read? (s : String) : Option (Fields Setting) :=
  let cs :=
    match s.toList with
    | '\ufeff' :: rest => rest
    | cs => cs
  (lines? (cs.length + 1) [] [] cs).map fun entries => Fields.ofList (Part.settings entries)

end Dunning.Toml
