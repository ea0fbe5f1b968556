import Dunning.Text.Blank

/-!
# Condition expressions

An expression combines predicate names by `or`, `and` and a `not` before a name; `not` binds
tightest and `or` loosest. There are no parentheses, so a well-formed expression is a list of
alternatives, each a list of terms, each a name under some number of negations.
-/

namespace Dunning.Condition

/-- A predicate name under some number of negations. -/
structure Term where
  negations : Nat
  name : String
deriving DecidableEq, Repr

/-- A well-formed expression: some alternative has to hold, and all of its terms with it. -/
structure Expr where
  alternatives : List (List Term)
deriving DecidableEq, Repr

/-- Reads a term: any number of `not`, then exactly one name. -/
def Term.ofTokens? : List String → Option Term
  | [] => none
  | token :: rest =>
    if token = "not" then
      (Term.ofTokens? rest).map fun t => { t with negations := t.negations + 1 }
    else if rest.isEmpty then some ⟨0, token⟩
    else none

/-- Splits a list of tokens at each occurrence of `connective`. -/
def splitAt (connective : String) : List String → List (List String)
  | [] => [[]]
  | token :: rest =>
    if token = connective then [] :: splitAt connective rest
    else
      match splitAt connective rest with
      | [] => [[token]]
      | group :: groups => (token :: group) :: groups

/-- Reads an expression from its tokens: alternatives between `or`, terms between `and`. -/
def Expr.ofTokens? (tokens : List String) : Option Expr :=
  ((splitAt "or" tokens).mapM fun group => (splitAt "and" group).mapM Term.ofTokens?).map Expr.mk

/-- Reads an expression; `none` when it is malformed. -/
def Expr.ofText? (text : String) : Option Expr :=
  Expr.ofTokens? (Text.words text)

/-- The predicate names that occur in the expression `e`, in order. -/
def Expr.names (e : Expr) : List String :=
  e.alternatives.flatMap fun terms => terms.map Term.name

/-- The value of a term when its name has the value that `value` gives. -/
def Term.eval (value : String → Bool) (t : Term) : Bool :=
  if t.negations % 2 = 0 then value t.name else !value t.name

/-- The value of an expression when names have the values that `value` gives. -/
def Expr.eval (value : String → Bool) (e : Expr) : Bool :=
  e.alternatives.any fun terms => terms.all (Term.eval value)

end Dunning.Condition
