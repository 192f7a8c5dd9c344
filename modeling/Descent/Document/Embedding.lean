import Descent.Document.Grammar

/-!
# Documents inside other grammars

A grammar of named rules in which whole documents may be used as rules. Its names are the labels of
the named rules and, for every choice of limits, the values of documents within those limits.
-/

namespace Descent.Document

/-- A name of a grammar that uses documents. -/
inductive EmbeddingName where
  /-- A rule of the grammar itself. -/
  | named (label : Text)
  /-- The values of documents within limits. -/
  | value (limits : Limits)
  deriving DecidableEq, Repr

/-- Documents within limits, as a rule. -/
def embedded (limits : Limits) : Rule EmbeddingName := document (.reference (.value limits))

/-- The grammar of the given rules; of two rules with one label the last counts. -/
def embedding (rules : List (Text × Rule EmbeddingName)) : Grammar EmbeddingName
  | .named label => rules.reverse.lookup label
  | .value limits => some (value limits (.reference (.value limits)))

/-- A budget for grammars whose recursion is not known beforehand. -/
def generousBudget : Budget where
  unfoldings := 100000
  laps := 1000000000

end Descent.Document
