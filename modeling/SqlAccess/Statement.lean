import SqlAccess.Value

/-!
# Statements

A statement is SQL text with positional placeholders and the values for them.
Values travel beside the text and are never written into it.
-/

namespace SqlAccess

/-- A statement with its parameters, in the order of the placeholders. -/
structure Statement where
  sql : String
  params : List Value := []
  deriving Repr

namespace Statement

/-- The number of question marks outside single-quoted literals, where
`inLiteral` tells whether the characters start inside of one.  Every single
quote opens or closes a literal, so a doubled one leaves the literal open. -/
def placeholdersFrom (inLiteral : Bool) : List Char → Nat
  | [] => 0
  | c :: rest =>
    if c = '\'' then placeholdersFrom (!inLiteral) rest
    else if c = '?' ∧ inLiteral = false then placeholdersFrom inLiteral rest + 1
    else placeholdersFrom inLiteral rest

/-- The number of placeholders of a statement. -/
def placeholderCount (statement : Statement) : Nat :=
  placeholdersFrom false statement.sql.toList

example : placeholderCount ⟨"'it''s ?' ?", []⟩ = 1 := by decide

end Statement

end SqlAccess
