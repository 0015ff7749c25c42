/-!
# Issues

What is wrong with one place of a loosely typed description.  A description is
checked as a whole, and all its issues are reported together, in the order of
their texts.
-/

namespace SqlAccess

/-- What is wrong with a place. -/
inductive IssueKind where
  /-- A required field is absent. -/
  | missing
  /-- A field that the description does not have. -/
  | unknownField
  /-- No object where one is expected. -/
  | notObject
  /-- No text where one is expected. -/
  | notText
  /-- Bytes that encode no text. -/
  | notUnicode
  /-- Nothing that could be a truth value. -/
  | notFlag
  /-- A text or number that names no truth value. -/
  | unreadableFlag
  /-- Nothing that could be an integer. -/
  | notInteger
  /-- A text that is no integer numeral. -/
  | unreadableInteger
  /-- An integer in a form that is too large to be read. -/
  | oversizeInteger
  /-- A number with a fraction where an integer is expected. -/
  | fractional
  /-- A number that is not finite where an integer is expected. -/
  | notFinite
  /-- A number below the bound of its field. -/
  | belowBound
  /-- Nothing that could be a number. -/
  | notNumber
  /-- A text that is no numeral. -/
  | unreadableNumber
  /-- No path where one is expected. -/
  | notPath
  /-- None of the words that a field allows. -/
  | notAllowed
  /-- No list where one is expected. -/
  | notList
  deriving DecidableEq, Repr

/-- The word for a kind of issue. -/
def IssueKind.label : IssueKind → String
  | missing => "missing"
  | unknownField => "extra_forbidden"
  | notObject => "model_type"
  | notText => "string_type"
  | notUnicode => "string_unicode"
  | notFlag => "bool_type"
  | unreadableFlag => "bool_parsing"
  | notInteger => "int_type"
  | unreadableInteger => "int_parsing"
  | oversizeInteger => "int_parsing_size"
  | fractional => "int_from_float"
  | notFinite => "finite_number"
  | belowBound => "greater_than_equal"
  | notNumber => "float_type"
  | unreadableNumber => "float_parsing"
  | notPath => "path_type"
  | notAllowed => "literal_error"
  | notList => "tuple_type"

/-- One issue and the place it concerns. -/
structure Issue where
  /-- The way to the place: field names and list positions, outermost first. -/
  path : List String
  kind : IssueKind
  deriving DecidableEq, Repr

/-- The text of an issue. -/
def Issue.render (issue : Issue) : String :=
  ".".intercalate issue.path ++ ":" ++ issue.kind.label

/-- The report on a list of issues, in the order of the texts. -/
def Issue.report (issues : List Issue) : List String :=
  (issues.map Issue.render).mergeSort fun x y => !decide (y < x)

example : Issue.render ⟨["joins", "0", "on"], .missing⟩ = "joins.0.on:missing" := by decide +kernel

end SqlAccess
