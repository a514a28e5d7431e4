import ProofOfExistence.Number.Decimal

/-! # Violations of a schema

A violation names the place in a piece of data and the rule that it breaks there.  Envelopes and
configurations are checked against schemas and answer with the violations in words, joined by
commas. -/

namespace ProofOfExistence

/-- The rules that data can break. -/
inductive SchemaRule where
  /-- The data must have that type. -/
  | type (name : String)
  /-- The object must have that member. -/
  | required (name : String)
  /-- The object may have no other members. -/
  | additional
  /-- The object must have one member when it has another. -/
  | dependency (needed present : String)
  /-- The data must be one fixed value. -/
  | constant
  /-- The data must be one of some fixed values. -/
  | allowedValues
  /-- The text must match a pattern. -/
  | pattern (expression : String)
  /-- The number must not be greater. -/
  | maximum (bound : Nat)
  /-- The number must not be less. -/
  | minimum (bound : Nat)
  /-- The text must have at least one character. -/
  | nonEmpty
  /-- Exactly one of several schemas must hold. -/
  | oneOf
deriving DecidableEq

/-- The wording of a rule. -/
def SchemaRule.text : SchemaRule → String
  | type name => "must be " ++ name
  | required name => "must have required property '" ++ name ++ "'"
  | additional => "must NOT have additional properties"
  | dependency needed present =>
    "must have property " ++ needed ++ " when property " ++ present ++ " is present"
  | constant => "must be equal to constant"
  | allowedValues => "must be equal to one of the allowed values"
  | pattern expression => "must match pattern \"" ++ expression ++ "\""
  | maximum bound => "must be <= " ++ toString bound
  | minimum bound => "must be >= " ++ toString bound
  | nonEmpty => "must NOT have fewer than 1 characters"
  | oneOf => "must match exactly one schema in oneOf"

/-- A broken rule and the path to where it is broken. -/
structure Violation where
  /-- The members that lead to the place, each behind a slash. -/
  path : String
  rule : SchemaRule
deriving DecidableEq

/-- The wording of a violation. -/
def Violation.text (v : Violation) : String := "data" ++ v.path ++ " " ++ v.rule.text

/-- The wording of several violations. -/
def Violation.listText (vs : List Violation) : String :=
  String.intercalate ", " (vs.map Violation.text)

end ProofOfExistence
