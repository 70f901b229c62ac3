/-!
# Record.Issue — what is wrong with a record

A record that does not fit its schema is refused with a list of issues. An issue has a complaint and
the path, from the record inwards, of the value complained about. Each complaint has a fixed code.
-/

namespace Regenesis.Record

/-- A step from a value to one of its parts. -/
inductive Step where
  | member (name : String)
  | item (index : Nat)
deriving DecidableEq, Repr

/-- What is wrong with a value. -/
inductive Complaint where
  /-- The text is no JSON text that the reader accepts. -/
  | notJson
  /-- A record is not an object. -/
  | notRecord
  /-- A member that has no default is not there. -/
  | missing
  /-- A member that the schema does not know. -/
  | unknownMember
  /-- The value cannot be taken for an integer. -/
  | notInteger
  /-- A text that is not the notation of an integer. -/
  | badInteger
  /-- An integer with too many digits, or a double beyond 64 bits. -/
  | oversizeInteger
  /-- A double with a fraction. -/
  | fractional
  /-- A double that is infinite or not a number. -/
  | notFinite
  /-- A negative amount, height or counter. -/
  | negative
  /-- The value is not a text. -/
  | notText
  /-- The value cannot be taken for a boolean. -/
  | notBoolean
  /-- A number or text that is none of those which stand for a boolean. -/
  | badBoolean
  /-- The value is not a list. -/
  | notList
  /-- The value is not an object. -/
  | notObject
  /-- A text that is not a hex byte string. -/
  | notHex (text : String)
deriving DecidableEq, Repr

/-- The code of a complaint. -/
def Complaint.code : Complaint → String
  | .notJson => "json_invalid"
  | .notRecord => "model_type"
  | .missing => "missing"
  | .unknownMember => "extra_forbidden"
  | .notInteger => "int_type"
  | .badInteger => "int_parsing"
  | .oversizeInteger => "int_parsing_size"
  | .fractional => "int_from_float"
  | .notFinite => "finite_number"
  | .negative => "greater_than_equal"
  | .notText => "string_type"
  | .notBoolean => "bool_type"
  | .badBoolean => "bool_parsing"
  | .notList => "list_type"
  | .notObject => "dict_type"
  | .notHex _ => "value_error"

/-- A complaint about a part of a record. -/
structure Issue where
  complaint : Complaint
  path : List Step
deriving DecidableEq, Repr

/-- The headline of a list of issues. -/
def headline (schema : String) (issues : List Issue) : String :=
  let count := issues.length
  s!"{count} validation error" ++ (if count == 1 then "" else "s") ++ s!" for {schema}"

end Regenesis.Record
