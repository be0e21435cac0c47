import OAuthClient.Authority

/-!
# Issues

What is wrong with the fields of a record that was read: for each faulty field where it is, of what kind the fault is and what a
reader is told.
-/

namespace OAuthClient.Validation

/-- A step on the way to a field. -/
inductive Place where
  | field (name : String)
  | index (n : Nat)
  deriving DecidableEq, Repr

/-- What is wrong with a field. -/
inductive Problem where
  | notText
  | notUnicode
  | notList
  | notInteger
  | integerText
  | integerSize
  | integerFraction
  | notFinite
  | notMoment
  | momentText (reason : String)
  | momentRange (reason : String)
  | notNumber
  | numberText
  | notCloud
  /-- A rule of the field itself is broken, and in which words. -/
  | rule (words : String)
  deriving DecidableEq, Repr

/-- The code of a problem. -/
def Problem.code : Problem → String
  | .notText => "string_type"
  | .notUnicode => "string_unicode"
  | .notList => "list_type"
  | .notInteger => "int_type"
  | .integerText => "int_parsing"
  | .integerSize => "int_parsing_size"
  | .integerFraction => "int_from_float"
  | .notFinite => "finite_number"
  | .notMoment => "datetime_type"
  | .momentText _ => "datetime_from_date_parsing"
  | .momentRange _ => "datetime_parsing"
  | .notNumber => "float_type"
  | .numberText => "float_parsing"
  | .notCloud => "enum"
  | .rule _ => "value_error"

/-- The login hosts in quotes, the last one behind the word "or". -/
def cloudChoices : String :=
  let names := Cloud.all.map fun c => "'" ++ c.url ++ "'"
  ", ".intercalate names.dropLast ++ " or " ++ names.getLastD ""

/-- The words of a problem. -/
def Problem.message : Problem → String
  | .notText => "Input should be a valid string"
  | .notUnicode => "Input should be a valid string, unable to parse raw data as a unicode string"
  | .notList => "Input should be a valid list"
  | .notInteger => "Input should be a valid integer"
  | .integerText => "Input should be a valid integer, unable to parse string as an integer"
  | .integerSize => "Unable to parse input string as an integer, exceeded maximum size"
  | .integerFraction => "Input should be a valid integer, got a number with a fractional part"
  | .notFinite => "Input should be a finite number"
  | .notMoment => "Input should be a valid datetime"
  | .momentText reason => "Input should be a valid datetime or date, " ++ reason
  | .momentRange reason => "Input should be a valid datetime, " ++ reason
  | .notNumber => "Input should be a valid number"
  | .numberText => "Input should be a valid number, unable to parse string as a number"
  | .notCloud => "Input should be " ++ cloudChoices
  | .rule words => "Value error, " ++ words

/-- A problem with the place of the field that has it. -/
structure Issue where
  place : List Place
  problem : Problem
  deriving DecidableEq, Repr

/-- The issue of a record in which the name of a field is no text. -/
def Issue.ofName : Issue :=
  ⟨[], .notUnicode⟩

end OAuthClient.Validation
