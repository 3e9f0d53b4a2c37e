import FieldQuery.Value.Text

/-!
# Failures

Why an operation gives no result. The library's own refusals are complaints: a message with details,
in a small hierarchy of categories. Checked data fails with a list of issues, each with its place.
The remaining failures are those of values that an operation cannot work with.
-/

namespace FieldQuery

/-- The hierarchy of the library's own refusals. -/
inductive Category where
  | any
  | structural
  | missingField
  | invalidField
  | configuration
  | invalidConfiguration
deriving DecidableEq

namespace Category

def all : List Category :=
  [any, structural, missingField, invalidField, configuration, invalidConfiguration]

def name : Category → String
  | any => "ConstraintKitError"
  | structural => "ValidationError"
  | missingField => "MissingFieldError"
  | invalidField => "InvalidFieldError"
  | configuration => "ConfigurationError"
  | invalidConfiguration => "InvalidConfigError"

/-- The category and those above it, the most special first. -/
def lineage : Category → List Category
  | any => [any]
  | structural => [structural, any]
  | missingField => [missingField, structural, any]
  | invalidField => [invalidField, structural, any]
  | configuration => [configuration, any]
  | invalidConfiguration => [invalidConfiguration, configuration, any]

def named? (s : String) : Option Category := all.find? fun c => c.name == s

end Category

/-- A message with named details. -/
structure Complaint where
  category : Category
  message : String
  details : List (String × Value)

namespace Complaint

/-- The message, with the details in parentheses; without a message the details alone. -/
def text (c : Complaint) : String :=
  let details := ", ".intercalate (Value.inspectFields c.details)
  if c.details.isEmpty then c.message
  else if c.message = "" then details
  else c.message ++ " (" ++ details ++ ")"

def inspect (c : Complaint) : String :=
  Text.call c.category.name
    ["message=" ++ Text.quoted c.message, "details=" ++ (Value.object c.details).inspect]

end Complaint

/-- The complaint that the named details give: a repeated name keeps its first place and takes its
last value. The names of the two things that every complaint already has are refused. -/
def Complaint.make? (category : Category) (message : String) (details : List (String × Value)) :
    Option Complaint :=
  if details.any fun d => d.1 == "message" || d.1 == "self" then none
  else
    let put (ds : List (String × Value)) (d : String × Value) : List (String × Value) :=
      if ds.any (·.1 == d.1) then ds.map fun e => if e.1 == d.1 then d else e else ds ++ [d]
    some ⟨category, message, details.foldl put []⟩

/-- What is wrong with one piece of checked data. -/
inductive Fault where
  | missing
  | notText
  | notUnicode
  | notBool
  | unreadableBool
  | otherThanLiteral
  | notInFamily
  | tagNotFound
  | tagInvalid
  | notRecord
  | notAttributes
  | notDict
  | badJson
  | frozen
deriving DecidableEq

namespace Fault

def name : Fault → String
  | missing => "missing"
  | notText => "string_type"
  | notUnicode => "string_unicode"
  | notBool => "bool_type"
  | unreadableBool => "bool_parsing"
  | otherThanLiteral => "literal_error"
  | notInFamily => "enum"
  | tagNotFound => "union_tag_not_found"
  | tagInvalid => "union_tag_invalid"
  | notRecord => "model_type"
  | notAttributes => "model_attributes_type"
  | notDict => "dict_type"
  | badJson => "json_invalid"
  | frozen => "frozen_instance"

end Fault

/-- A fault and where it was found. -/
structure Issue where
  place : List String
  fault : Fault
deriving DecidableEq

inductive Failure (texts : Texts := .unicode) where
  /-- A constraint was given the empty field name. -/
  | emptyField (variant : String)
  /-- A node uses an operator that the backend cannot express. -/
  | unsupportedOperator (field operator : Value texts) (supported : List String)
  /-- The configured time zone is none of the known ones. -/
  | unknownZone (name : String)
  /-- The zone of a date-time is none of the known ones. -/
  | noSuchZone
  /-- A name of a zone stands for a group of zones. -/
  | zoneGroup
  /-- A name of a zone is longer than any name of a file may be. -/
  | zoneNameTooLong
  /-- The configured identity field is no text, so that no artifact can have it for its field. -/
  | idFieldNotText
  /-- What should be compiled is neither an artifact nor a dict. -/
  | notANode (kind : String)
  /-- Checked data has faults. -/
  | invalid (issues : List Issue)
  /-- A value of a kind that the operation does not work on. -/
  | unfit
  /-- A part or an operation that the value does not have. -/
  | lacking
  /-- A name to which nothing is bound. -/
  | unbound
  /-- A value of the right kind that the operation refuses. -/
  | refused
  /-- A text that is no decimal number. -/
  | notDecimal
  /-- A comparison of a signaling decimal with another number, or a place in an order for a decimal
  that is no number. -/
  | signaling
  /-- A fraction with the denominator zero. -/
  | zeroDenominator
  /-- An instant or a local time outside the years 1 to 9999, or a number beyond what a form of
  number can hold. -/
  | outOfRange
  /-- A value that has no form in written data. -/
  | unwritable
  /-- A thing that is a part of itself, so that it has no end when it is written out. -/
  | endless
  /-- A text of a size that cannot be made. -/
  | tooLarge

namespace Failure

/-- The complaint that a failure is reported as, if it is one of the library's own. -/
def complaint? : Failure → Option Complaint
  | emptyField variant =>
    some ⟨.missingField, "Field name must not be empty",
      [("field", .str ""), ("operation", .str variant)]⟩
  | unsupportedOperator field operator supported =>
    some ⟨.invalidField,
      "Operator " ++ operator.display ++ " is not supported. Supported: " ++
        ", ".intercalate supported,
      [("field", field), ("operation", .str "compile")]⟩
  | unknownZone name =>
    some ⟨.invalidConfiguration, "Unknown time zone",
      [("config_key", .str "TIME_ZONE"), ("value", .str name)]⟩
  | _ => none

/-- The message of a failure that has one. -/
def message? (f : Failure) : Option String :=
  match f with
  | notANode kind => some ("where parameter must be an artifact or dict, got " ++ kind)
  | f => f.complaint?.map Complaint.text

/-- A single fault at a place. -/
def fault (place : List String) (f : Fault) : Failure := invalid [⟨place, f⟩]

/-- The issues that a failure is reported with, if it is one of checked data. -/
def issues? : Failure → Option (List Issue)
  | invalid issues => some issues
  | idFieldNotText => some [⟨["field"], .notText⟩]
  | _ => none

end Failure

end FieldQuery
