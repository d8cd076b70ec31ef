import RecordFilter.Json.Reader
import RecordFilter.Operator.Basic

/-!
# Errors

Only the form of criteria and expressions, references that lead nowhere and files
that cannot be read raise errors.  What goes wrong while a single criterion is
evaluated makes that criterion fail and nothing else.
-/

namespace RecordFilter

/-- A step to a member of a document. -/
inductive Step where
  | entry (position : Nat)
  | filter (position : Nat)
  | criterion (position : Nat)
  deriving DecidableEq, Repr

/-- What an error is about. -/
inductive Place where
  | document (steps : List Step)
  | typeField
  | reference (aliasName : String)
  deriving DecidableEq, Repr

namespace Step

def text : Step → String
  | .entry position => "[" ++ toString position ++ "]"
  | .filter position => ".filters[" ++ toString position ++ "]"
  | .criterion position => ".criteria[" ++ toString position ++ "]"

end Step

namespace Place

def root : Place := .document []

def text : Place → String
  | .document steps => "$" ++ String.join (steps.map Step.text)
  | .typeField => "type"
  | .reference aliasName => "alias " ++ aliasName

end Place

inductive Defect where
  | mismatch (mismatch : Mismatch)
  | notAnObject
  | notAnArray
  | badConnective (name : String)
  | unknownType (name : String)
  | customInDocument
  | customWithoutPredicate
  | customHasNoOperators
  | fixedInReference
  | missingType
  | missingOperator
  | missingAlias
  | referenceForDefinition (aliasName : String)

namespace Defect

def message : Defect → String
  | .mismatch m => m.message
  | .notAnObject => "expression must be an object"
  | .notAnArray => "aliases file must hold an array"
  | .badConnective name => "operator must be AND or OR, got '" ++ name ++ "'"
  | .unknownType name => "unknown type '" ++ name ++ "'"
  | .customInDocument => "CUSTOM criteria need a predicate and cannot be declared in JSON"
  | .customWithoutPredicate => "CUSTOM criteria require a predicate"
  | .customHasNoOperators => "CUSTOM criteria have no operators to override"
  | .fixedInReference => "alias references cannot override heavy or defaultValue"
  | .missingType => "missing type"
  | .missingOperator => "missing operator"
  | .missingAlias => "missing alias"
  | .referenceForDefinition aliasName =>
      "'" ++ aliasName ++ "' is an alias reference, a full definition needs type and operator"

end Defect

/-- Why a file cannot be read: the system refuses, or the bytes are not a text. -/
inductive FileFault where
  | system (text : String) (code : Nat)
  | notText
  deriving DecidableEq, Repr

namespace FileFault

def notFound : FileFault := .system "No such file or directory" 2

def notADirectory : FileFault := .system "Not a directory" 20

def isDirectory : FileFault := .system "Is a directory" 21

def message : FileFault → String
  | .system text code => text ++ " (os error " ++ toString code ++ ")"
  | .notText => "stream did not contain valid UTF-8"

end FileFault

inductive FilterError where
  | invalid (place : Place) (defect : Defect)
  | unknownOperator (type : CriterionType) (operator : String)
  | aliasNotFound (aliasName : String)
  | missingAlias
  | json (error : JsonError)
  | file (fault : FileFault)

namespace FilterError

def message : FilterError → String
  | .invalid place defect => "Invalid expression at " ++ place.text ++ ": " ++ defect.message
  | .unknownOperator type operator => "Unknown " ++ type.name ++ " operator: " ++ operator
  | .aliasNotFound aliasName => "Alias not found: " ++ aliasName
  | .missingAlias => "Cannot save a criterion without an alias"
  | .json error => "JSON error: " ++ error.message
  | .file fault => "IO error: " ++ fault.message

/-- The texts of the errors that lie behind an error. -/
def causes : FilterError → List String
  | .json error => [error.message]
  | .file fault => [fault.message]
  | _ => []

end FilterError
end RecordFilter
