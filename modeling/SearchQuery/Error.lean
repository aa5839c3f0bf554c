import SearchQuery.Json.Printer
import SearchQuery.Operand

/-!
# Errors

What can go wrong, as causes; `Error.message` puts each into words.
-/

namespace SearchQuery

/-- Why an operand does not fit its field and operator. -/
inductive OperandFault where
  | unnamedField
  | boundCount
  | mismatch (operator : Operator) (operand : Operand)
  | sourceFields
  | anchorOutOfRange
  | badDistance
  deriving DecidableEq

def OperandFault.message : OperandFault → String
  | .unnamedField => "field name is empty"
  | .boundCount => "BETWEEN needs exactly two bounds"
  | .mismatch op operand => op.name ++ " cannot take operand " ++ operand.shown
  | .sourceFields => "geo source must name a latitude and a longitude attribute"
  | .anchorOutOfRange => "anchor point out of range"
  | .badDistance => "distance must be a non-negative number"

/-- Why a body cannot be taken for search results. -/
inductive PayloadFault where
  | notAnObject
  | notStructured (value : Json)
  | undecodable

def PayloadFault.message : PayloadFault → String
  | .notAnObject => "expected an object hits payload"
  | .notStructured v => "expected an object or array payload, got " ++ v.text
  | .undecodable => "the body does not have the form of search results"

inductive Error where
  | unsupportedOperator (sign : String)
  | invalidOperand (field : String) (fault : OperandFault)
  | facetsInRawMode
  | malformedPayload (fault : PayloadFault)
  | transport (reason : String)
  | relation (reason : String)

def Error.message : Error → String
  | .unsupportedOperator sign => "Unsupported operator [" ++ sign ++ "]"
  | .invalidOperand field fault => "Invalid operand for '" ++ field ++ "': " ++ fault.message
  | .facetsInRawMode => "Facets are not supported in raw query mode"
  | .malformedPayload fault => "Malformed search payload: " ++ fault.message
  | .transport reason => "Search transport error: " ++ reason
  | .relation reason => "Relation loading failed: " ++ reason

end SearchQuery
