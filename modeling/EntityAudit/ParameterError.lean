import EntityAudit.Context
import EntityAudit.Text.Quoted

namespace EntityAudit

inductive ParameterError where
  | missing (parameter : PropertyId)
  | notSingle (parameter : PropertyId)
  | valueless (parameter : PropertyId)
  | wrongKind (parameter : PropertyId) (expected : String)
  | notOneOf (parameter : PropertyId) (allowed : List ItemId)
  | rangesOfTwoKinds
  | invalidPattern (parameter : PropertyId) (pattern : String)
  | unsupportedScope (parameter : PropertyId) (role : Role)
  deriving DecidableEq

namespace ParameterError

def key : ParameterError → String
  | missing _ => "parameter-missing"
  | notSingle _ => "parameter-single"
  | valueless _ => "parameter-value"
  | wrongKind _ _ => "parameter-kind"
  | notOneOf _ _ => "parameter-one-of"
  | rangesOfTwoKinds => "range-parameters-one-kind"
  | invalidPattern _ _ => "parameter-regex"
  | unsupportedScope _ _ => "parameter-scope-unsupported"

def parameter? : ParameterError → Option PropertyId
  | missing p => some p
  | notSingle p => some p
  | valueless p => some p
  | wrongKind p _ => some p
  | notOneOf p _ => some p
  | rangesOfTwoKinds => none
  | invalidPattern p _ => some p
  | unsupportedScope p _ => some p

def message : ParameterError → String
  | missing p => "The constraint is missing the required parameter " ++ p.toString ++ "."
  | notSingle p => "The parameter " ++ p.toString ++ " must have exactly one value."
  | valueless p =>
    "The parameter " ++ p.toString ++ " needs a value, not \"some value\" or \"no value\"."
  | wrongKind p expected =>
    "The values of parameter " ++ p.toString ++ " must be of type " ++ expected ++ "."
  | notOneOf p allowed =>
    "The value of parameter " ++ p.toString ++ " must be one of: " ++
      ", ".intercalate (allowed.map (·.toString)) ++ "."
  | rangesOfTwoKinds => "A range constraint takes either quantity or date bounds, not both."
  | invalidPattern _ pattern =>
    "The format pattern " ++ Text.quoted pattern ++ " is not a valid regular expression"
  | unsupportedScope _ role =>
    "This constraint type cannot be checked in a " ++ role.name ++ "."

end ParameterError

end EntityAudit
