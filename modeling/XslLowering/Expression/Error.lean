/-!
# Errors of expressions
-/

namespace XslLowering.Expression

/-- What can be wrong with a call that is to be replaced. -/
inductive CallFault where
  | takesNoArguments
  | invalidGroupId (id : String)
  /-- The replacement left the reading position at or before the call. -/
  | notConsumed
  | refused (reason : String)
deriving DecidableEq

def CallFault.message : CallFault → String
  | .takesNoArguments => "takes no arguments"
  | .invalidGroupId id => s!"group-id '{id}' is not a valid name"
  | .notConsumed => "replacement did not consume the call"
  | .refused reason => reason

/-- Every error carries the expression that it is about; offsets count bytes. -/
inductive Error where
  | unterminatedLiteral (expression : String) (offset : Nat)
  | unbalancedBracket (expression : String) (delimiter : Char) (offset : Nat)
  | invalidCall (callee : String) (expression : String) (fault : CallFault)
deriving DecidableEq

def Error.expression : Error → String
  | .unterminatedLiteral e _ => e
  | .unbalancedBracket e _ _ => e
  | .invalidCall _ e _ => e

def Error.message : Error → String
  | .unterminatedLiteral e offset => s!"Unterminated string literal at offset {offset} in '{e}'"
  | .unbalancedBracket e delimiter offset => s!"Unbalanced '{delimiter}' at offset {offset} in '{e}'"
  | .invalidCall callee e fault => s!"Function '{callee}' error in '{e}': {fault.message}"

end XslLowering.Expression
