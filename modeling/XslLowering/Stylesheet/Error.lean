import XslLowering.Expression.Error
import XslLowering.Stylesheet.ValueTemplate

/-!
# Errors of stylesheets and callbacks
-/

namespace XslLowering.Stylesheet

/-- What can be wrong with the arguments of a callback. -/
inductive ArgumentFault where
  /-- The callback takes between `least` and `most` arguments. -/
  | arity (least most given : Nat)
  | unknownFlag (flag : Char)
  | invalidPattern
  | matchesEmpty
  | refused (reason : String)
deriving DecidableEq

def ArgumentFault.message : ArgumentFault → String
  | .arity least most given =>
    let expected := if least = most then toString least else s!"{least} to {most}"
    s!"Expected {expected} arguments, got {given}"
  | .unknownFlag flag => s!"Unknown regex flag '{flag}'"
  | .invalidPattern => "Invalid pattern"
  | .matchesEmpty => "Pattern matches a zero-length string"
  | .refused reason => reason

/-- Why a stylesheet is not lowered, or a callback not called. -/
inductive Error where
  | expression (error : Expression.Error)
  | template (attributeName value : String) (fault : TemplateFault)
  | unknownCallback (name : String)
  | invalidArgument (callee : String) (fault : ArgumentFault)
  | noActiveCallbacks
  | namespaceConflict (qualifier boundTo : String)
deriving DecidableEq

def Error.message : Error → String
  | .expression error => s!"XPath error: {error.message}"
  | .template attributeName value fault =>
    s!"Invalid value template in attribute '{attributeName}' ('{value}'): {fault.message}"
  | .unknownCallback name => s!"Unknown callback function '{name}'"
  | .invalidArgument callee fault =>
    s!"Invalid argument for callback '{callee}': {fault.message}"
  | .noActiveCallbacks => "No callback context is active on this thread"
  | .namespaceConflict qualifier boundTo =>
    s!"Prefix '{qualifier}' is already bound to '{boundTo}'"

end XslLowering.Stylesheet
