import XslLowering.Document.Namespace

/-!
# Names in stylesheets
-/

namespace XslLowering.Stylesheet

def xslNamespace : String := "http://www.w3.org/1999/XSL/Transform"

/-- The namespace of the function through which callbacks are called. -/
def callbackNamespace : String := "urn:downlevel:callback"

/-- The qualifier that stands for `callbackNamespace` in lowered stylesheets. -/
def callbackQualifier : String := "ext"

/-- Whether an element is an instruction. -/
def isInstruction (d : Document) (id : NodeId) : Bool := d.namespaceOf? id == some xslNamespace

/-- Whether an attribute of this name belongs to the stylesheet language itself, although it may
stand on any element. -/
def isXslAttribute (d : Document) (id : NodeId) (name : String) : Bool :=
  match Text.cutAt ':' name with
  | none => false
  | some (qualifier, _) =>
    qualifier != "xmlns" && d.lookupNamespace id (some qualifier) == some xslNamespace

end XslLowering.Stylesheet
