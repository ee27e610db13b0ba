import XslLowering.Stylesheet.Error
import XslLowering.Stylesheet.Compilation

/-!
# Lowering the attributes of a stylesheet

`lowerExpression` lowers the expression that an attribute of an instruction holds, `lowerTemplate`
the value template of an attribute that may hold one. A `Walk` does so for every element of a
document, in document order: expressions first, then the templates among the attributes that the
element has then.
-/

namespace XslLowering.Stylesheet

open Expression (Place)

/-- The attributes of instructions that are value templates, each after the instruction's name. -/
def templateAttributes : List (String × String) :=
  [("element", "name"), ("element", "namespace"), ("attribute", "name"), ("attribute", "namespace"),
    ("processing-instruction", "name"), ("number", "format"), ("number", "lang"),
    ("number", "letter-value"), ("number", "grouping-separator"), ("number", "grouping-size"),
    ("sort", "lang"), ("sort", "data-type"), ("sort", "order"), ("sort", "case-order")]

/-- Whether an attribute holds an expression: on instructions it does, if it is there. -/
def holdsExpression (d : Document) (id : NodeId) (name : String) : Bool :=
  d.hasAttribute id name && isInstruction d id

/-- Whether an attribute may hold a value template: on instructions those of `templateAttributes`,
and on other elements all that do not belong to the stylesheet language. -/
def holdsTemplate (d : Document) (id : NodeId) (name : String) : Bool :=
  if isNamespaceDeclaration name then false
  else if isInstruction d id then
    match d.localName? id with
    | none => false
    | some instruction => templateAttributes.contains (instruction, name)
  else !isXslAttribute d id name

/-- Lowers the expression in an attribute. -/
def lowerExpression (functions : FunctionMap) (name : String) (id : NodeId) :
    Edit Document Error Unit := do
  let d ← Edit.get
  match d.attribute? id name with
  | none => return
  | some value =>
    let compiled ← Edit.ofAttempt ((compile functions ⟨d, id, none⟩ value).mapError .expression)
    if compiled != value then Document.assign id name compiled

/-- What an attribute with this value template becomes; nothing if it stands for itself. -/
def expandTemplate (functions : FunctionMap) (place : Place) (name value : String) :
    Attempt Error (Option String) :=
  match ValueTemplate.parse value with
  | .error fault => throw (.template name value fault)
  | .ok template =>
    if template.isStatic then return none
    else do
      let rendered ← (template.render (compile functions place)).mapError .expression
      Attempt.note .debug
        s!"Expanded value template {name}=\x22{value}\x22 -> \x22{rendered}\x22"
      return some rendered

/-- Lowers the value template in an attribute. -/
def lowerTemplate (functions : FunctionMap) (name : String) (id : NodeId) :
    Edit Document Error Unit := do
  let d ← Edit.get
  match d.attribute? id name with
  | none => return
  | some value =>
    match ← Edit.ofAttempt (expandTemplate functions ⟨d, id, some name⟩ name value) with
    | none => return
    | some rendered => Document.assign id name rendered

/-- What a walk does on each element. -/
structure Walk where
  /-- The attributes that hold expressions, in the order they are looked at. -/
  expressions : List String
  /-- How many times each attribute is looked at for a template. -/
  templates : Nat

/-- Tests and selections are expressions, and templates are looked at once. -/
def Walk.standard : Walk := ⟨["test", "select"], 1⟩

namespace Walk

/-- Runs an edit if a condition on the document holds. -/
def runIf (condition : Document → Bool) (edit : Edit Document Error Unit) :
    Edit Document Error Unit := do
  let d ← Edit.get
  if condition d then edit

/-- Lowers an attribute as a template as often as the walk says. -/
def visitTemplate (functions : FunctionMap) (id : NodeId) (name : String) :
    Nat → Edit Document Error Unit
  | 0 => return
  | times + 1 => do
    runIf (holdsTemplate · id name) (lowerTemplate functions name id)
    visitTemplate functions id name times

/-- Lowers the attributes of one element. -/
def visit (w : Walk) (functions : FunctionMap) (id : NodeId) : Edit Document Error Unit := do
  w.expressions.forM fun name =>
    runIf (holdsExpression · id name) (lowerExpression functions name id)
  let d ← Edit.get
  (d.attributes id).forM fun a => visitTemplate functions id a.name w.templates

/-- Lowers the attributes of all elements. -/
def run (w : Walk) (functions : FunctionMap) : Edit Document Error Unit := do
  let d ← Edit.get
  let elements := d.elements
  Edit.note .debug s!"Applying XSL transformations to {elements.length} elements"
  elements.forM (w.visit functions)

end Walk

end XslLowering.Stylesheet
