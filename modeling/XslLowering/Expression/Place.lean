import XslLowering.Document.Basic

/-!
# Where an expression stands
-/

namespace XslLowering.Expression

/-- The place of an expression in a document: an element, or one of its attributes. -/
structure Place where
  document : Document
  node : NodeId
  attributeName : Option String

/-- The nodes around an expression, the innermost first. An element does not stand within itself,
its attributes do. -/
def Place.enclosing (p : Place) : List NodeId :=
  match p.attributeName with
  | some _ => p.node :: p.document.ancestors p.node
  | none => p.document.ancestors p.node

end XslLowering.Expression
