import XslLowering.Document.Basic

/-!
# Namespaces in scope

A qualifier stands for the namespace that the nearest declaration around it names. A declaration
with an empty name takes the qualifier away. The qualifier `xml` is always bound.
-/

namespace XslLowering.Document

def xmlNamespace : String := "http://www.w3.org/XML/1998/namespace"

/-- The name of the attribute that declares a qualifier, or the default namespace. -/
def declarationName : Option String → String
  | some qualifier => "xmlns:" ++ qualifier
  | none => "xmlns"

/-- The namespace that a qualifier stands for at a node; without a qualifier, the default one. -/
def lookupNamespace (d : Document) (id : NodeId) (qualifier : Option String) : Option String :=
  if qualifier == some "xml" then some xmlNamespace
  else
    ((id :: d.ancestors id).findSome? (d.attribute? · (declarationName qualifier))).filter
      fun uri => !uri.isEmpty

/-- The namespace of an element. -/
def namespaceOf? (d : Document) (id : NodeId) : Option String :=
  (d.element? id).bind fun e => d.lookupNamespace id e.qualifier?

end XslLowering.Document
