import XslLowering.Text.Search

/-!
# Nodes of a document
-/

namespace XslLowering

/-- A node is known by its place in the document's list of nodes. -/
abbrev NodeId := Nat

/-- An attribute of an element; declarations of namespaces are attributes too. -/
structure Attribute where
  /-- The name as it is written, with its qualifier. -/
  name : String
  /-- The value with all references resolved. -/
  value : String
deriving DecidableEq

/-- Whether an attribute of this name declares a namespace. -/
def isNamespaceDeclaration (name : String) : Bool :=
  name == "xmlns" || Text.startsWithSeq "xmlns:" name

/-- The name of an element as it is written, and its attributes in the order of its tag. -/
structure Element where
  name : String
  attributes : List Attribute
deriving DecidableEq

namespace Element

/-- The part of the name before its first colon, if it has one. -/
def qualifier? (e : Element) : Option String := (Text.cutAt ':' e.name).map Prod.fst

/-- The part of the name after its first colon, or all of it. -/
def localName (e : Element) : String := ((Text.cutAt ':' e.name).map Prod.snd).getD e.name

def attribute? (e : Element) (name : String) : Option String :=
  (e.attributes.find? (·.name == name)).map (·.value)

/-- Replaces the value of the first attribute with this name, or appends an attribute. -/
def setIn (name value : String) : List Attribute → List Attribute
  | [] => [⟨name, value⟩]
  | a :: rest => if a.name == name then ⟨a.name, value⟩ :: rest else a :: setIn name value rest

def setAttribute (e : Element) (name value : String) : Element :=
  { e with attributes := setIn name value e.attributes }

@[simp] theorem setAttribute_name (e : Element) (name value : String) :
    (e.setAttribute name value).name = e.name := rfl

end Element

/-- Markup that is kept as it was written. -/
inductive RawKind where
  | declaration | doctype | comment | instruction | cdata
deriving DecidableEq

/-- What a node holds, apart from its place in the tree. -/
inductive NodeKind where
  /-- The node above all others. -/
  | document
  | element (e : Element)
  /-- Character data with all references resolved. -/
  | text (content : String)
  /-- A reference that could not be resolved, by the name it refers to. -/
  | entityRef (name : String)
  | raw (kind : RawKind) (markup : String)
deriving DecidableEq

/-- A node, the node around it, and the nodes in it from left to right. -/
structure Node where
  kind : NodeKind
  parent : Option NodeId
  children : List NodeId
deriving DecidableEq

end XslLowering
