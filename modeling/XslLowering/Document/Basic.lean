import XslLowering.Attempt
import XslLowering.Document.Node

/-!
# Documents

A `Document` is a list of nodes; the first one is the document node, and every other node names its
parent, which comes before it. Nodes that were read from markup stand in document order.

Walks upwards (`ancestors`) go to ever smaller numbers and walks downwards (`subtree`) to ever
larger ones, so both end.
-/

namespace XslLowering

/-- A tree of nodes, each of which goes by its number in the array. The document node has number
zero. -/
structure Document where
  nodes : Array Node
  /-- Where the document was loaded from. -/
  uri : Option String
deriving DecidableEq

namespace Document

/-- The document that has nothing but its document node. -/
def empty : Document := ⟨#[⟨.document, none, []⟩], none⟩

instance : Inhabited Document := ⟨empty⟩

/-- The document node. -/
def root : NodeId := 0

def kind (d : Document) (id : NodeId) : NodeKind := (d.nodes[id]?.map (·.kind)).getD .document

def parent? (d : Document) (id : NodeId) : Option NodeId := d.nodes[id]?.bind (·.parent)

def children (d : Document) (id : NodeId) : List NodeId := (d.nodes[id]?.map (·.children)).getD []

def element? (d : Document) (id : NodeId) : Option Element :=
  match d.kind id with
  | .element e => some e
  | _ => none

def isElement (d : Document) (id : NodeId) : Bool := (d.element? id).isSome

def isDocument (d : Document) (id : NodeId) : Bool := d.kind id == .document

/-- The first element at the top of the document. -/
def documentElement? (d : Document) : Option NodeId := (d.children root).find? d.isElement

/-- The nodes around a node, the innermost first, up to the document node. -/
def ancestors (d : Document) (id : NodeId) : List NodeId :=
  match d.parent? id with
  | none => []
  | some p => if p < id then p :: d.ancestors p else []
termination_by id

/-- A node and everything below it, in document order. -/
def subtree (d : Document) (id : NodeId) : List NodeId :=
  id :: (d.children id).flatMap fun child =>
    if _h : id < child ∧ child < d.nodes.size then d.subtree child else []
termination_by d.nodes.size - id
decreasing_by exact Nat.sub_lt_sub_left (Nat.lt_trans _h.1 _h.2) _h.1

/-- All elements, in document order. -/
def elements (d : Document) : List NodeId := (d.subtree root).filter d.isElement

def name? (d : Document) (id : NodeId) : Option String := (d.element? id).map (·.name)

def localName? (d : Document) (id : NodeId) : Option String := (d.element? id).map (·.localName)

def attributes (d : Document) (id : NodeId) : List Attribute :=
  ((d.element? id).map (·.attributes)).getD []

def attribute? (d : Document) (id : NodeId) (name : String) : Option String :=
  (d.element? id).bind (·.attribute? name)

def hasAttribute (d : Document) (id : NodeId) (name : String) : Bool :=
  (d.attribute? id name).isSome

/-- Sets an attribute of an element; on any other node it does nothing. -/
def setAttribute (d : Document) (id : NodeId) (name value : String) : Document :=
  { d with nodes := d.nodes.modify id fun node =>
      match node.kind with
      | .element e => { node with kind := .element (e.setAttribute name value) }
      | _ => node }

/-- Sets an attribute, with a warning if the node can have none. -/
def assign {ε : Type} (id : NodeId) (name value : String) : Edit Document ε Unit := do
  let d ← Edit.get
  if d.isElement id then Edit.set (d.setAttribute id name value)
  else Edit.note .warn s!"Ignoring attribute '{name}' set on a non-element node"

/-- The markup of the document type declaration at the top of the document. -/
def doctype? (d : Document) : Option String :=
  (d.children root).findSome? fun id =>
    match d.kind id with
    | .raw .doctype markup => some markup
    | _ => none

/-- Adds a node below `parent`, after its other children. -/
def append (d : Document) (parent : NodeId) (kind : NodeKind) : Document :=
  let id := d.nodes.size
  { d with nodes := (d.nodes.push ⟨kind, some parent, []⟩).modify parent fun node =>
      { node with children := node.children ++ [id] } }

/-- Adds character data below `parent`; it joins a text that it directly follows. -/
def appendText (d : Document) (parent : NodeId) (content : String) : Document :=
  match (d.children parent).getLast? with
  | none => d.append parent (.text content)
  | some last =>
    match d.kind last with
    | .text existing =>
      { d with nodes := d.nodes.modify last fun node =>
          { node with kind := .text (existing ++ content) } }
    | _ => d.append parent (.text content)

end Document

end XslLowering
