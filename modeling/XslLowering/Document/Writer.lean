import XslLowering.Document.Basic
import XslLowering.Markup.Reference

/-!
# Writing documents

`toMarkup` writes a document so that reading gives it back: values and texts are escaped, and what
was kept as markup is written as it is. An element without children is written as one tag.
-/

namespace XslLowering.Document

open Markup

def attributeMarkup (a : Attribute) : List Char :=
  ' ' :: a.name.toList ++ '=' :: '\x22' :: escapeValue a.value.toList ++ ['\x22']

/-- The markup of an element with the given markup inside, if there is any node inside. -/
def elementMarkup (e : Element) (inner : Option (List Char)) : List Char :=
  let opening := '<' :: e.name.toList ++ e.attributes.flatMap attributeMarkup
  match inner with
  | none => opening ++ ['/', '>']
  | some markup => opening ++ '>' :: markup ++ '<' :: '/' :: e.name.toList ++ ['>']

/-- The markup of a node and of all that is below it. -/
def nodeMarkup (d : Document) (id : NodeId) : List Char :=
  let inner := (d.children id).flatMap fun child =>
    if _h : id < child ∧ child < d.nodes.size then d.nodeMarkup child else []
  match d.kind id with
  | .document => inner
  | .element e => elementMarkup e (if (d.children id).isEmpty then none else some inner)
  | .text content => escapeText content.toList
  | .entityRef name => '&' :: name.toList ++ [';']
  | .raw _ markup => markup.toList
termination_by d.nodes.size - id
decreasing_by exact Nat.sub_lt_sub_left (Nat.lt_trans _h.1 _h.2) _h.1

def toMarkup (d : Document) : String := String.ofList (d.nodeMarkup root)

end XslLowering.Document
