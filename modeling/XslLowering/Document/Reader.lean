import XslLowering.Document.Basic
import XslLowering.Document.Error
import XslLowering.Files.Basic
import XslLowering.Markup.Piece

/-!
# Reading documents

`Document.parse` makes a document of its markup, one piece after the other. References in text that
can be resolved become text and are merged with the text around them; others are kept by name. In
attributes, which hold nothing but text, references to entities of the document type declaration
are replaced, and a reference that nothing declares is a fault.

Faults are reported from left to right; an element that is left open comes last. Where the text of a
piece cannot be cut out of the source, reading is broken off.
-/

namespace XslLowering.Document

open Markup Text

/-- A document under construction. -/
structure Reading where
  document : Document
  /-- The open elements, the innermost first. -/
  opened : List NodeId
  /-- The entities of the last document type declaration. -/
  entities : Dictionary String

namespace Reading

def start : Reading := ⟨Document.empty, [], ∅⟩

/-- The node that the next piece goes into. -/
def current (r : Reading) : NodeId := r.opened.head?.getD root

def append (r : Reading) (kind : NodeKind) : Reading :=
  { r with document := r.document.append r.current kind }

def appendText (r : Reading) (content : List Char) : Reading :=
  { r with document := r.document.appendText r.current (String.ofList content) }

/-- What an entity in an attribute stands for. -/
def resolve (r : Reading) (name : String) : Option String :=
  (predefined name).or (r.entities.get? name)

/-- The element that a tag with this content describes. -/
def readElement (r : Reading) (content : List Char) : Except Error Element :=
  match readAttributes r.resolve content with
  | .ok attributes => .ok ⟨String.ofList (tagName content), attributes⟩
  | .error (.form fault) => .error (.attribute fault)
  | .error (.escape fault) => .error (.escape fault)

/-- Closes the innermost element, which must have this name. -/
def close (r : Reading) (name : String) : Except Error Reading :=
  match r.opened with
  | [] => .error (.markup (.unmatchedEnd name))
  | innermost :: outer =>
    let expected := (r.document.name? innermost).getD ""
    if expected == name then .ok { r with opened := outer }
    else .error (.markup (.mismatchedEnd expected name))

/-- The name in the text of a reference. -/
def referenceName (markup : List Char) : String :=
  String.ofList ((markup.dropWhile (· == '&')).reverse.dropWhile (· == ';')).reverse

/-- Takes in the next piece. -/
def step (r : Reading) (event : Event) (markup : List Char) : Attempt Error Reading :=
  match event with
  | .opening content => do
    let element ← Attempt.ofExcept (r.readElement content)
    let id := r.document.nodes.size
    let r := r.append (.element element)
    return { r with opened := id :: r.opened }
  | .empty content => do
    let element ← Attempt.ofExcept (r.readElement content)
    return r.append (.element element)
  | .closing name => Attempt.ofExcept (r.close (String.ofList name))
  | .text =>
    match unescape predefined markup with
    | .ok content => return r.appendText content
    | .error fault => throw (.escape fault)
  | .reference =>
    match unescape predefined markup with
    | .ok content => return r.appendText content
    | .error _ => do
      let name := referenceName markup
      Attempt.note .debug s!"Keeping unresolved entity reference '{name}'"
      return r.append (.entityRef name)
  | .raw kind =>
    let r := r.append (.raw kind (String.ofList markup))
    return if kind = .doctype then { r with entities := internalEntities (String.ofList markup) }
      else r

/-- Takes in all pieces. -/
def steps (r : Reading) : List (Event × List Char) → Attempt Error Reading
  | [] => return r
  | (event, markup) :: rest => do
    let r ← r.step event markup
    r.steps rest

/-- The document, if no element is open. -/
def finish (r : Reading) : Except Error Document :=
  match r.opened with
  | [] => .ok r.document
  | innermost :: _ => .error (.unclosedElement ((r.document.name? innermost).getD ""))

/-- The end of a reading: at the piece whose text cannot be cut out, at a fault, or at the end of the
source. An end tag is compared with the open element before its text is cut out. -/
def conclude (r : Reading) : Option Event → Option Fault → Except Error Document
  | some (.closing name), _ => do
    let _ ← r.close (String.ofList name)
    throw .splitCharacter
  | some _, _ => .error .splitCharacter
  | none, some fault => .error (.markup fault)
  | none, none => r.finish

end Reading

/-- The byte order mark. -/
def byteOrderMark : Char := '\uFEFF'

/-- What is split into pieces: a byte order mark at the start does not belong to it. -/
def body (source : List Char) : List Char :=
  match source with
  | c :: rest => if c == byteOrderMark then rest else c :: rest
  | [] => []

/-- Reads a document. The texts of its pieces are cut out of the whole source by their sizes from
its first byte on, so a byte order mark stays in it and moves every cut by its own size. -/
def parse (source : String) : Attempt Error Document := do
  let cs := source.toList
  let (parts, fault) := pieces (body cs)
  let (cuts, severed) := cutLike parts cs
  let reading ← Reading.start.steps cuts
  Attempt.ofExcept (reading.conclude severed fault)

/-- Reads the document in a file, and remembers the file's path. -/
def load (files : Files) (path : String) : Attempt Error Document :=
  match files.readText path with
  | .error fault => throw (.file fault)
  | .ok source => do
    let d ← parse source
    return { d with uri := some path }

/-- The entities declared by the document type declaration at the top. -/
def declaredEntities (d : Document) : List String :=
  match d.doctype? with
  | some markup => Markup.declaredEntities markup
  | none => []

end XslLowering.Document
