import XslLowering.Files.Fault
import XslLowering.Markup.Error

/-!
# Faults of reading a document
-/

namespace XslLowering.Document

/-- Why there is no document. -/
inductive Error where
  | markup (fault : Markup.Fault)
  | attribute (fault : Markup.AttributeFault)
  | escape (fault : Markup.EscapeFault)
  | file (fault : FileFault)
  | unclosedElement (name : String)
  /-- The text of a piece would end inside a character. Reading is broken off there, and whoever
  asked for the document gets no answer. -/
  | splitCharacter
deriving DecidableEq

def Error.message : Error → String
  | .markup fault => s!"XML parsing error: {fault.message}"
  | .attribute fault => s!"Malformed attribute: {fault.message}"
  | .escape fault => s!"Invalid escape sequence: {fault.message}"
  | .file fault => s!"I/O error: {fault.message}"
  | .unclosedElement name => s!"Unclosed element '{name}' at end of input"
  | .splitCharacter => "position is not a char boundary"

end XslLowering.Document
