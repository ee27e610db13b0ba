import XslLowering.Stylesheet.Walk
import XslLowering.Text.Blank

/-!
# Passes over a document

`declareCallbacks` binds the qualifier of callbacks on the outermost element of a stylesheet in
which a callback is called, and keeps the qualifier out of the result.
-/

namespace XslLowering.Stylesheet

open Text

/-- Whether some attribute holds the text of a call of a callback. -/
def usesCallbacks (d : Document) : Bool :=
  let call := (callbackQualifier ++ ":call(").toList
  d.elements.any fun id => (d.attributes id).any fun a => containsSeq call a.value.toList

/-- A blank between the words of an attribute value. -/
def isWordBreak (c : Char) : Bool := isSpace c || c == '\x0c'

/-- The words of a text. -/
def wordsOf : List Char → List (List Char)
  | [] => []
  | c :: cs =>
    if isWordBreak c then wordsOf cs
    else
      match cs with
      | [] => [[c]]
      | next :: _ =>
        if isWordBreak next then [c] :: wordsOf cs
        else
          match wordsOf cs with
          | [] => [[c]]
          | word :: words => (c :: word) :: words

/-- The qualifier that an element itself binds to the stylesheet language. -/
def xslQualifier? (d : Document) (id : NodeId) : Option String :=
  (d.attributes id).findSome? fun a =>
    if a.value == xslNamespace then
      (stripLead "xmlns:".toList a.name.toList).map String.ofList
    else none

/-- The attribute that lists the qualifiers to keep out of the result. -/
def exclusionAttribute? (d : Document) (id : NodeId) : Option String :=
  if isInstruction d id then some "exclude-result-prefixes"
  else (xslQualifier? d id).map (· ++ ":exclude-result-prefixes")

/-- A list of qualifiers with that of callbacks in it. -/
def excludeCallbacks (listed : String) : String :=
  let words := wordsOf listed.toList
  if words.contains callbackQualifier.toList || words.contains "#all".toList then listed
  else
    let trimmed := trimBlank listed.toList
    if trimmed.isEmpty then callbackQualifier
    else String.ofList trimmed ++ " " ++ callbackQualifier

/-- Binds the qualifier of callbacks on an element. -/
def bindCallbacks (root : NodeId) : Edit Document Error Unit := do
  let d ← Edit.get
  match d.lookupNamespace root (some callbackQualifier) with
  | some bound =>
    if bound != callbackNamespace then Edit.fail (.namespaceConflict callbackQualifier bound)
  | none => Document.assign root ("xmlns:" ++ callbackQualifier) callbackNamespace

/-- Binds the qualifier of callbacks if there is need for it, and excludes it from the result. -/
def declareCallbacks : Edit Document Error Unit := do
  let d ← Edit.get
  match d.documentElement? with
  | none => return
  | some root =>
    if usesCallbacks d then
      bindCallbacks root
      let d ← Edit.get
      match exclusionAttribute? d root with
      | none => return
      | some name =>
        let current := (d.attribute? root name).getD ""
        let updated := excludeCallbacks current
        if updated != current then Document.assign root name updated

/-- One pass of a transpiler over a document. -/
inductive Pass where
  | lower (functions : FunctionMap) (walk : Walk)
  | declareCallbacks
  | custom (edit : Edit Document Error Unit)

def Pass.run : Pass → Edit Document Error Unit
  | .lower functions walk => walk.run functions
  | .declareCallbacks => Stylesheet.declareCallbacks
  | .custom edit => edit

end XslLowering.Stylesheet
