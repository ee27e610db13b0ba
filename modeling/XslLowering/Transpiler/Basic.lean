import XslLowering.Cache
import XslLowering.Callback.Scope
import XslLowering.Document.Reader
import XslLowering.Document.Writer
import XslLowering.Settings
import XslLowering.Stylesheet.Pass
import XslLowering.Transpiler.Error

/-!
# Transpilers

A `Transpiler` lowers stylesheets by a list of passes, and sets the version that they declare.
`transpile` changes a document all at once or not at all. `transpileRoot`, `transpileText` and
`transpileFile` also check a document before, and write it afterwards; the outcome for a file can be
kept in a cache.
-/

namespace XslLowering

/-- What lowers stylesheets: its passes run in this order and replace the calls of its functions. -/
structure Transpiler where
  settings : Settings
  functions : Stylesheet.FunctionMap
  callbacks : Callback.Registry
  passes : List Stylesheet.Pass
  /-- Whether outcomes are kept in a cache. -/
  caching : Bool

namespace Transpiler

/-- The passes of every transpiler: lowering, then the declaration of callbacks if there are any. -/
def standardPasses (settings : Settings) (functions : Stylesheet.FunctionMap) :
    List Stylesheet.Pass :=
  .lower functions .standard :: if settings.nativeCallbacks then [.declareCallbacks] else []

/-- The attribute of the outermost element that declares the version. -/
def versionAttribute? (d : Document) (root : NodeId) : Option String :=
  if Stylesheet.isInstruction d root then some "version"
  else
    ((d.attributes root).map (·.name)).find? fun name =>
      Text.endsWithSeq ":version" name && Stylesheet.isXslAttribute d root name

/-- Sets the version that a document declares. -/
def setVersion (version : String) (root : NodeId) : Edit Document Error Unit := do
  let d ← Edit.get
  match versionAttribute? d root with
  | none => return
  | some name =>
    if d.attribute? root name != some version then
      Edit.note .debug s!"Setting {name} to '{version}'"
      Document.assign root name version

/-- All changes to a document with this outermost element, one after the other. -/
def steps (t : Transpiler) (root : NodeId) : Edit Document Error Unit := do
  t.passes.forM fun pass => pass.run.mapError .stylesheet
  setVersion t.settings.targetVersion root

/-- Lowers a document; a failure leaves it as it was. -/
def transpile (t : Transpiler) : Edit Document Error Unit := do
  let d ← Edit.get
  match d.documentElement? with
  | none => Edit.note .debug "Document has no root element, nothing to transpile"
  | some root =>
    let lowered ← Edit.ofAttempt ((t.steps root).exec d)
    Edit.set lowered

/-- Refuses a document that declares entities, unless that is allowed. -/
def checkEntities (t : Transpiler) (d : Document) : Attempt Error Unit :=
  if t.settings.disableEntities && !d.declaredEntities.isEmpty then do
    let entities := ", ".intercalate d.declaredEntities
    Attempt.note .warn s!"Rejecting document declaring entities: {entities}"
    throw .containsEntities
  else return

/-- Checks, lowers and writes a document. -/
def process (t : Transpiler) : Edit Document Error String := do
  let d ← Edit.get
  Edit.ofAttempt (t.checkEntities d)
  t.transpile
  let d ← Edit.get
  return d.toMarkup

/-- The key for a document in the cache: its path, if a file is there. -/
def cacheKey? (t : Transpiler) (files : Files) (d : Document) : Option String :=
  if t.caching then d.uri.filter files.isFile else none

/-- Checks, lowers and writes a document that was read before. The outcome for a document from a file
is kept. -/
def transpileRoot (t : Transpiler) (files : Files) : Edit (Document × Cache) Error String := do
  let (d, _) ← Edit.get
  let location := (d.uri.map fun uri => s!" '{uri}'").getD ""
  Edit.note .info s!"Transpiling document{location}"
  match t.cacheKey? files d with
  | some key => Cache.fetch key t.process.onFirst
  | none => t.process.onFirst

/-- Checks, lowers and writes the document in a text. -/
def transpileText (t : Transpiler) (source : String) : Attempt Error String := do
  let d ← (Document.parse source).mapError .document
  ((t.transpileRoot .empty).run (d, .empty)).2

/-- Reads a file, and checks, lowers and writes the document in it. -/
def processFile (t : Transpiler) (files : Files) (path : String) : Attempt Error String := do
  let d ← (Document.load files path).mapError .document
  (t.process.run d).2

/-- Checks, lowers and writes the document in a file. The outcome is kept. -/
def transpileFile (t : Transpiler) (files : Files) (path : String) :
    Edit (Unit × Cache) Error String := do
  Edit.note .info s!"Transpiling file '{path}'"
  if t.caching then Cache.fetch path (Edit.ofAttempt (t.processFile files path))
  else Edit.ofAttempt (t.processFile files path)

/-- Runs a block in which calls are answered by the callbacks of a transpiler. -/
def withCallbacks {ε α : Type} (t : Transpiler) (block : Edit Callback.Active ε α) :
    Edit Callback.Active ε α :=
  Callback.within t.callbacks block

/-- What all runs of a transpiler share. -/
def describeContext (t : Transpiler) : String :=
  "TransformationContext \x7b config: " ++ t.settings.describe ++ ", functions: " ++
    t.functions.describe ++ ", callbacks: " ++ t.callbacks.describe ++ ", transformers: " ++
    toString t.passes.length ++ " \x7d"

/-- A transpiler with the cache it uses. -/
def describe (t : Transpiler) (cache : Cache) : String :=
  let cacheText := if t.caching then "Some(" ++ cache.describe ++ ")" else "None"
  "Transpiler \x7b context: " ++ t.describeContext ++ ", cache: " ++ cacheText ++ " \x7d"

end Transpiler

end XslLowering
