import XslLowering.Callback.Builtin
import XslLowering.Transpiler.Basic

/-!
# Building transpilers

A `Builder` collects what a transpiler is made of. Functions that are added to it take precedence over
those that every transpiler has, and passes that are added run after the standard ones.
-/

namespace XslLowering.Transpiler

/-- What a transpiler is to be made of. -/
structure Builder where
  settings : Settings
  caching : Bool
  callbacks : Callback.Registry
  /-- Functions with their strategies, in the order they were added. -/
  functions : List (String × Stylesheet.Strategy)
  passes : List Stylesheet.Pass

namespace Builder

/-- Standard settings and the built-in callbacks. -/
def standard : Builder := ⟨.standard, false, .builtin, [], []⟩

/-- The functions of the transpiler to be built. -/
def functionMap {ε : Type} (b : Builder) : Attempt ε Stylesheet.FunctionMap := do
  let m ← Stylesheet.FunctionMap.empty.registerCallbacks
    (if b.settings.nativeCallbacks then b.callbacks.names else [])
  let m ← m.registerGrouping
  b.functions.foldlM (fun m (name, strategy) => m.set name strategy) m

/-- The transpiler. -/
def build {ε : Type} (b : Builder) : Attempt ε Transpiler := do
  let functions ← b.functionMap
  let callbacks := if b.settings.nativeCallbacks then b.callbacks else .empty
  let version := b.settings.targetVersion
  Attempt.note .info
    s!"Building transpiler (target version {version}, {functions.size} functions, {callbacks.size} callbacks)"
  return ⟨b.settings, functions, callbacks, standardPasses b.settings functions ++ b.passes,
    b.caching⟩

end Builder

/-- Reads settings from a text. -/
def settingsOfText (text : String) : Except Error Settings :=
  match Settings.read? text with
  | some settings => .ok settings
  | none => .error (.settings .invalid)

/-- Reads settings from a file. -/
def settingsOfFile (files : Files) (path : String) : Except Error Settings :=
  match files.readText path with
  | .ok text => settingsOfText text
  | .error fault => .error (.settings (.unreadable path fault))

end XslLowering.Transpiler
