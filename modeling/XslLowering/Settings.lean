import XslLowering.Json.Reader
import XslLowering.Text.Quoted

/-!
# Settings

What can be set for a transpiler, as it is kept in JSON: an object in which missing names take their
defaults and unknown ones are ignored, or an array with the values in order.
-/

namespace XslLowering

/-- What can be set for a transpiler. -/
structure Settings where
  /-- Documents that declare entities are rejected. -/
  disableEntities : Bool
  /-- The version that lowered stylesheets declare. -/
  targetVersion : String
  /-- Calls of callbacks are lowered. -/
  nativeCallbacks : Bool
deriving DecidableEq

namespace Settings

def standard : Settings := ⟨true, "1.0", true⟩

/-- A setting by its name. -/
inductive Key where
  | disableEntities | targetVersion | nativeCallbacks
deriving DecidableEq

def Key.name : Key → String
  | .disableEntities => "disable_entities"
  | .targetVersion => "target_version"
  | .nativeCallbacks => "native_callbacks"

/-- All settings, in order. -/
def keys : List Key := [.disableEntities, .targetVersion, .nativeCallbacks]

/-- Changes one setting; none if the value is of the wrong kind. -/
def set (s : Settings) : Key → Json → Option Settings
  | .disableEntities, .boolean b => some { s with disableEntities := b }
  | .targetVersion, .string (some text) => some { s with targetVersion := text }
  | .nativeCallbacks, .boolean b => some { s with nativeCallbacks := b }
  | _, _ => none

/-- Changes settings by their names. A setting must not be given twice. -/
def setFields (s : Settings) (given : List Key) : List (Option String × Json) → Option Settings
  | [] => some s
  | (none, _) :: _ => none
  | (some name, value) :: fields =>
    match keys.find? (·.name == name) with
    | none => s.setFields given fields
    | some key =>
      if given.contains key then none
      else
        match s.set key value with
        | some s => s.setFields (key :: given) fields
        | none => none

/-- Changes settings in their order. -/
def setItems (s : Settings) : List Key → List Json → Option Settings
  | _, [] => some s
  | [], _ :: _ => none
  | key :: keys, value :: values =>
    match s.set key value with
    | some s => s.setItems keys values
    | none => none

def ofJson? : Json → Option Settings
  | .object fields => standard.setFields [] fields
  | .array items => standard.setItems keys items
  | _ => none

/-- Reads settings from a JSON text. -/
def read? (text : String) : Option Settings := (Json.read? text).bind ofJson?

def boolText (b : Bool) : String := if b then "true" else "false"

/-- Settings as a JSON text. -/
def toJson (s : Settings) : String :=
  "\x7b\x22disable_entities\x22:" ++ boolText s.disableEntities ++ ",\x22target_version\x22:" ++
    Json.quote s.targetVersion ++ ",\x22native_callbacks\x22:" ++ boolText s.nativeCallbacks ++
    "\x7d"

def describe (s : Settings) : String :=
  "TranspilerConfig \x7b disable_entities: " ++ boolText s.disableEntities ++
    ", target_version: " ++ Text.quoted s.targetVersion ++ ", native_callbacks: " ++
    boolText s.nativeCallbacks ++ " \x7d"

end Settings

end XslLowering
