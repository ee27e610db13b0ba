import XslLowering.Document.Error
import XslLowering.Stylesheet.Error

/-!
# Errors of transpilers
-/

namespace XslLowering

/-- Why there are no settings. -/
inductive SettingsFault where
  | invalid
  | unreadable (path : String) (fault : FileFault)
deriving DecidableEq

def SettingsFault.message : SettingsFault → String
  | .invalid => "Invalid configuration"
  | .unreadable path fault => s!"Failed to read configuration from '{path}': {fault.message}"

namespace Transpiler

/-- Why a transpiler gives no output. -/
inductive Error where
  /-- The document declares entities, and that is not allowed. -/
  | containsEntities
  | stylesheet (error : Stylesheet.Error)
  | document (error : Document.Error)
  | file (fault : FileFault)
  | settings (fault : SettingsFault)
deriving DecidableEq

def Error.message : Error → String
  | .containsEntities => "Invalid document: Invalid document, contains entities"
  | .stylesheet error => s!"Transformation failed: {error.message}"
  | .document error => s!"Document error: {error.message}"
  | .file fault => s!"I/O error: {fault.message}"
  | .settings fault => s!"Configuration error: {fault.message}"

end Transpiler

end XslLowering
