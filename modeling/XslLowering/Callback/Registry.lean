import XslLowering.Callback.Value
import XslLowering.Stylesheet.Error
import XslLowering.Stylesheet.FunctionMap

/-!
# Registries of callbacks

A callback runs code of its own for the arguments of a call. Of that code, `Code` keeps what has to do
with callbacks: it calls callbacks by their names, opens blocks in which others answer, and ends, with
an answer or a panic. What it computes in between is in how it goes on with what it was answered.

A `Registry` names callbacks.
-/

namespace XslLowering

namespace Callback

open Stylesheet (Error)

/-- What a callback answers, and what code ends with unless it panics. -/
abbrev Answer := Except Error Value

/-- Code that calls callbacks and opens blocks; it goes on with what it was answered. -/
inductive Code where
  /-- The end of the code, normally or with an error. -/
  | ret (result : Answer)
  | panic (message : String)
  /-- A call of a callback by its name. -/
  | dispatch (name : String) (args : List Value) (next : Answer → Code)
  /-- A block in which callbacks with these names answer. -/
  | block (callbacks : Dictionary (List Value → Code)) (body : Code) (next : Answer → Code)
  /-- A part of the code after which it goes on even if there was a panic. -/
  | recover (body : Code) (next : Except String Answer → Code)

end Callback

/-- A callback: the code that it runs for the arguments of a call. -/
abbrev Callback := List Callback.Value → Callback.Code

namespace Callback

open Stylesheet (Error)

/-- The callback that computes its answer without further ado. -/
def native (compute : List Value → Answer) : Callback := fun args => .ret (compute args)

/-- The callback that passes its arguments on to the one that has this name when it is called. -/
def redirect (name : String) : Callback := fun args => .dispatch name args .ret

/-- Callbacks under their names. -/
structure Registry where
  callbacks : Dictionary Callback

namespace Registry

def empty : Registry := ⟨∅⟩

/-- Registers a callback, in place of one with the same name. -/
def register (r : Registry) (name : String) (callback : Callback) : Registry :=
  ⟨r.callbacks.insert name callback⟩

def contains (r : Registry) (name : String) : Bool := r.callbacks.contains name

def size (r : Registry) : Nat := r.callbacks.size

/-- The names of the callbacks, in order. -/
def names (r : Registry) : List String := r.callbacks.names

/-- The callback with this name. -/
def find (r : Registry) (name : String) : Except Error Callback :=
  match r.callbacks.get? name with
  | none => .error (.unknownCallback name)
  | some callback => .ok callback

def describe (r : Registry) : String :=
  "CallbackRegistry \x7b functions: " ++ Stylesheet.quotedNames r.names ++ " \x7d"

end Registry

end Callback

end XslLowering
