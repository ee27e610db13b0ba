import XslLowering.Dictionary
import XslLowering.Stylesheet.Strategy
import XslLowering.Text.Quoted

/-!
# Function maps

The functions whose calls are replaced, each with its strategy.
-/

namespace XslLowering.Stylesheet

/-- Strategies by the names of the functions that they replace. -/
structure FunctionMap where
  strategies : Dictionary Strategy

namespace FunctionMap

variable {ε : Type}

def empty : FunctionMap := ⟨∅⟩

def get? (m : FunctionMap) (name : String) : Option Strategy := m.strategies.get? name

def contains (m : FunctionMap) (name : String) : Bool := m.strategies.contains name

def size (m : FunctionMap) : Nat := m.strategies.size

/-- The names of the functions, in order. -/
def names (m : FunctionMap) : List String := m.strategies.names

/-- Gives a function its strategy, in place of the one it may have had. -/
def set (m : FunctionMap) (name : String) (strategy : Strategy) : Attempt ε FunctionMap := do
  if m.contains name then
    Attempt.note .debug s!"Replaced function registration for '{name}'"
  return ⟨m.strategies.insert name strategy⟩

/-- Registers the grouping functions. -/
def registerGrouping (m : FunctionMap) : Attempt ε FunctionMap := do
  let m ← m.set "current-group" .currentGroup
  m.set "current-grouping-key" .currentGroupingKey

/-- Registers callbacks by their names. -/
def registerCallbacks (m : FunctionMap) (names : List String) : Attempt ε FunctionMap :=
  names.foldlM (fun m name => m.set name (.callback name)) m

end FunctionMap

/-- A list of names in brackets, each one quoted. -/
def quotedNames (names : List String) : String :=
  "[" ++ ", ".intercalate (names.map Text.quoted) ++ "]"

def FunctionMap.describe (m : FunctionMap) : String :=
  "FunctionMap \x7b functions: " ++ quotedNames m.names ++ " \x7d"

end XslLowering.Stylesheet
