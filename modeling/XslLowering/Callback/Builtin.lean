import XslLowering.Callback.Registry
import XslLowering.Pattern.Replace
import XslLowering.Text.CaseMapping

/-!
# Built-in callbacks

Functions of the newer expression language that the target lacks and that cannot be written as
expressions of the target.
-/

namespace XslLowering.Callback

open Stylesheet (Error ArgumentFault)

/-- Refuses a call with fewer than `least` or more than `most` arguments. -/
def checkArity (callee : String) (least most : Nat) (args : List Value) : Except Error Unit :=
  if least ≤ args.length ∧ args.length ≤ most then .ok ()
  else .error (.invalidArgument callee (.arity least most args.length))

/-- The text of an argument, or the empty text if it is missing. -/
def textAt (args : List Value) (index : Nat) : String := ((args[index]?).map Value.toText).getD ""

/-- Adds the flags with these letters. -/
def addFlags (flags : Pattern.Flags) : List Char → Except ArgumentFault Pattern.Flags
  | [] => .ok flags
  | c :: cs =>
    if c == 'i' || c == 'm' || c == 's' || c == 'x' then
      addFlags ((flags.set c true).getD flags) cs
    else .error (.unknownFlag c)

/-- The pattern in one argument, read with the flags in another. -/
def patternOf (callee pattern flags : String) : Except Error Pattern :=
  match addFlags .standard flags.toList with
  | .error fault => .error (.invalidArgument callee fault)
  | .ok flags =>
    match Pattern.ofText? flags pattern with
    | some p => .ok p
    | none => .error (.invalidArgument callee .invalidPattern)

def upperCase (args : List Value) : Except Error Value := do
  checkArity "upper-case" 1 1 args
  return .string (Text.upperCase (textAt args 0))

def lowerCase (args : List Value) : Except Error Value := do
  checkArity "lower-case" 1 1 args
  return .string (Text.lowerCase (textAt args 0))

def endsWith (args : List Value) : Except Error Value := do
  checkArity "ends-with" 2 2 args
  return .boolean (Text.endsWithSeq (textAt args 1) (textAt args 0))

def abs (args : List Value) : Except Error Value := do
  checkArity "abs" 1 1 args
  return .number ((args[0]?.map Value.toNumber).getD 0).abs

def matchesPattern (args : List Value) : Except Error Value := do
  checkArity "matches" 2 3 args
  let pattern ← patternOf "matches" (textAt args 1) (textAt args 2)
  return .boolean (pattern.isMatch (textAt args 0))

def replace (args : List Value) : Except Error Value := do
  checkArity "replace" 3 4 args
  let pattern ← patternOf "replace" (textAt args 1) (textAt args 3)
  if pattern.isMatch "" then .error (.invalidArgument "replace" .matchesEmpty)
  else .ok (.string (pattern.replaceAll (textAt args 0) (textAt args 2)))

/-- The built-in callbacks with their names. -/
def builtins : List (String × Callback) :=
  [("upper-case", .native upperCase), ("lower-case", .native lowerCase),
    ("ends-with", .native endsWith), ("abs", .native abs), ("matches", .native matchesPattern),
    ("replace", .native replace)]

/-- The registry of all built-in callbacks. -/
def Registry.builtin : Registry :=
  builtins.foldl (fun r (name, callback) => r.register name callback) .empty

end XslLowering.Callback
