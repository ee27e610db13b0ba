import XslLowering.Callback.Registry

/-!
# Scopes of callbacks

At most one registry is active at a time. A `Scope` remembers what was active before it was opened
and brings that back when it is closed. `within` opens a scope for one block and closes it at the
block's end, however the block ends.

A call is answered by the active registry: it runs the code of one of its callbacks, while the same
registry stays active. That code may make calls itself, so callbacks run inside one another. A thread
has room for so many of them only, and a run that needs more is broken off.
-/

namespace XslLowering.Callback

open Stylesheet (Error)

/-- The registry that answers calls, if there is one. -/
abbrev Active := Option Registry

/-- What a scope has to bring back. -/
structure Scope where
  previous : Active

section

variable {ε α : Type}

/-- Opens a scope. -/
def activate (r : Registry) : Edit Active ε Scope := do
  let previous ← Edit.get
  Edit.set (some r)
  Edit.note .trace "Activated native callback scope"
  return ⟨previous⟩

/-- Closes a scope. -/
def release (s : Scope) : Edit Active ε Unit := do
  Edit.set s.previous
  Edit.note .trace "Released native callback scope"

/-- Runs a block in a scope of its own. -/
def within (r : Registry) (block : Edit Active ε α) : Edit Active ε α := do
  let scope ← activate r
  let outcome ← block.attempt
  release scope
  Edit.ofAttempt (Attempt.ofExcept outcome)

end

/-! ## Running code -/

/-- Why a run of code comes to no answer. -/
inductive Abort where
  | panicked (message : String)
  /-- There was no room for another callback inside those that were running. Code cannot go on after
  that. -/
  | exhausted

/-- The callback that answers calls with this name. -/
def answering (active : Active) (name : String) : Except Error Callback :=
  match active with
  | none => .error .noActiveCallbacks
  | some r => r.find name

/-- Answers a call by the callback that was found, whose code `enter` runs. -/
def answerBy (enter : Code → Edit Active Abort Answer) (name : String) (args : List Value) :
    Except Error Callback → Edit Active Abort Answer
  | .error e => return .error e
  | .ok callback => do
    Edit.note .trace s!"Calling native callback '{name}' with {args.length} args"
    enter (callback args)

/-- Answers a call by the active registry. -/
def dispatchWith (enter : Code → Edit Active Abort Answer) (name : String) (args : List Value) :
    Edit Active Abort Answer := do
  let active ← Edit.get
  answerBy enter name args (answering active name)

/-- Runs code on the slot that holds the active registry; `enter` runs the code of callbacks. -/
def Code.runWith (enter : Code → Edit Active Abort Answer) : Code → Edit Active Abort Answer
  | .ret result => return result
  | .panic message => Edit.fail (.panicked message)
  | .dispatch name args next => do
    let answer ← dispatchWith enter name args
    (next answer).runWith enter
  | .block callbacks body next => do
    let result ← within ⟨callbacks⟩ (body.runWith enter)
    (next result).runWith enter
  | .recover body next => do
    match ← (body.runWith enter).attempt with
    | .ok result => (next (.ok result)).runWith enter
    | .error (.panicked message) => (next (.error message)).runWith enter
    | .error .exhausted => Edit.fail .exhausted

/-- Runs the code of a callback where there is room for `depth` callbacks inside one another. -/
def enter : Nat → Code → Edit Active Abort Answer
  | 0, _ => Edit.fail .exhausted
  | depth + 1, code => code.runWith (enter depth)

/-- Runs code that may have `depth` callbacks running inside one another. -/
def Code.run (depth : Nat) (code : Code) : Edit Active Abort Answer := code.runWith (enter depth)

/-- Answers a call by a registry, whatever is active. -/
def Registry.call (r : Registry) (depth : Nat) (name : String) (args : List Value) :
    Edit Active Abort Answer :=
  answerBy (enter depth) name args (r.find name)

/-- Answers a call by the active registry, with room for `depth` callbacks inside one another. -/
def dispatch (depth : Nat) (name : String) (args : List Value) : Edit Active Abort Answer :=
  dispatchWith (enter depth) name args

end XslLowering.Callback
