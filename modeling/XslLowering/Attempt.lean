/-!
# Attempts and edits

An `Attempt` is a computation that either fails with an error or gives a value, together with the
messages it logged; messages logged before a failure are kept. An `Edit` also works on a state, and
leaves the state behind as it was when the failure happened.

`Attempt.result_bind` and `Edit.run_bind` say how results and states of consecutive steps combine;
the results of attempts combine as plain `Except` values do.
-/

namespace XslLowering

/-- How much a logged message matters, what matters most first. -/
inductive Level where
  | error | warn | info | debug | trace

/-- A logged message. -/
structure LogEntry where
  level : Level
  message : String

/-- The result of a computation and what it logged, oldest message first. -/
structure Attempt (ε α : Type) where
  result : Except ε α
  log : List LogEntry

namespace Attempt

variable {ε ε' α β : Type}

instance : Monad (Attempt ε) where
  pure a := ⟨.ok a, []⟩
  bind x f := match x.result with
    | .error e => ⟨.error e, x.log⟩
    | .ok a => ⟨(f a).result, x.log ++ (f a).log⟩

instance : MonadExceptOf ε (Attempt ε) where
  throw e := ⟨.error e, []⟩
  tryCatch x f := match x.result with
    | .error e => ⟨(f e).result, x.log ++ (f e).log⟩
    | .ok _ => x

/-- A computation that logs nothing. -/
def ofExcept (x : Except ε α) : Attempt ε α := ⟨x, []⟩

/-- Logs one message. -/
def note (level : Level) (message : String) : Attempt ε Unit := ⟨.ok (), [⟨level, message⟩]⟩

def mapError (f : ε → ε') (x : Attempt ε α) : Attempt ε' α :=
  ⟨x.result.mapError f, x.log⟩

@[simp] theorem result_pure (a : α) : (pure a : Attempt ε α).result = .ok a := rfl
@[simp] theorem log_pure (a : α) : (pure a : Attempt ε α).log = [] := rfl
@[simp] theorem result_throw (e : ε) : (throw e : Attempt ε α).result = .error e := rfl
@[simp] theorem log_throw (e : ε) : (throw e : Attempt ε α).log = [] := rfl
@[simp] theorem result_ofExcept (x : Except ε α) : (ofExcept x).result = x := rfl
@[simp] theorem log_ofExcept (x : Except ε α) : (ofExcept x).log = [] := rfl
@[simp] theorem result_note (l : Level) (m : String) : (note l m : Attempt ε Unit).result = .ok () := rfl
@[simp] theorem log_note (l : Level) (m : String) : (note l m : Attempt ε Unit).log = [⟨l, m⟩] := rfl
@[simp] theorem result_mapError (f : ε → ε') (x : Attempt ε α) :
    (x.mapError f).result = x.result.mapError f := rfl
@[simp] theorem log_mapError (f : ε → ε') (x : Attempt ε α) : (x.mapError f).log = x.log := rfl

/-- Results combine as `Except` values do. -/
@[simp] theorem result_bind (x : Attempt ε α) (f : α → Attempt ε β) :
    (x >>= f).result = x.result >>= fun a => (f a).result := by
  obtain ⟨r, l⟩ := x
  cases r <;> rfl

theorem log_bind (x : Attempt ε α) (f : α → Attempt ε β) :
    (x >>= f).log = x.log ++ match x.result with
      | .error _ => []
      | .ok a => (f a).log := by
  obtain ⟨r, l⟩ := x
  cases r <;> simp [bind]

end Attempt

/-- A computation on a state: it ends in a new state, whether it fails or not. -/
def Edit (σ ε α : Type) : Type := σ → σ × Attempt ε α

namespace Edit

variable {σ ε ε' α β : Type}

/-- The state left behind and the attempt. -/
def run (x : Edit σ ε α) (s : σ) : σ × Attempt ε α := x s

instance : Monad (Edit σ ε) where
  pure a := fun s => (s, pure a)
  bind x f := fun s =>
    match (x s).2.result with
    | .error e => ((x s).1, ⟨.error e, (x s).2.log⟩)
    | .ok a =>
      let next := f a (x s).1
      (next.1, ⟨next.2.result, (x s).2.log ++ next.2.log⟩)

/-- The current state. -/
def get : Edit σ ε σ := fun s => (s, pure s)

/-- Replaces the state. -/
def set (s : σ) : Edit σ ε Unit := fun _ => (s, pure ())

def modify (f : σ → σ) : Edit σ ε Unit := fun s => (f s, pure ())

def fail (e : ε) : Edit σ ε α := fun s => (s, throw e)

/-- An attempt that leaves the state alone. -/
def ofAttempt (x : Attempt ε α) : Edit σ ε α := fun s => (s, x)

instance : MonadLift (Attempt ε) (Edit σ ε) := ⟨ofAttempt⟩

def note (level : Level) (message : String) : Edit σ ε Unit := ofAttempt (.note level message)

/-- The outcome of an edit as a value: it goes on after a failure too. -/
def attempt (x : Edit σ ε α) : Edit σ ε' (Except ε α) :=
  fun s => ((x s).1, ⟨.ok (x s).2.result, (x s).2.log⟩)

/-- The state that an edit leaves behind when it does not fail. -/
def exec (x : Edit σ ε α) (s : σ) : Attempt ε σ :=
  ⟨(x s).2.result.map fun _ => (x s).1, (x s).2.log⟩

/-- An edit of the first part of a state. -/
def onFirst {τ : Type} (x : Edit σ ε α) : Edit (σ × τ) ε α :=
  fun s => (((x s.1).1, s.2), (x s.1).2)

def mapError (f : ε → ε') (x : Edit σ ε α) : Edit σ ε' α :=
  fun s => ((x s).1, (x s).2.mapError f)

@[simp] theorem run_pure (a : α) (s : σ) : (pure a : Edit σ ε α).run s = (s, pure a) := rfl
@[simp] theorem run_get (s : σ) : (get : Edit σ ε σ).run s = (s, pure s) := rfl
@[simp] theorem run_set (s t : σ) : (set t : Edit σ ε Unit).run s = (t, pure ()) := rfl
@[simp] theorem run_modify (f : σ → σ) (s : σ) :
    (modify f : Edit σ ε Unit).run s = (f s, pure ()) := rfl
@[simp] theorem run_fail (e : ε) (s : σ) : (fail e : Edit σ ε α).run s = (s, throw e) := rfl
@[simp] theorem run_ofAttempt (x : Attempt ε α) (s : σ) : (ofAttempt x).run s = (s, x) := rfl

/-- The second step starts from the state that the first one left, if the first did not fail. -/
theorem run_bind (x : Edit σ ε α) (f : α → Edit σ ε β) (s : σ) :
    (x >>= f).run s = match (x.run s).2.result with
      | .error e => ((x.run s).1, ⟨.error e, (x.run s).2.log⟩)
      | .ok a => (((f a).run (x.run s).1).1,
          ⟨((f a).run (x.run s).1).2.result,
            (x.run s).2.log ++ ((f a).run (x.run s).1).2.log⟩) := rfl

end Edit

end XslLowering
