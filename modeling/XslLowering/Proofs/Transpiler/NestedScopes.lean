import XslLowering.Proofs.Transpiler.Dispatching

/-!
# Nested scopes of callbacks

Code runs on the one slot that holds the active registry, and so does the code of the callbacks that it
calls. `Code.observe` runs code in the same way, and notes every answer, and for every block what was
active before and after it.

`Code.expected` says what is to be noted by the blocks around a call alone. It keeps no slot: the
registries of the blocks that are running are handed down, and what a block hands down ends with it.

* `erase_observe`: a run that is watched is a run;
* `outcome_observe`: what is noted is what is expected;
* `outcome_run_of_le`: where there is room for all callbacks, more room changes nothing;
* `run_agrees_with_nesting`: all of this together.
-/

namespace XslLowering

namespace Callback

open Stylesheet (Error)

/-- What is noted of a run. -/
inductive Event where
  | answered (name : String) (args : List Value) (answer : Answer)
  /-- The end of a block, with what was active before the block and what is active after it. -/
  | left (before after : Active)

/-- What a run comes to, with what was noted before. -/
abbrev Ending := Except (List Event × Abort) (List Event × Answer)

namespace Ending

/-- Puts events before those of an ending. -/
def prepend (events : List Event) : Ending → Ending
  | .error (more, abort) => .error (events ++ more, abort)
  | .ok (more, result) => .ok (events ++ more, result)

def events : Ending → List Event
  | .error (noted, _) => noted
  | .ok (noted, _) => noted

/-- The ending without what was noted. -/
def result : Ending → Except Abort Answer
  | .error (_, abort) => .error abort
  | .ok (_, result) => .ok result

@[simp] theorem result_error (events : List Event) (abort : Abort) :
    result (.error (events, abort)) = .error abort := rfl
@[simp] theorem result_ok (events : List Event) (answer : Answer) :
    result (.ok (events, answer)) = .ok answer := rfl

@[simp] theorem events_prepend (events : List Event) (ending : Ending) :
    (prepend events ending).events = events ++ ending.events := by
  obtain ⟨more, abort⟩ | ⟨more, result⟩ := ending <;> rfl

@[simp] theorem result_prepend (events : List Event) (ending : Ending) :
    (prepend events ending).result = ending.result := by
  obtain ⟨more, abort⟩ | ⟨more, result⟩ := ending <;> rfl

end Ending

/-- A run that notes events. -/
abbrev Watched := Edit Active (List Event × Abort) (List Event × Answer)

/-- A run after events that were noted before. -/
def Watched.following (events : List Event) (x : Watched) : Watched := do
  let ending ← x.attempt
  Edit.ofAttempt (.ofExcept (Ending.prepend events ending))

@[simp] theorem outcome_following (events : List Event) (x : Watched) (active : Active) :
    (x.following events).outcome active =
      ((x.outcome active).1, Ending.prepend events (x.outcome active).2) := by
  simp [Watched.following]

namespace Code

/-- Induction over code, apart from the code of the callbacks in it. -/
@[elab_as_elim, induction_eliminator]
theorem induction {motive : Code → Prop} (ret : ∀ result, motive (.ret result))
    (panic : ∀ message, motive (.panic message))
    (dispatch : ∀ name args next, (∀ answer, motive (next answer)) → motive (.dispatch name args next))
    (block : ∀ callbacks body next, motive body → (∀ result, motive (next result)) →
      motive (.block callbacks body next))
    (recover : ∀ body next, motive body → (∀ ending, motive (next ending)) →
      motive (.recover body next)) : ∀ code, motive code
  | .ret result => ret result
  | .panic message => panic message
  | .dispatch name args next =>
    dispatch name args next fun answer => induction ret panic dispatch block recover (next answer)
  | .block callbacks body next =>
    block callbacks body next (induction ret panic dispatch block recover body)
      fun result => induction ret panic dispatch block recover (next result)
  | .recover body next =>
    recover body next (induction ret panic dispatch block recover body)
      fun ending => induction ret panic dispatch block recover (next ending)

/-! ## Runs that are watched -/

/-- Answers a call as `answerBy` does. -/
def watchCall (enter : Code → Watched) (args : List Value) : Except Error Callback → Watched
  | .error e => return ([], .error e)
  | .ok callback => enter (callback args)

/-- Runs code as `runWith` does, and notes every answer and every end of a block. -/
def observeWith (enter : Code → Watched) : Code → Watched
  | .ret result => return ([], result)
  | .panic message => Edit.fail ([], .panicked message)
  | .dispatch name args next => do
    let active ← Edit.get
    let (events, answer) ← watchCall enter args (answering active name)
    ((next answer).observeWith enter).following (events ++ [.answered name args answer])
  | .block callbacks body next => do
    let before ← Edit.get
    let ending ← (within ⟨callbacks⟩ (body.observeWith enter)).attempt
    let after ← Edit.get
    match ending with
    | .error (events, abort) => Edit.fail (events ++ [.left before after], abort)
    | .ok (events, result) =>
      ((next result).observeWith enter).following (events ++ [.left before after])
  | .recover body next => do
    match ← (body.observeWith enter).attempt with
    | .ok (events, result) => ((next (.ok result)).observeWith enter).following events
    | .error (events, .panicked message) =>
      ((next (.error message)).observeWith enter).following events
    | .error (events, .exhausted) => Edit.fail (events, .exhausted)

/-- Runs the code of a callback as `enter` does. -/
def observeEnter : Nat → Code → Watched
  | 0, _ => Edit.fail ([], .exhausted)
  | depth + 1, code => code.observeWith (observeEnter depth)

/-- Runs code as `run` does, and notes every answer and every end of a block. -/
def observe (depth : Nat) (code : Code) : Watched := code.observeWith (observeEnter depth)

/-- Forgets what was noted. -/
def erase (o : Active × Ending) : Active × Except Abort Answer := (o.1, o.2.result)

theorem erase_observeWith {watch : Code → Watched} {enter : Code → Edit Active Abort Answer}
    (h : ∀ code active, erase ((watch code).outcome active) = (enter code).outcome active)
    (code : Code) (active : Active) :
    erase ((code.observeWith watch).outcome active) = (code.runWith enter).outcome active := by
  induction code generalizing active with
  | ret result => rfl
  | panic message => rfl
  | dispatch name args next ih =>
    cases hfind : answering active name with
    | error e =>
      simp [observeWith, watchCall, runWith, dispatchWith, answerBy, hfind, ← ih, erase]
    | ok callback =>
      have hcall := h (callback args) active
      simp only [observeWith, watchCall, runWith, dispatchWith, answerBy, hfind, Edit.outcome_bind,
        Edit.outcome_get, Edit.andThen_ok, Edit.outcome_note, ← hcall]
      obtain ⟨after, ⟨events, abort⟩ | ⟨events, answer⟩⟩ := (watch (callback args)).outcome active
      · rfl
      · simp [erase, ← ih]
  | block callbacks body next ihbody ihnext =>
    have hbody := ihbody (some ⟨callbacks⟩)
    simp only [observeWith, runWith, Edit.outcome_bind, Edit.outcome_get, Edit.andThen_ok,
      Edit.outcome_attempt, outcome_within, ← hbody]
    obtain ⟨after, ⟨events, abort⟩ | ⟨events, result⟩⟩ :=
      (body.observeWith watch).outcome (some ⟨callbacks⟩)
    · rfl
    · simp [erase, ← ihnext]
  | recover body next ihbody ihnext =>
    simp only [observeWith, runWith, Edit.outcome_bind, Edit.outcome_attempt, Edit.andThen_ok,
      ← ihbody]
    obtain ⟨after, ⟨events, message | _⟩ | ⟨events, result⟩⟩ :=
      (body.observeWith watch).outcome active
    · simp [erase, ← ihnext]
    · rfl
    · simp [erase, ← ihnext]

theorem erase_observeEnter (depth : Nat) (code : Code) (active : Active) :
    erase ((observeEnter depth code).outcome active) = (enter depth code).outcome active := by
  induction depth generalizing code active with
  | zero => rfl
  | succ depth ih => exact erase_observeWith ih code active

/-- A run that is watched is a run. -/
theorem erase_observe (depth : Nat) (code : Code) (active : Active) :
    erase ((code.observe depth).outcome active) = (code.run depth).outcome active :=
  erase_observeWith (erase_observeEnter depth) code active

/-! ## What is to be noted -/

/-- What is to come of a call in blocks of these registries, the innermost first. -/
def expectedCall (enter : List Registry → Code → Ending) (running : List Registry)
    (args : List Value) : Except Error Callback → Ending
  | .error e => .ok ([], .error e)
  | .ok callback => enter running (callback args)

/-- What is to come of code in blocks of these registries, the innermost first. -/
def expectedWith (enter : List Registry → Code → Ending) : List Registry → Code → Ending
  | _, .ret result => .ok ([], result)
  | _, .panic message => .error ([], .panicked message)
  | running, .dispatch name args next =>
    match expectedCall enter running args (answering running.head? name) with
    | .error (events, abort) => .error (events, abort)
    | .ok (events, answer) =>
      Ending.prepend (events ++ [.answered name args answer]) (expectedWith enter running (next answer))
  | running, .block callbacks body next =>
    match expectedWith enter (⟨callbacks⟩ :: running) body with
    | .error (events, abort) => .error (events ++ [.left running.head? running.head?], abort)
    | .ok (events, result) =>
      Ending.prepend (events ++ [.left running.head? running.head?])
        (expectedWith enter running (next result))
  | running, .recover body next =>
    match expectedWith enter running body with
    | .ok (events, result) => Ending.prepend events (expectedWith enter running (next (.ok result)))
    | .error (events, .panicked message) =>
      Ending.prepend events (expectedWith enter running (next (.error message)))
    | .error (events, .exhausted) => .error (events, .exhausted)

/-- What is to come of the code of a callback. -/
def expectedEnter : Nat → List Registry → Code → Ending
  | 0, _, _ => .error ([], .exhausted)
  | depth + 1, running, code => expectedWith (expectedEnter depth) running code

/-- What is to come of code in blocks of these registries, the innermost first, where there is room for
`depth` callbacks inside one another. -/
def expected (depth : Nat) (running : List Registry) (code : Code) : Ending :=
  expectedWith (expectedEnter depth) running code

theorem outcome_observeWith {watch : Code → Watched} {enter : List Registry → Code → Ending}
    (h : ∀ code running, (watch code).outcome running.head? = (running.head?, enter running code))
    (code : Code) (running : List Registry) :
    (code.observeWith watch).outcome running.head? =
      (running.head?, expectedWith enter running code) := by
  induction code generalizing running with
  | ret result => rfl
  | panic message => rfl
  | dispatch name args next ih =>
    have hcall : (watchCall watch args (answering running.head? name)).outcome running.head? =
        (running.head?, expectedCall enter running args (answering running.head? name)) := by
      cases answering running.head? name with
      | error e => rfl
      | ok callback => exact h (callback args) running
    simp only [observeWith, expectedWith, Edit.outcome_bind, Edit.outcome_get, Edit.andThen_ok, hcall]
    obtain ⟨events, abort⟩ | ⟨events, answer⟩ :=
      expectedCall enter running args (answering running.head? name)
    · rfl
    · simp only [Edit.andThen_ok, outcome_following, ih]
  | block callbacks body next ihbody ihnext =>
    -- the body starts with the registry of the block in the slot, however many are running
    have hbody := ihbody (⟨callbacks⟩ :: running)
    rw [List.head?_cons] at hbody
    simp only [observeWith, expectedWith, Edit.outcome_bind, Edit.outcome_attempt, Edit.outcome_get,
      Edit.andThen_ok, outcome_within, hbody]
    obtain ⟨events, abort⟩ | ⟨events, result⟩ := expectedWith enter (⟨callbacks⟩ :: running) body
    · rfl
    · simp only [outcome_following, ihnext]
  | recover body next ihbody ihnext =>
    simp only [observeWith, expectedWith, Edit.outcome_bind, Edit.outcome_attempt, ihbody,
      Edit.andThen_ok]
    obtain ⟨events, message | _⟩ | ⟨events, result⟩ := expectedWith enter running body
    · simp only [outcome_following, ihnext]
    · rfl
    · simp only [outcome_following, ihnext]

theorem outcome_observeEnter (depth : Nat) (code : Code) (running : List Registry) :
    (observeEnter depth code).outcome running.head? =
      (running.head?, expectedEnter depth running code) := by
  induction depth generalizing code running with
  | zero => rfl
  | succ depth ih => exact outcome_observeWith ih code running

/-- A run leaves the slot as it was, and what is noted is what is expected in the blocks around it. -/
theorem outcome_observe (depth : Nat) (code : Code) (running : List Registry) :
    (code.observe depth).outcome running.head? = (running.head?, code.expected depth running) :=
  outcome_observeWith (outcome_observeEnter depth) code running

theorem left_expectedWith {enter : List Registry → Code → Ending} {before after : Active}
    (h : ∀ code running, .left before after ∈ (enter running code).events → after = before)
    {code : Code} {running : List Registry}
    (hleft : .left before after ∈ (expectedWith enter running code).events) : after = before := by
  induction code generalizing running with
  | ret result => cases hleft
  | panic message => cases hleft
  | dispatch name args next ih =>
    have hcall : .left before after ∈
        (expectedCall enter running args (answering running.head? name)).events → after = before := by
      cases answering running.head? name with
      | error e => exact fun hmem => nomatch hmem
      | ok callback => exact h (callback args) running
    rw [expectedWith] at hleft
    cases hend : expectedCall enter running args (answering running.head? name) with
    | error aborted =>
      rw [hend] at hleft hcall
      exact hcall hleft
    | ok answered =>
      rw [hend] at hleft hcall
      simp only [Ending.events_prepend, List.mem_append, List.mem_singleton, reduceCtorEq,
        or_false] at hleft
      exact hleft.elim hcall (ih _)
  | block callbacks body next ihbody ihnext =>
    have hinside := @ihbody (⟨callbacks⟩ :: running)
    rw [expectedWith] at hleft
    cases hbody : expectedWith enter (⟨callbacks⟩ :: running) body with
    | error aborted =>
      rw [hbody] at hleft hinside
      rcases List.mem_append.1 hleft with hleft | hleft
      · exact hinside hleft
      · cases List.mem_singleton.1 hleft
        rfl
    | ok returned =>
      rw [hbody] at hleft hinside
      simp only [Ending.events_prepend, List.mem_append, List.mem_singleton] at hleft
      rcases hleft with (hleft | hleft) | hleft
      · exact hinside hleft
      · cases hleft
        rfl
      · exact ihnext _ hleft
  | recover body next ihbody ihnext =>
    have hinside := @ihbody running
    rw [expectedWith] at hleft
    generalize expectedWith enter running body = ending at hleft hinside
    obtain ⟨events, message | _⟩ | ⟨events, result⟩ := ending
    · simp only [Ending.events_prepend, List.mem_append] at hleft
      exact hleft.elim hinside (ihnext _)
    · exact hinside hleft
    · simp only [Ending.events_prepend, List.mem_append] at hleft
      exact hleft.elim hinside (ihnext _)

theorem left_expectedEnter {depth : Nat} {code : Code} {running : List Registry}
    {before after : Active} (hleft : .left before after ∈ (expectedEnter depth running code).events) :
    after = before := by
  induction depth generalizing code running with
  | zero => cases hleft
  | succ depth ih => exact left_expectedWith (fun code running => ih) hleft

/-- What is active after a block is to be what was active before. -/
theorem left_expected {depth : Nat} {code : Code} {running : List Registry} {before after : Active}
    (hleft : .left before after ∈ (code.expected depth running).events) : after = before :=
  left_expectedWith (fun _ _ => left_expectedEnter) hleft

/-! ## Room for callbacks -/

theorem andThen_of_settled {α β : Type} {o more : Active × Except Abort α}
    {next next' : α → Active → Active × Except Abort β} (ho : o.2 ≠ .error .exhausted → more = o)
    (hnext : ∀ a active, (next a active).2 ≠ .error .exhausted → next' a active = next a active)
    (hs : (Edit.andThen o next).2 ≠ .error .exhausted) :
    Edit.andThen more next' = Edit.andThen o next := by
  obtain ⟨active, abort | a⟩ := o
  · have hne : abort ≠ .exhausted := fun h => hs (by rw [h, Edit.andThen_error])
    rw [ho fun h => hne (Except.error.inj h)]
    rfl
  · rw [ho (by simp)]
    exact hnext a active hs

theorem outcome_runWith_of_settled {enter more : Code → Edit Active Abort Answer}
    (h : ∀ code active, ((enter code).outcome active).2 ≠ .error .exhausted →
      (more code).outcome active = (enter code).outcome active)
    {code : Code} {active : Active}
    (hs : ((code.runWith enter).outcome active).2 ≠ .error .exhausted) :
    (code.runWith more).outcome active = (code.runWith enter).outcome active := by
  induction code generalizing active with
  | ret result => rfl
  | panic message => rfl
  | dispatch name args next ih =>
    simp only [runWith, Edit.outcome_bind] at hs ⊢
    refine andThen_of_settled (fun hcall => ?_) (fun answer active hs => ih answer hs) hs
    simp only [dispatchWith, Edit.outcome_bind, Edit.outcome_get, Edit.andThen_ok] at hcall ⊢
    cases hfind : answering active name with
    | error e => rfl
    | ok callback =>
      rw [hfind] at hcall
      exact h (callback args) active hcall
  | block callbacks body next ihbody ihnext =>
    simp only [runWith, Edit.outcome_bind] at hs ⊢
    refine andThen_of_settled (fun hbody => ?_) (fun result active hs => ihnext result hs) hs
    rw [outcome_within] at hbody ⊢
    rw [outcome_within, ihbody hbody]
  | recover body next ihbody ihnext =>
    have hbody := @ihbody active
    simp only [runWith, Edit.outcome_bind, Edit.outcome_attempt, Edit.andThen_ok] at hs ⊢
    generalize (body.runWith enter).outcome active = o at hs hbody
    obtain ⟨after, (message | _) | result⟩ := o
    · rw [hbody (by simp)]
      exact ihnext _ hs
    · exact absurd rfl hs
    · rw [hbody (by simp)]
      exact ihnext _ hs

theorem outcome_enter_of_le {depth more : Nat} (hle : depth ≤ more) {code : Code} {active : Active}
    (hs : ((enter depth code).outcome active).2 ≠ .error .exhausted) :
    (enter more code).outcome active = (enter depth code).outcome active := by
  induction depth generalizing more code active with
  | zero => exact absurd rfl hs
  | succ depth ih =>
    obtain ⟨more, rfl⟩ := Nat.exists_eq_add_of_le' hle
    exact outcome_runWith_of_settled
      (fun code active hs => ih (Nat.le_add_left depth more) hs) hs

/-- Where there is room for all callbacks, more room changes nothing. -/
theorem outcome_run_of_le {depth more : Nat} (hle : depth ≤ more) {code : Code} {active : Active}
    (hs : ((code.run depth).outcome active).2 ≠ .error .exhausted) :
    (code.run more).outcome active = (code.run depth).outcome active :=
  outcome_runWith_of_settled (fun _ _ hs => outcome_enter_of_le hle hs) hs

end Code

end Callback

namespace Transpiler

open Callback

/-- Scopes are properly nested. Whatever code does, and the callbacks that it calls, every call is
answered by the registry of the innermost block that is running, or by none, and what is active after
a block is what was active before it, however the block ends. A block of a transpiler is one of its
registry. Only a lack of room for callbacks inside one another can break a run off. -/
theorem run_agrees_with_nesting (depth : Nat) (p : Code) (running : List Registry) :
    (p.run depth).outcome running.head? = (running.head?, (p.expected depth running).result) ∧
    (p.observe depth).outcome running.head? = (running.head?, p.expected depth running) ∧
    (∀ before after, .left before after ∈ Ending.events ((p.observe depth).outcome running.head?).2 →
      after = before) ∧
    (∀ t : Transpiler, (t.withCallbacks (p.run depth)).outcome running.head? =
      (running.head?, (p.expected depth (t.callbacks :: running)).result)) ∧
    ∀ more, depth ≤ more → ((p.run depth).outcome running.head?).2 ≠ .error .exhausted →
      (p.run more).outcome running.head? = (p.run depth).outcome running.head? := by
  have hrun (running : List Registry) : (p.run depth).outcome running.head? =
      (running.head?, (p.expected depth running).result) := by
    rw [← Code.erase_observe, Code.outcome_observe]
    rfl
  refine ⟨hrun running, Code.outcome_observe depth p running, fun before after hleft => ?_,
    fun t => ?_, fun more hle hs => Code.outcome_run_of_le hle hs⟩
  · rw [Code.outcome_observe] at hleft
    exact Code.left_expected hleft
  · rw [withCallbacks, outcome_within, ← List.head?_cons, hrun]

/-- A registry with one callback, which answers with a text. -/
def namedRegistry (text : String) : Registry :=
  Registry.empty.register "which" (.native fun _ => .ok (.string text))

/-- A registry with a second callback, which opens a block of another registry and panics in it. -/
def panickingRegistry : Registry :=
  (namedRegistry "outer").register "through" fun _ =>
    .block (namedRegistry "inner").callbacks (.dispatch "which" [] fun _ => .panic "lost") .ret

/-- A panic in a block of a callback is caught in the block that has called it; there a call is
answered by its registry again, and after it by none. -/
def panicInside : Code :=
  .block panickingRegistry.callbacks
    (.recover (.dispatch "through" [] .ret) fun _ => .dispatch "which" [] .ret)
    fun _ => .dispatch "which" [] .ret

theorem run_panicInside :
    Ending.events ((panicInside.observe 2).outcome none).2 =
      [.answered "which" [] (.ok (.string "inner")),
        .left (some panickingRegistry) (some panickingRegistry),
        .answered "which" [] (.ok (.string "outer")), .left none none,
        .answered "which" [] (.error .noActiveCallbacks)] ∧
      (∀ before after, .left before after ∈ Ending.events ((panicInside.observe 2).outcome none).2 →
        after = before) ∧
      (panicInside.run 5).outcome none = (none, .ok (.error .noActiveCallbacks)) := by
  obtain ⟨hrun, hobserve, hleft, -, hmore⟩ := run_agrees_with_nesting 2 panicInside []
  rw [List.head?_nil] at hrun hobserve hleft hmore
  have hsettled : ((panicInside.run 2).outcome none).2 ≠ .error .exhausted := by
    rw [hrun]
    exact fun h => nomatch h
  refine ⟨?_, hleft, ?_⟩
  · rw [hobserve]
    rfl
  · rw [hmore 5 (by decide) hsettled, hrun]
    rfl

end Transpiler

end XslLowering
