import XslLowering.Attempt

/-!
# Results of attempts and edits

`Edit.outcome` is what an edit leaves behind and gives, without what it logs. Outcomes of steps that
follow each other are put together by `Edit.andThen` (`Edit.outcome_bind`), and so are those of a
loop (`Edit.outcome_forM_cons`).
-/

namespace XslLowering

@[simp] theorem mapError_ok {ε ε' α : Type} (f : ε → ε') (a : α) :
    (Except.ok a : Except ε α).mapError f = .ok a := rfl
@[simp] theorem mapError_error {ε ε' α : Type} (f : ε → ε') (e : ε) :
    (Except.error e : Except ε α).mapError f = .error (f e) := rfl

theorem mapError_eq_ok {ε ε' α : Type} {x : Except ε α} {f : ε → ε'} {a : α} :
    x.mapError f = .ok a ↔ x = .ok a := by
  cases x <;> simp

theorem exists_of_map_eq_ok {ε α β : Type} {x : Except ε α} {f : α → β} {b : β}
    (h : x.map f = .ok b) : ∃ a, x = .ok a ∧ f a = b := by
  cases x with
  | error e => cases h
  | ok a => exact ⟨a, rfl, Except.ok.inj h⟩

theorem map_eq_map_cases {ε α β : Type} {x y : Except ε α} {f : α → β} (h : x.map f = y.map f) :
    (∃ e, x = .error e ∧ y = .error e) ∨ ∃ a b, x = .ok a ∧ y = .ok b ∧ f a = f b := by
  cases x with
  | error e =>
    cases y with
    | error e' =>
      cases h
      exact .inl ⟨e, rfl, rfl⟩
    | ok b => cases h
  | ok a =>
    cases y with
    | error e' => cases h
    | ok b => exact .inr ⟨a, b, rfl, rfl, Except.ok.inj h⟩

theorem Attempt.exists_of_result_bind {ε α β : Type} {x : Attempt ε α} {f : α → Attempt ε β} {b : β}
    (h : (x >>= f).result = .ok b) : ∃ a, x.result = .ok a ∧ (f a).result = .ok b := by
  rw [Attempt.result_bind] at h
  cases hx : x.result with
  | error e =>
    rw [hx] at h
    cases h
  | ok a =>
    rw [hx] at h
    exact ⟨a, rfl, h⟩

/-- A loop whose steps do not fail. -/
theorem Attempt.result_foldlM {ε α β : Type} {step : β → α → Attempt ε β} {next : β → α → β}
    (h : ∀ b a, (step b a).result = .ok (next b a)) (as : List α) (b : β) :
    (as.foldlM step b).result = .ok (as.foldl next b) := by
  induction as generalizing b with
  | nil => rfl
  | cons a as ih =>
    rw [List.foldlM_cons, Attempt.result_bind, h]
    exact ih (next b a)

namespace Edit

variable {σ ε α β : Type}

/-- The state that an edit leaves behind, and its result. -/
def outcome (x : Edit σ ε α) (s : σ) : σ × Except ε α := ((x.run s).1, (x.run s).2.result)

@[simp] theorem outcome_pure (a : α) (s : σ) : (pure a : Edit σ ε α).outcome s = (s, .ok a) := rfl
@[simp] theorem outcome_get (s : σ) : (get : Edit σ ε σ).outcome s = (s, .ok s) := rfl
@[simp] theorem outcome_set (s t : σ) : (set t : Edit σ ε Unit).outcome s = (t, .ok ()) := rfl
@[simp] theorem outcome_fail (e : ε) (s : σ) : (fail e : Edit σ ε α).outcome s = (s, .error e) := rfl
@[simp] theorem outcome_ofAttempt (x : Attempt ε α) (s : σ) :
    (ofAttempt x : Edit σ ε α).outcome s = (s, x.result) := rfl
@[simp] theorem outcome_note (l : Level) (m : String) (s : σ) :
    (note l m : Edit σ ε Unit).outcome s = (s, .ok ()) := rfl

/-- An edit whose outcome is taken as a value does not fail. -/
@[simp] theorem outcome_attempt {ε' : Type} (x : Edit σ ε α) (s : σ) :
    (x.attempt : Edit σ ε' (Except ε α)).outcome s = ((x.outcome s).1, .ok (x.outcome s).2) := rfl

/-- What comes out if a step with the given outcome is followed by another one. -/
def andThen (o : σ × Except ε α) (next : α → σ → σ × Except ε β) : σ × Except ε β :=
  match o with
  | (s, .error e) => (s, .error e)
  | (s, .ok a) => next a s

@[simp] theorem andThen_ok (s : σ) (a : α) (next : α → σ → σ × Except ε β) :
    andThen (s, .ok a) next = next a s := rfl
@[simp] theorem andThen_error (s : σ) (e : ε) (next : α → σ → σ × Except ε β) :
    andThen (s, .error e) next = (s, .error e) := rfl

/-- A step that is followed by a success has succeeded itself. -/
theorem exists_of_andThen_eq_ok {o : σ × Except ε α} {next : α → σ → σ × Except ε β} {s' : σ} {b : β}
    (h : andThen o next = (s', .ok b)) : ∃ s a, o = (s, .ok a) ∧ next a s = (s', .ok b) := by
  obtain ⟨s, result⟩ := o
  cases result with
  | error e => cases h
  | ok a => exact ⟨s, a, rfl, h⟩

@[simp] theorem andThen_return (o : σ × Except ε Unit) :
    (andThen o fun _ => (pure () : Edit σ ε Unit).outcome) = o := by
  obtain ⟨s, r⟩ := o
  cases r <;> rfl

@[simp] theorem outcome_bind (x : Edit σ ε α) (f : α → Edit σ ε β) (s : σ) :
    (x >>= f).outcome s = andThen (x.outcome s) fun a => (f a).outcome := by
  simp only [outcome, run_bind]
  cases (x.run s).2.result <;> rfl

/-- Naming errors differently is no matter for a success. -/
theorem outcome_mapError_eq_ok {ε' : Type} {f : ε → ε'} {x : Edit σ ε α} {s s' : σ} {a : α} :
    (x.mapError f).outcome s = (s', .ok a) ↔ x.outcome s = (s', .ok a) := by
  have h : (x.mapError f).outcome s = ((x.outcome s).1, (x.outcome s).2.mapError f) := rfl
  rw [h]
  obtain ⟨t, result⟩ := x.outcome s
  cases result <;> simp

@[simp] theorem outcome_forM_nil (f : α → Edit σ ε PUnit) (s : σ) :
    (List.forM [] f).outcome s = (s, .ok ()) := rfl

/-- A loop goes on from the state that its first step leaves, unless that fails. -/
@[simp] theorem outcome_forM_cons (f : α → Edit σ ε PUnit) (a : α) (as : List α) (s : σ) :
    (List.forM (a :: as) f).outcome s =
      andThen ((f a).outcome s) fun _ => (List.forM as f).outcome :=
  outcome_bind (f a) (fun _ => List.forM as f) s

theorem outcome_forM_append (f : α → Edit σ ε PUnit) (as bs : List α) (s : σ) :
    (List.forM (as ++ bs) f).outcome s =
      andThen ((List.forM as f).outcome s) fun _ => (List.forM bs f).outcome := by
  induction as generalizing s with
  | nil => rfl
  | cons a as ih =>
    rw [List.cons_append, outcome_forM_cons, outcome_forM_cons]
    obtain ⟨s', result⟩ := (f a).outcome s
    cases result with
    | error e => rfl
    | ok u => exact ih s'

/-- What every step of a loop keeps, the loop keeps. -/
theorem invariant_forM {I : σ → Prop} {f : α → Edit σ ε PUnit} {as : List α}
    (h : ∀ a ∈ as, ∀ s s', I s → (f a).outcome s = (s', .ok ()) → I s') {s s' : σ} (hs : I s)
    (hloop : (List.forM as f).outcome s = (s', .ok ())) : I s' := by
  induction as generalizing s with
  | nil =>
    cases hloop
    exact hs
  | cons a as ih =>
    rw [List.forall_mem_cons] at h
    rw [outcome_forM_cons] at hloop
    obtain ⟨t, _, ha, hloop⟩ := exists_of_andThen_eq_ok hloop
    exact ih h.2 (h.1 s t hs ha) hloop

/-- Where every step of a loop is a loop itself, it is one loop over all their steps. -/
theorem outcome_forM_flatMap {I : σ → Prop} {edit : α → Edit σ ε PUnit} {f : α → List β}
    {g : β → Edit σ ε PUnit} {as : List α}
    (h : ∀ a ∈ as, ∀ s, I s → (edit a).outcome s = ((f a).forM g).outcome s)
    (hI : ∀ a ∈ as, ∀ b ∈ f a, ∀ s s', I s → (g b).outcome s = (s', .ok ()) → I s')
    {s : σ} (hs : I s) : (as.forM edit).outcome s = ((as.flatMap f).forM g).outcome s := by
  induction as generalizing s with
  | nil => rfl
  | cons a as ih =>
    rw [List.forall_mem_cons] at h hI
    rw [List.flatMap_cons, outcome_forM_append, outcome_forM_cons, h.1 s hs]
    cases ha : ((f a).forM g).outcome s with
    | mk t result =>
      cases result with
      | error e => rfl
      | ok u => exact ih h.2 hI.2 (invariant_forM hI.1 hs ha)

end Edit

end XslLowering
