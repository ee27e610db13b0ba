import XslLowering.Cache
import XslLowering.Proofs.Attempt

/-!
# Fetches that run at the same time

`Cache.fetch` looks for a key, computes a text if there is none, and keeps it. Only looking and
keeping touch the cache, each at once; while a fetch computes, others can look and keep, and so can
fetches in its own computation. `Step` is one such step of one fetch, and `Run` is any sequence of
them: all ways in which fetches can be interleaved.

* `Run.get?_cache`: what is stored first under a key stays;
* `Run.get?_of_answer`: it is what every fetch for the key gives;
* `Run.ends_once`: a fetch keeps something or fails, not both;
* `fetches_agree` puts this together, and adds when a text is computed again;
* `Plays.fetch`: fetches made one after the other, and inside each other, are one of the runs;
* `Plays.fetch_agrees`: so they agree as well.
-/

namespace XslLowering.Cache

variable {σ ε : Type}

theorem get?_store_or (c : Cache) (key value k : String) :
    (c.store key value).get? k = (c.get? k).or (if key = k then some value else none) := by
  show (c.entries.insertIfNew key value).get? k = (c.entries.get? k).or _
  cases hkey : c.entries.get? key with
  | some old =>
    have hold : c.entries.contains key = true := by rw [Dictionary.contains, hkey]; rfl
    rw [Dictionary.insertIfNew, if_pos hold]
    by_cases hk : key = k
    · rw [← hk, hkey, Option.some_or]
    · rw [if_neg hk, Option.or_none]
  | none =>
    have hnew : ¬c.entries.contains key = true := by rw [Dictionary.contains, hkey]; decide
    rw [Dictionary.insertIfNew, if_neg hnew, Dictionary.get?_insert]
    by_cases hk : key = k
    · rw [if_pos (beq_iff_eq.2 hk), if_pos hk, ← hk, hkey, Option.none_or]
    · rw [if_neg (mt beq_iff_eq.1 hk), if_neg hk, Option.or_none]

/-- Keeping a text gives what was there before, or else the text. -/
theorem outcome_keep (key value : String) (s : σ) (c : Cache) :
    (keep key value : Edit (σ × Cache) ε String).outcome (s, c) =
      ((s, c.store key value), .ok ((c.get? key).getD value)) := by
  have hmodify : (Edit.modify (fun (sc : σ × Cache) => (sc.1, sc.2.store key value)) :
      Edit (σ × Cache) ε Unit).outcome (s, c) = ((s, c.store key value), .ok ()) := rfl
  have hget : ((c.store key value).get? key).getD value = (c.get? key).getD value := by
    rw [get?_store_or, if_pos rfl]
    cases c.get? key <;> rfl
  simp [keep, hmodify, hget]

theorem outcome_fetch_of_some {key value : String} {c : Cache} (h : c.get? key = some value)
    (compute : Edit (σ × Cache) ε String) (s : σ) :
    (fetch key compute).outcome (s, c) = ((s, c), .ok value) := by
  simp [fetch, h]

theorem outcome_fetch_of_none {key : String} {c : Cache} (h : c.get? key = none)
    (compute : Edit (σ × Cache) ε String) (s : σ) :
    (fetch key compute).outcome (s, c) =
      Edit.andThen (compute.outcome (s, c)) fun value => (keep key value).outcome := by
  simp [fetch, h]

/-! ## Steps of fetches -/

/-- How far a fetch has come. -/
inductive Stage (ε : Type) where
  | computing
  | computed (value : String)
  | done (result : Except ε String)

def Stage.isDone : Stage ε → Bool
  | .done _ => true
  | _ => false

/-- A fetch for a key, and how far it has come. -/
structure Fetch (ε : Type) where
  key : String
  /-- The fetch whose computation has made this one. -/
  caller : Option Nat
  stage : Stage ε

/-- A cache, and the fetches that were made from it. A fetch goes by its number in this list. -/
structure Shared (ε : Type) where
  cache : Cache
  fetches : List (Fetch ε)

/-- What a fetch can do at once. -/
inductive Action (ε : Type) where
  | find (value : String)
  | miss
  | compute (value : String)
  | fail (error : ε)
  /-- Keeps a computed text and gives the text that is kept then. -/
  | keep (value answer : String)

/-- What a fetch, which goes by its number, has done for its key. -/
structure Event (ε : Type) where
  number : Nat
  key : String
  action : Action ε

namespace Shared

/-- A fetch can be made from outside or by a computation that goes on. -/
def Allows (s : Shared ε) (caller : Option Nat) : Prop :=
  ∀ i, caller = some i → ∃ f, s.fetches[i]? = some f ∧ f.stage = .computing

/-- A computation waits for the fetches that it has made. -/
def CalleesDone (s : Shared ε) (i : Nat) : Prop :=
  ∀ f ∈ s.fetches, f.caller = some i → f.stage.isDone = true

instance (s : Shared ε) (i : Nat) : Decidable (s.CalleesDone i) :=
  inferInstanceAs (Decidable (∀ f ∈ s.fetches, f.caller = some i → f.stage.isDone = true))

theorem allows_none (s : Shared ε) : s.Allows none := nofun

def make (s : Shared ε) (f : Fetch ε) : Shared ε := { s with fetches := s.fetches ++ [f] }

def move (s : Shared ε) (i : Nat) (f : Fetch ε) (stage : Stage ε) : Shared ε :=
  { s with fetches := s.fetches.set i { f with stage := stage } }

end Shared

/-- One step of one fetch, while all others wait. -/
inductive Step : Shared ε → Event ε → Shared ε → Prop
  | find {s : Shared ε} {key value : String} {caller : Option Nat} (hcaller : s.Allows caller)
      (hget : s.cache.get? key = some value) :
      Step s ⟨s.fetches.length, key, .find value⟩ (s.make ⟨key, caller, .done (.ok value)⟩)
  | miss {s : Shared ε} {key : String} {caller : Option Nat} (hcaller : s.Allows caller)
      (hget : s.cache.get? key = none) :
      Step s ⟨s.fetches.length, key, .miss⟩ (s.make ⟨key, caller, .computing⟩)
  | compute {s : Shared ε} {i : Nat} {f : Fetch ε} {value : String} (hf : s.fetches[i]? = some f)
      (hstage : f.stage = .computing) (hcallees : s.CalleesDone i) :
      Step s ⟨i, f.key, .compute value⟩ (s.move i f (.computed value))
  | fail {s : Shared ε} {i : Nat} {f : Fetch ε} {error : ε} (hf : s.fetches[i]? = some f)
      (hstage : f.stage = .computing) (hcallees : s.CalleesDone i) :
      Step s ⟨i, f.key, .fail error⟩ (s.move i f (.done (.error error)))
  | keep {s : Shared ε} {i : Nat} {f : Fetch ε} {value answer : String} {c : Cache}
      (hf : s.fetches[i]? = some f) (hstage : f.stage = .computed value)
      (hkeep : (Cache.keep f.key value : Edit (Unit × Cache) ε String).outcome ((), s.cache) =
        (((), c), .ok answer)) :
      Step s ⟨i, f.key, .keep value answer⟩
        { s.move i f (.done (.ok answer)) with cache := c }

/-- Steps one after the other, of any fetches in any order. -/
inductive Run (s : Shared ε) : List (Event ε) → Shared ε → Prop
  | nil : Run s [] s
  | snoc {m s' : Shared ε} {events : List (Event ε)} {e : Event ε} (hrun : Run s events m)
      (hstep : Step m e s') : Run s (events ++ [e]) s'

namespace Event

/-- What a fetch gives, where it succeeds. -/
def answer? (e : Event ε) : Option String :=
  match e.action with
  | .find value => some value
  | .keep _ answer => some answer
  | _ => none

/-- What a fetch wants to keep under a key. -/
def stored? (key : String) (e : Event ε) : Option String :=
  match e.action with
  | .keep value _ => if e.key = key then some value else none
  | _ => none

/-- Whether a computation for a key begins. -/
def misses (key : String) (e : Event ε) : Bool :=
  match e.action with
  | .miss => e.key == key
  | _ => false

def fails (e : Event ε) : Bool :=
  match e.action with
  | .fail _ => true
  | _ => false

/-- Whether a fetch that has begun to compute is over. -/
def ends (e : Event ε) : Bool :=
  match e.action with
  | .fail _ => true
  | .keep _ _ => true
  | _ => false

theorem key_of_misses {e : Event ε} {key : String} (h : e.misses key = true) : e.key = key := by
  obtain ⟨number, k, action⟩ := e
  cases action with
  | miss => exact beq_iff_eq.1 h
  | _ => cases h

theorem ends_of_fails {e : Event ε} (h : e.fails = true) : e.ends = true := by
  obtain ⟨number, key, action⟩ := e
  cases action with
  | fail error => rfl
  | _ => cases h

/-- A fetch that does not fail ends with an answer. -/
theorem exists_answer_of_ends {e : Event ε} (h : e.ends = true) (hfails : ¬e.fails = true) :
    ∃ answer, e.answer? = some answer := by
  obtain ⟨number, key, action⟩ := e
  cases action with
  | keep value answer => exact ⟨answer, rfl⟩
  | fail error => exact (hfails rfl).elim
  | _ => cases h

/-- A fetch stores something only if it ends, and does not fail. -/
theorem stored?_eq_none {e : Event ε} (h : e.ends = true → e.fails = true) :
    e.stored? e.key = none := by
  obtain ⟨number, key, action⟩ := e
  cases action with
  | keep value answer => cases h rfl
  | _ => rfl

end Event

/-! ## What is stored -/

namespace Step

variable {s s' : Shared ε} {e : Event ε}

/-- A step adds at most what its fetch wants to keep, where there is nothing yet. -/
theorem get?_cache (h : Step s e s') (key : String) :
    s'.cache.get? key = (s.cache.get? key).or (e.stored? key) := by
  cases h with
  | find => exact Option.or_none.symm
  | miss => exact Option.or_none.symm
  | compute => exact Option.or_none.symm
  | fail => exact Option.or_none.symm
  | keep hf hstage hkeep =>
    rw [outcome_keep] at hkeep
    cases hkeep
    exact get?_store_or ..

/-- What a fetch gives is in the cache then. -/
theorem get?_of_answer (h : Step s e s') {answer : String} (ha : e.answer? = some answer) :
    s'.cache.get? e.key = some answer := by
  cases h with
  | find hcaller hget =>
    cases ha
    exact hget
  | miss => cases ha
  | compute => cases ha
  | fail => cases ha
  | @keep i f value answer' c hf hstage hkeep =>
    cases ha
    rw [outcome_keep] at hkeep
    cases hkeep
    show (s.cache.store f.key value).get? f.key = _
    rw [get?_store_or, if_pos rfl]
    cases s.cache.get? f.key <;> rfl

/-- Only keeping changes the cache. -/
theorem cache_eq (h : Step s e s') (he : e.stored? e.key = none) : s'.cache = s.cache := by
  cases h with
  | find => rfl
  | miss => rfl
  | compute => rfl
  | fail => rfl
  | keep => simp [Event.stored?] at he

theorem get?_of_misses (h : Step s e s') {key : String} (he : e.misses key = true) :
    s.cache.get? key = none := by
  cases h with
  | miss hcaller hget => exact Event.key_of_misses he ▸ hget
  | find => cases he
  | compute => cases he
  | fail => cases he
  | keep => cases he

end Step

/-- What was stored first under a key: at the start, or by the first fetch that kept something. -/
def storedFirst? (c : Cache) (events : List (Event ε)) (key : String) : Option String :=
  (c.get? key).or (events.findSome? (·.stored? key))

namespace Run

variable {s s' : Shared ε} {events : List (Event ε)}

/-- What was stored first is what is there. -/
theorem get?_cache (h : Run s events s') (key : String) :
    s'.cache.get? key = storedFirst? s.cache events key := by
  induction h with
  | nil => exact Option.or_none.symm
  | @snoc m s' events e hrun hstep ih =>
    calc s'.cache.get? key
        = ((s.cache.get? key).or (events.findSome? (·.stored? key))).or (e.stored? key) := by
          rw [hstep.get?_cache, ih, storedFirst?]
      _ = storedFirst? s.cache (events ++ [e]) key := by
          rw [storedFirst?, List.findSome?_append, List.findSome?_singleton, Option.or_assoc]

/-- An entry never changes. -/
theorem get?_mono (h : Run s events s') {key value : String}
    (hget : s.cache.get? key = some value) : s'.cache.get? key = some value := by
  rw [h.get?_cache, storedFirst?, hget, Option.some_or]

/-- What a fetch has given stays in the cache. -/
theorem get?_of_answer (h : Run s events s') {e : Event ε} (he : e ∈ events) {answer : String}
    (ha : e.answer? = some answer) : s'.cache.get? e.key = some answer := by
  induction h with
  | nil => cases he
  | snoc hrun hstep ih =>
    rcases List.mem_append.1 he with he | he
    · rw [hstep.get?_cache, ih he, Option.some_or]
    · cases List.mem_singleton.1 he
      exact hstep.get?_of_answer ha

end Run

/-! ## How fetches end -/

namespace Step

variable {s s' : Shared ε} {e : Event ε}

/-- The fetch that takes a step is there afterwards, for the same key. If it has ended, it is done. -/
theorem fetch_of_event (h : Step s e s') :
    ∃ f, s'.fetches[e.number]? = some f ∧ f.key = e.key ∧
      (e.ends = true → f.stage.isDone = true) := by
  cases h with
  | find => exact ⟨_, List.getElem?_concat_length .., rfl, nofun⟩
  | miss => exact ⟨_, List.getElem?_concat_length .., rfl, nofun⟩
  | compute hf =>
    obtain ⟨hi, -⟩ := List.getElem?_eq_some_iff.1 hf
    exact ⟨_, List.getElem?_set_self hi, rfl, nofun⟩
  | fail hf =>
    obtain ⟨hi, -⟩ := List.getElem?_eq_some_iff.1 hf
    exact ⟨_, List.getElem?_set_self hi, rfl, fun _ => rfl⟩
  | keep hf =>
    obtain ⟨hi, -⟩ := List.getElem?_eq_some_iff.1 hf
    exact ⟨_, List.getElem?_set_self hi, rfl, fun _ => rfl⟩

/-- Every other fetch stays as it is. -/
theorem fetch_of_ne (h : Step s e s') {i : Nat} {f : Fetch ε} (hf : s.fetches[i]? = some f)
    (hi : e.number ≠ i) : s'.fetches[i]? = some f := by
  have hlt : i < s.fetches.length := (List.getElem?_eq_some_iff.1 hf).1
  cases h with
  | find => exact (List.getElem?_append_left hlt).trans hf
  | miss => exact (List.getElem?_append_left hlt).trans hf
  | compute => exact (List.getElem?_set_ne hi).trans hf
  | fail => exact (List.getElem?_set_ne hi).trans hf
  | keep => exact (List.getElem?_set_ne hi).trans hf

/-- A fetch that takes a step is new, or it was not done, and had the key. -/
theorem fetch_before (h : Step s e s') {f : Fetch ε} (hf : s.fetches[e.number]? = some f) :
    f.key = e.key ∧ f.stage.isDone = false := by
  have hnew (hlen : s.fetches[s.fetches.length]? = some f) : False := by
    rw [List.getElem?_eq_none (Nat.le_refl _)] at hlen
    cases hlen
  cases h with
  | find => exact (hnew hf).elim
  | miss => exact (hnew hf).elim
  | compute hf' hstage =>
    cases Option.some.inj (hf'.symm.trans hf)
    exact ⟨rfl, by rw [hstage]; rfl⟩
  | fail hf' hstage =>
    cases Option.some.inj (hf'.symm.trans hf)
    exact ⟨rfl, by rw [hstage]; rfl⟩
  | keep hf' hstage =>
    cases Option.some.inj (hf'.symm.trans hf)
    exact ⟨rfl, by rw [hstage]; rfl⟩

end Step

namespace Run

variable {s s' : Shared ε} {events : List (Event ε)}

/-- The fetches of a run are there afterwards, and those that have ended are done. -/
theorem fetch_of_event (h : Run s events s') {e : Event ε} (he : e ∈ events) :
    ∃ f, s'.fetches[e.number]? = some f ∧ f.key = e.key ∧
      (e.ends = true → f.stage.isDone = true) := by
  induction h with
  | nil => cases he
  | @snoc m s' events last hrun hstep ih =>
    rcases List.mem_append.1 he with he | he
    · obtain ⟨f, hf, hkey, hdone⟩ := ih he
      by_cases hlast : last.number = e.number
      · -- The fetch takes this step too, so it was not done before.
        rw [← hlast] at hf ⊢
        obtain ⟨hkey', hnot⟩ := hstep.fetch_before hf
        obtain ⟨f', hf', hkey'', -⟩ := hstep.fetch_of_event
        refine ⟨f', hf', hkey''.trans (hkey'.symm.trans hkey), fun hends => ?_⟩
        rw [hdone hends] at hnot
        cases hnot
      · exact ⟨f, hstep.fetch_of_ne hf hlast, hkey, hdone⟩
    · cases List.mem_singleton.1 he
      exact hstep.fetch_of_event

/-- What has ended takes no more steps. -/
theorem ne_of_ends {m : Shared ε} (h : Run s events m) {e last : Event ε} (he : e ∈ events)
    (hends : e.ends = true) (hstep : Step m last s') : last.number ≠ e.number := by
  intro heq
  obtain ⟨f, hf, -, hdone⟩ := h.fetch_of_event he
  obtain ⟨-, hnot⟩ := hstep.fetch_before (heq ▸ hf)
  rw [hdone hends] at hnot
  cases hnot

/-- A fetch ends in one way only. -/
theorem ends_once (h : Run s events s') {e e' : Event ε} (he : e ∈ events) (he' : e' ∈ events)
    (hends : e.ends = true) (hends' : e'.ends = true) (hnumber : e.number = e'.number) : e = e' := by
  induction h with
  | nil => cases he
  | @snoc m s' events last hrun hstep ih =>
    rcases List.mem_append.1 he with hold | hlast <;>
      rcases List.mem_append.1 he' with hold' | hlast'
    · exact ih hold hold'
    · cases List.mem_singleton.1 hlast'
      exact (hrun.ne_of_ends hold hends hstep hnumber.symm).elim
    · cases List.mem_singleton.1 hlast
      exact (hrun.ne_of_ends hold' hends' hstep hnumber).elim
    · rw [List.mem_singleton.1 hlast, List.mem_singleton.1 hlast']

/-- A run up to one of its events, and the step there. -/
theorem exists_step {n : Nat} (h : Run s events s') (hn : n < events.length) :
    ∃ m m', Run s (events.take n) m ∧ Step m events[n] m' := by
  induction h with
  | nil => cases hn
  | @snoc m s' events last hrun hstep ih =>
    rcases Nat.lt_or_ge n events.length with hlt | hge
    · obtain ⟨m₁, m₂, hrun', hstep'⟩ := ih hlt
      refine ⟨m₁, m₂, ?_, ?_⟩
      · rw [List.take_append_of_le_length (Nat.le_of_lt hlt)]
        exact hrun'
      · rw [List.getElem_append_left hlt]
        exact hstep'
    · have heq : n = events.length := by
        rw [List.length_append, List.length_singleton] at hn
        omega
      subst heq
      refine ⟨m, s', ?_, ?_⟩
      · rw [List.take_left]
        exact hrun
      · rw [List.getElem_concat_length rfl]
        exact hstep

theorem trans {m : Shared ε} {later : List (Event ε)} (h : Run s events m) (h' : Run m later s') :
    Run s (events ++ later) s' := by
  induction h' with
  | nil =>
    rw [List.append_nil]
    exact h
  | snoc hrun hstep ih =>
    rw [← List.append_assoc]
    exact .snoc ih hstep

theorem cons {m : Shared ε} {e : Event ε} (h : Step s e m) (h' : Run m events s') :
    Run s (e :: events) s' :=
  trans (.snoc .nil h) h'

end Run

/-- A computation for a key begins only when all earlier ones are over. -/
def Apart (key : String) (events : List (Event ε)) : Prop :=
  ∀ (n : Nat) (hn : n < events.length), events[n].misses key = true →
    ∀ e ∈ events.take n, e.misses key = true →
      ∃ e' ∈ events.take n, e'.number = e.number ∧ e'.ends = true

instance (key : String) (events : List (Event ε)) : Decidable (Apart key events) :=
  inferInstanceAs (Decidable (∀ (n : Nat) (hn : n < events.length), events[n].misses key = true →
    ∀ e ∈ events.take n, e.misses key = true →
      ∃ e' ∈ events.take n, e'.number = e.number ∧ e'.ends = true))

/-- However fetches are interleaved, an entry never changes; every fetch that succeeds gives what was
stored first under its key, and that is what is there in the end; the steps of a fetch that fails
leave the cache as it is; and if the computations for a key are apart, then one begins only when all
earlier ones have failed. -/
theorem fetches_agree {s s' : Shared ε} {events : List (Event ε)} (h : Run s events s') :
    (∀ key value, s.cache.get? key = some value → s'.cache.get? key = some value) ∧
    (∀ e ∈ events, ∀ answer, e.answer? = some answer →
      storedFirst? s.cache events e.key = some answer ∧ s'.cache.get? e.key = some answer) ∧
    (∀ failed ∈ events, failed.fails = true → ∀ e ∈ events, e.number = failed.number →
      ∀ m m', Step m e m' → m'.cache = m.cache) ∧
    (∀ key, Apart key events → ∀ (n : Nat) (hn : n < events.length), events[n].misses key = true →
      ∀ e ∈ events.take n, e.misses key = true →
        ∃ failed ∈ events.take n, failed.number = e.number ∧ failed.fails = true) := by
  refine ⟨fun key value => h.get?_mono, ?_, ?_, ?_⟩
  · intro e he answer ha
    have hget := h.get?_of_answer he ha
    exact ⟨(h.get?_cache e.key).symm.trans hget, hget⟩
  · intro failed hfailed hfails e he hnumber m m' hstep
    refine hstep.cache_eq (Event.stored?_eq_none fun hends => ?_)
    rw [h.ends_once he hfailed hends (Event.ends_of_fails hfails) hnumber]
    exact hfails
  · intro key hapart n hn hmiss e he hemiss
    obtain ⟨e', he', hnumber, hends⟩ := hapart n hn hmiss e he hemiss
    refine ⟨e', he', hnumber, Decidable.byContradiction fun hfails => ?_⟩
    -- It has given an answer then, which the next computation would have found.
    obtain ⟨answer, ha⟩ := Event.exists_answer_of_ends hends hfails
    obtain ⟨m, m', hrun, hstep⟩ := h.exists_step hn
    have hkey : e'.key = key := by
      obtain ⟨f, hf, hfkey, -⟩ := hrun.fetch_of_event he
      obtain ⟨f', hf', hfkey', -⟩ := hrun.fetch_of_event he'
      rw [hnumber, hf] at hf'
      cases hf'
      exact hfkey'.symm.trans (hfkey.trans (Event.key_of_misses hemiss))
    have hget := hrun.get?_of_answer he' ha
    rw [hkey, hstep.get?_of_misses hmiss] at hget
    cases hget

/-- A fetch of `a` in the computation of another one, and two fetches of `b` one after the other. -/
def nestedAndRepeated : List (Event String) :=
  [⟨0, "a", .miss⟩, ⟨1, "a", .miss⟩, ⟨2, "b", .miss⟩, ⟨1, "a", .compute "x"⟩,
    ⟨1, "a", .keep "x" "x"⟩, ⟨2, "b", .fail "broken"⟩, ⟨0, "a", .compute "y"⟩, ⟨3, "b", .miss⟩,
    ⟨0, "a", .keep "y" "x"⟩, ⟨3, "b", .compute "z"⟩, ⟨4, "a", .find "x"⟩, ⟨3, "b", .keep "z" "z"⟩]

/-- The inner fetch of `a` is the first to keep something, so all of them give that. The second
fetch of `b` computes because the first has failed. -/
theorem fetches_agree_nested_and_repeated :
    ∃ s', Run ⟨.empty, []⟩ nestedAndRepeated s' ∧ s'.cache.get? "a" = some "x" ∧
      Apart "b" nestedAndRepeated ∧
      ∃ failed ∈ nestedAndRepeated.take 7, failed.number = 2 ∧ failed.fails = true := by
  have hrun : ∃ s', Run ⟨.empty, []⟩ nestedAndRepeated s' := by
    have hinner : Shared.Allows (ε := String) ⟨.empty, [⟨"a", none, .computing⟩]⟩ (some 0) := by
      rintro i ⟨⟩
      exact ⟨_, rfl, rfl⟩
    refine ⟨_,
      .cons (.miss (Shared.allows_none _) rfl) <|
      .cons (.miss hinner rfl) <|
      .cons (.miss (Shared.allows_none _) rfl) <|
      .cons (.compute (f := ⟨"a", some 0, .computing⟩) rfl rfl ?_) <|
      .cons (.keep (f := ⟨"a", some 0, .computed "x"⟩) rfl rfl rfl) <|
      .cons (.fail (f := ⟨"b", none, .computing⟩) rfl rfl ?_) <|
      .cons (.compute (f := ⟨"a", none, .computing⟩) rfl rfl ?_) <|
      .cons (.miss (Shared.allows_none _) rfl) <|
      .cons (.keep (f := ⟨"a", none, .computed "y"⟩) rfl rfl rfl) <|
      .cons (.compute (f := ⟨"b", none, .computing⟩) rfl rfl ?_) <|
      .cons (.find (Shared.allows_none _) rfl) <|
      .cons (.keep (f := ⟨"b", none, .computed "z"⟩) rfl rfl rfl) .nil⟩
    all_goals decide
  have hapart : Apart "b" nestedAndRepeated := by
    decide
  obtain ⟨s', hrun⟩ := hrun
  obtain ⟨-, hanswers, -, hagain⟩ := fetches_agree hrun
  refine ⟨s', hrun, (hanswers ⟨0, "a", .keep "y" "x"⟩ ?_ "x" rfl).2, hapart,
    hagain "b" hapart 7 (by decide) rfl ⟨2, "b", .miss⟩ ?_ rfl⟩
  · simp [nestedAndRepeated]
  · simp [nestedAndRepeated]

/-! ## Fetches one after the other -/

/-- Every fetch was made from outside or by another one. -/
def Shared.Nested (s : Shared ε) : Prop :=
  ∀ f ∈ s.fetches, ∀ i, f.caller = some i → i < s.fetches.length

theorem Shared.Nested.make {s : Shared ε} (hs : s.Nested) {f : Fetch ε} (hf : s.Allows f.caller) :
    (s.make f).Nested := by
  intro g hg i hi
  have hlen : (s.make f).fetches.length = s.fetches.length + 1 := List.length_append
  rw [hlen]
  rcases List.mem_append.1 hg with hg | hg
  · exact Nat.lt_succ_of_lt (hs g hg i hi)
  · cases List.mem_singleton.1 hg
    obtain ⟨h, hh, -⟩ := hf i hi
    exact Nat.lt_succ_of_lt (List.getElem?_eq_some_iff.1 hh).1

theorem Shared.Nested.move {s : Shared ε} (hs : s.Nested) {i : Nat} {f : Fetch ε}
    (hf : s.fetches[i]? = some f) (stage : Stage ε) : (s.move i f stage).Nested := by
  intro g hg j hj
  have hlen : (s.move i f stage).fetches.length = s.fetches.length := List.length_set
  rw [hlen]
  rcases List.mem_or_eq_of_mem_set hg with hg | hg
  · exact hs g hg j hj
  · cases hg
    exact hs f (List.mem_of_getElem? hf) j hj

theorem Run.nested {s s' : Shared ε} {events : List (Event ε)} (h : Run s events s')
    (hs : s.Nested) : s'.Nested := by
  induction h with
  | nil => exact hs
  | snoc hrun hstep ih =>
    cases hstep with
    | find hcaller => exact ih.make hcaller
    | miss hcaller => exact ih.make hcaller
    | compute hf => exact ih.move hf _
    | fail hf => exact ih.move hf _
    | keep hf => exact ih.move hf _

namespace Shared

theorem getElem?_append_cons (old made : List (Fetch ε)) (f : Fetch ε) :
    (old ++ f :: made)[old.length]? = some f := by
  simp

theorem move_append_cons (c : Cache) (old made : List (Fetch ε)) (f : Fetch ε) (stage : Stage ε) :
    move ⟨c, old ++ f :: made⟩ old.length f stage =
      ⟨c, old ++ { f with stage := stage } :: made⟩ := by
  simp [move]

/-- A computation waits for nothing, once the fetches made since it began are done. -/
theorem calleesDone_self {s : Shared ε} {f : Fetch ε} {made : List (Fetch ε)} (c : Cache)
    (hs : s.Nested) (hf : s.Allows f.caller) (hmade : ∀ g ∈ made, g.stage.isDone = true) :
    CalleesDone ⟨c, s.fetches ++ f :: made⟩ s.fetches.length := by
  intro g hg hcaller
  rcases List.mem_append.1 hg with hold | hnew
  · exact (Nat.lt_irrefl _ (hs g hold _ hcaller)).elim
  · rcases List.mem_cons.1 hnew with hself | hnew
    · obtain ⟨h, hh, -⟩ := hf _ (hself ▸ hcaller)
      exact (Nat.lt_irrefl _ (List.getElem?_eq_some_iff.1 hh).1).elim
    · exact hmade g hnew

end Shared

/-- A program whose fetches are the steps of a run, wherever it starts and whoever makes it. They
are all done afterwards. -/
def Plays {α : Type} (x : Edit (σ × Cache) ε α) : Prop :=
  ∀ (a : σ) (s : Shared ε) (caller : Option Nat), s.Nested → s.Allows caller →
    ∃ events made, Run s events ⟨(x.outcome (a, s.cache)).1.2, s.fetches ++ made⟩ ∧
      ∀ f ∈ made, f.stage.isDone = true

namespace Plays

variable {α β : Type}

/-- What leaves the cache alone makes no fetches. -/
theorem of_outcome {x : Edit (σ × Cache) ε α} (h : ∀ a c, (x.outcome (a, c)).1.2 = c) :
    Plays x := by
  intro a s caller _ _
  refine ⟨[], [], ?_, nofun⟩
  rw [h, List.append_nil]
  exact .nil

theorem bind {x : Edit (σ × Cache) ε α} {f : α → Edit (σ × Cache) ε β} (hx : Plays x)
    (hf : ∀ a, Plays (f a)) : Plays (x >>= f) := by
  intro a s caller hs hcaller
  obtain ⟨events, made, hrun, hdone⟩ := hx a s caller hs hcaller
  rw [Edit.outcome_bind]
  generalize x.outcome (a, s.cache) = outcome at hrun ⊢
  obtain ⟨⟨a', c⟩, result⟩ := outcome
  cases result with
  | error e => exact ⟨events, made, hrun, hdone⟩
  | ok value =>
    have hcaller' : Shared.Allows ⟨c, s.fetches ++ made⟩ caller := by
      intro i hi
      obtain ⟨g, hg, hstage⟩ := hcaller i hi
      exact ⟨g, (List.getElem?_append_left (List.getElem?_eq_some_iff.1 hg).1).trans hg, hstage⟩
    obtain ⟨events', made', hrun', hdone'⟩ := hf value a' _ caller (hrun.nested hs) hcaller'
    refine ⟨events ++ events', made ++ made', ?_, ?_⟩
    · rw [← List.append_assoc]
      exact hrun.trans hrun'
    · exact List.forall_mem_append.2 ⟨hdone, hdone'⟩

/-- A fetch looks, and if it finds nothing, its computation runs and it keeps the outcome. One of the
events is that it gives its answer, if it has one. -/
theorem exists_run_of_fetch {compute : Edit (σ × Cache) ε String} (h : Plays compute) (key : String)
    (a : σ) {s : Shared ε} {caller : Option Nat} (hs : s.Nested) (hcaller : s.Allows caller) :
    ∃ events made, Run s events ⟨((fetch key compute).outcome (a, s.cache)).1.2, s.fetches ++
        ⟨key, caller, .done ((fetch key compute).outcome (a, s.cache)).2⟩ :: made⟩ ∧
      (∀ f ∈ made, f.stage.isDone = true) ∧
      ∃ e ∈ events, e.key = key ∧
        e.answer? = ((fetch key compute).outcome (a, s.cache)).2.toOption := by
  cases hget : s.cache.get? key with
  | some value =>
    rw [outcome_fetch_of_some hget]
    exact ⟨_, [], .cons (.find hcaller hget) .nil, nofun, _, List.mem_singleton_self _, rfl, rfl⟩
  | none =>
    have hself : (s.make ⟨key, caller, .computing⟩).Allows (some s.fetches.length) := by
      rintro i ⟨⟩
      exact ⟨_, List.getElem?_concat_length .., rfl⟩
    obtain ⟨events, made, hrun, hdone⟩ := h a _ _ (hs.make hcaller) hself
    have hbegin : Run s (⟨s.fetches.length, key, .miss⟩ :: events)
        ⟨(compute.outcome (a, s.cache)).1.2, s.fetches ++ ⟨key, caller, .computing⟩ :: made⟩ := by
      refine .cons (.miss hcaller hget) ?_
      rw [List.append_cons]
      exact hrun
    rw [outcome_fetch_of_none hget]
    generalize compute.outcome (a, s.cache) = outcome at hbegin ⊢
    obtain ⟨⟨a', c⟩, result⟩ := outcome
    have hwait := Shared.calleesDone_self (f := ⟨key, caller, .computing⟩) c hs hcaller hdone
    cases result with
    | error e =>
      have hfail : Step _ ⟨_, _, .fail e⟩ _ := .fail (Shared.getElem?_append_cons ..) rfl hwait
      rw [Shared.move_append_cons] at hfail
      exact ⟨_, made, .snoc hbegin hfail, hdone, _, List.mem_concat_self, rfl, rfl⟩
    | ok value =>
      have hcompute : Step _ ⟨_, _, .compute value⟩ _ :=
        .compute (Shared.getElem?_append_cons ..) rfl hwait
      rw [Shared.move_append_cons] at hcompute
      have hkeep := Step.keep (s := ⟨c, _⟩) (Shared.getElem?_append_cons s.fetches made
        ⟨key, caller, .computed value⟩) rfl (outcome_keep key value () c)
      rw [Shared.move_append_cons] at hkeep
      rw [Edit.andThen_ok, outcome_keep]
      exact ⟨_, made, .snoc (.snoc hbegin hcompute) hkeep, hdone, _, List.mem_concat_self, rfl, rfl⟩

/-- So programs that fetch, and in whose computations there are fetches again, are runs. -/
theorem fetch {compute : Edit (σ × Cache) ε String} (h : Plays compute) (key : String) :
    Plays (fetch key compute) := by
  intro a s caller hs hcaller
  obtain ⟨events, made, hrun, hdone, -⟩ := h.exists_run_of_fetch key a hs hcaller
  exact ⟨events, _, hrun, List.forall_mem_cons.2 ⟨rfl, hdone⟩⟩

/-- What is kept stays. -/
theorem get?_outcome {x : Edit (σ × Cache) ε α} (h : Plays x) (a : σ) {c : Cache}
    {key value : String} (hget : c.get? key = some value) :
    (x.outcome (a, c)).1.2.get? key = some value := by
  obtain ⟨events, made, hrun, -⟩ := h a ⟨c, []⟩ none nofun (Shared.allows_none _)
  exact hrun.get?_mono hget

/-- What a fetch gives is kept. -/
theorem get?_fetch {compute : Edit (σ × Cache) ε String} (h : Plays compute) {key answer : String}
    {a a' : σ} {c c' : Cache}
    (hfetch : (Cache.fetch key compute).outcome (a, c) = ((a', c'), .ok answer)) :
    c'.get? key = some answer := by
  obtain ⟨events, made, hrun, -, e, he, hkey, hgiven⟩ :=
    h.exists_run_of_fetch key a (s := ⟨c, []⟩) nofun (Shared.allows_none _)
  rw [hfetch] at hrun hgiven
  exact hkey ▸ hrun.get?_of_answer he hgiven

/-- Fetches one after the other agree as those that are interleaved do: no entry changes. Once a fetch
has succeeded, and whatever runs then, every fetch for its key gives the same answer and computes
nothing. A fetch fails as its computation does, and keeps nothing itself. -/
theorem fetch_agrees {compute : Edit (σ × Cache) ε String} (h : Plays compute) {key : String}
    {a a' : σ} {c c' : Cache} {result : Except ε String}
    (hfetch : (Cache.fetch key compute).outcome (a, c) = ((a', c'), result)) :
    (∀ k value, c.get? k = some value → c'.get? k = some value) ∧
    (∀ answer, result = .ok answer → ∀ later : Edit (σ × Cache) ε α, Plays later →
      ∀ again : Edit (σ × Cache) ε String,
        (Cache.fetch key again).outcome (later.outcome (a', c')).1 =
          ((later.outcome (a', c')).1, .ok answer)) ∧
    (∀ error, result = .error error →
      c.get? key = none ∧ compute.outcome (a, c) = ((a', c'), .error error)) := by
  refine ⟨?_, ?_, ?_⟩
  · intro k value hget
    have hkept := (h.fetch key).get?_outcome a hget
    rw [hfetch] at hkept
    exact hkept
  · rintro answer rfl later hlater again
    exact outcome_fetch_of_some (hlater.get?_outcome a' (h.get?_fetch hfetch)) again _
  · rintro error rfl
    cases hget : c.get? key with
    | some value =>
      rw [outcome_fetch_of_some hget] at hfetch
      cases hfetch
    | none =>
      rw [outcome_fetch_of_none hget] at hfetch
      generalize compute.outcome (a, c) = outcome at hfetch ⊢
      obtain ⟨⟨a'', c''⟩, computed⟩ := outcome
      cases computed with
      | error e => exact ⟨rfl, hfetch⟩
      | ok value =>
        rw [Edit.andThen_ok, outcome_keep] at hfetch
        cases hfetch

end Plays

end XslLowering.Cache
