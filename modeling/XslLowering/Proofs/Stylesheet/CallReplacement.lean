import Mathlib.Tactic.Common
import XslLowering.Proofs.Attempt
import XslLowering.Stylesheet.Compilation

/-!
# Replacing calls, step by step

The loop of `replaceCalls` changes the tokens that it goes through, and its strategies may be anything.
Still, it only replaces ranges of the tokens that it was given:

* `LoopStep`, `LoopFails`: what the loop does at a token, and `LoopRun`: what it does from token to
  token, which is all there is to its result (`replaceCallsFrom_ok_iff`, `replaceCallsFrom_error_iff`);
* `patchFrom`: the tokens of a list with some of its ranges replaced;
* `Patches`: the ranges are those of calls, in order, and hold what their strategies made of them;
* `Patches.step`: a step keeps this up, and goes on in the tokens as they were given;
* `replaces_disjoint_calls`: what this means for the result of the loop.
-/

namespace XslLowering.Stylesheet

open Expression

/-! ## The tokens that are left -/

/-- A stream that has gone through the tokens `done` and has `ts` left. -/
def streamAt (source : String) (done ts : List Token) : TokenStream :=
  ⟨source, done ++ ts, done.length⟩

theorem peek?_streamAt (source : String) (done ts : List Token) (ahead : Nat) :
    (streamAt source done ts).peek? ahead = ts[ahead]? := by
  simp [streamAt, TokenStream.peek?, List.getElem?_append_right]

theorem current?_streamAt (source : String) (done ts : List Token) :
    (streamAt source done ts).current? = ts.head? := by
  rw [TokenStream.current?, peek?_streamAt, List.head?_eq_getElem?]

theorem advance_streamAt (source : String) (done ts : List Token) (t : Token) :
    (streamAt source done (t :: ts)).advance = streamAt source (done ++ [t]) ts := by
  simp [streamAt, TokenStream.advance, TokenStream.seek]

theorem min_stop_streamAt (source : String) (done : List Token) {ts : List Token} {count : Nat}
    (h : count ≤ ts.length) :
    min (done.length + count) (streamAt source done ts).tokens.length = done.length + count := by
  simp only [streamAt, List.length_append]
  omega

theorem putTokens_streamAt (source : String) (done ts tokens : List Token) {count : Nat}
    (h : count ≤ ts.length) :
    putTokens (streamAt source done ts) (done.length + count) tokens =
      streamAt source (done ++ tokens) (ts.drop count) := by
  have hstop : min (done.length + count) (done ++ ts).length = done.length + count :=
    min_stop_streamAt source done h
  have hstart : min done.length (done.length + count) = done.length := by omega
  have htake : (done ++ ts).take done.length = done := List.take_left
  have hdrop : (done ++ ts).drop (done.length + count) = ts.drop count := by
    rw [List.drop_append]
    simp
  simp only [putTokens, streamAt, TokenStream.splice, TokenStream.seek]
  rw [hstop, hstart, htake, hdrop]
  simp only [TokenStream.mk.injEq, true_and, List.length_append]
  omega

/-! ## Steps of the loop -/

/-- A registered name with this strategy stands directly before a parenthesis. -/
structure IsCall (functions : FunctionMap) (ts : List Token) (i : Nat) (t : Token)
    (strategy : Strategy) : Prop where
  callee : ts[i]? = some t
  name : t.kind = .name
  opening : ∃ next, ts[i + 1]? = some next ∧ next.kind = .leftParen
  registered : functions.get? t.text = some strategy

theorem callAt?_eq_some_iff {functions : FunctionMap} {s : TokenStream} {strategy : Strategy} :
    functions.callAt? s = some strategy ↔ ∃ t, IsCall functions s.tokens s.cursor t strategy := by
  constructor
  · intro h
    rw [FunctionMap.callAt?] at h
    split at h
    · rename_i t next ht hnext
      split at h
      · rename_i hkinds
        exact ⟨t, ht, hkinds.1, ⟨next, hnext, hkinds.2⟩, h⟩
      · cases h
    · cases h
  · rintro ⟨t, ht, hname, ⟨next, hnext, hopening⟩, hget⟩
    have hcurrent : s.current? = some t := ht
    have hpeek : s.peek? 1 = some next := hnext
    simp [FunctionMap.callAt?, hcurrent, hpeek, hname, hopening, hget]

/-- What the loop does at a token, and how many calls it replaces there. -/
inductive LoopStep (functions : FunctionMap) (place : Place) (s : TokenStream) :
    Nat → TokenStream → Prop
  | keep {t : Token} : s.current? = some t → functions.callAt? s = none →
    LoopStep functions place s 0 s.advance
  | replace {t : Token} {strategy : Strategy} {replacement : Replacement} :
    IsCall functions s.tokens s.cursor t strategy →
    (strategy.replace s place).result = .ok replacement →
    s.cursor < min replacement.stop s.tokens.length →
    LoopStep functions place s 1 (putTokens s (min replacement.stop s.tokens.length)
      (withSpacing t.spaced replacement.tokens))

/-- The loop fails at a call: its strategy fails, or it ends at the name of the call or before it. -/
inductive LoopFails (functions : FunctionMap) (place : Place) (s : TokenStream) : Error → Prop
  | strategy {t : Token} {strategy : Strategy} {e : Error} :
    IsCall functions s.tokens s.cursor t strategy → (strategy.replace s place).result = .error e →
    LoopFails functions place s e
  | notConsumed {t : Token} {strategy : Strategy} {replacement : Replacement} :
    IsCall functions s.tokens s.cursor t strategy →
    (strategy.replace s place).result = .ok replacement → replacement.stop ≤ s.cursor →
    LoopFails functions place s (.invalidCall t.text s.source .notConsumed)

variable {functions : FunctionMap} {place : Place} {s : TokenStream}

theorem map_add_zero {ε : Type} (x : Except ε (TokenStream × Nat)) :
    (x.map fun r => (r.1, r.2 + 0)) = x := by
  cases x <;> rfl

theorem result_of_atEnd (h : s.current? = none) :
    (replaceCallsFrom functions place s).result = .ok (s, 0) := by
  rw [replaceCallsFrom]
  split
  · rfl
  · rename_i ht
    rw [h] at ht
    cases ht

/-- What the loop does at a call is up to its strategy. -/
theorem result_of_isCall {t : Token} {strategy : Strategy}
    (h : IsCall functions s.tokens s.cursor t strategy) :
    (replaceCallsFrom functions place s).result =
      (strategy.replace s place).result.bind fun replacement =>
        if s.cursor < min replacement.stop s.tokens.length then
          (replaceCallsFrom functions place (putTokens s (min replacement.stop s.tokens.length)
            (withSpacing t.spaced replacement.tokens))).result.map fun r => (r.1, r.2 + 1)
        else .error (.invalidCall t.text s.source .notConsumed) := by
  have hcall : functions.callAt? s = some strategy := callAt?_eq_some_iff.2 ⟨t, h⟩
  have hcurrent : s.current? = some t := h.callee
  rw [replaceCallsFrom]
  split
  · rename_i hnone
    rw [hcurrent] at hnone
    cases hnone
  · rename_i t' ht'
    cases hcurrent.symm.trans ht'
    rw [hcall]
    simp only [Attempt.result_bind]
    cases (strategy.replace s place).result with
    | error e => rfl
    | ok replacement =>
      simp only [bind, Except.bind]
      split
      · simp only [Attempt.result_note]
        cases (replaceCallsFrom functions place _).result <;> rfl
      · rfl

theorem LoopStep.result {calls : Nat} {v : TokenStream} (h : LoopStep functions place s calls v) :
    (replaceCallsFrom functions place s).result =
      (replaceCallsFrom functions place v).result.map fun r => (r.1, r.2 + calls) := by
  cases h with
  | @keep t ht hcall =>
    rw [replaceCallsFrom]
    split
    · rename_i hnone
      rw [ht] at hnone
      cases hnone
    · rw [hcall]
      exact (map_add_zero _).symm
  | replace hcall hr hstop =>
    rw [result_of_isCall hcall, hr]
    exact if_pos hstop

theorem LoopFails.result {e : Error} (h : LoopFails functions place s e) :
    (replaceCallsFrom functions place s).result = .error e := by
  cases h with
  | strategy hcall hr =>
    rw [result_of_isCall hcall, hr]
    rfl
  | notConsumed hcall hr hstop =>
    rw [result_of_isCall hcall, hr]
    exact if_neg (by omega)

/-- The loop is at the end, or fails, or does a step. -/
theorem loop_cases (functions : FunctionMap) (place : Place) (s : TokenStream) :
    s.current? = none ∨ (∃ e, LoopFails functions place s e) ∨
      ∃ calls v, LoopStep functions place s calls v := by
  cases ht : s.current? with
  | none => exact .inl rfl
  | some t =>
    cases hc : functions.callAt? s with
    | none => exact .inr (.inr ⟨0, _, .keep ht hc⟩)
    | some strategy =>
      obtain ⟨t, hcall⟩ := callAt?_eq_some_iff.1 hc
      cases hr : (strategy.replace s place).result with
      | error e => exact .inr (.inl ⟨e, .strategy hcall hr⟩)
      | ok replacement =>
        have hlt := lt_of_current? ht
        by_cases hstop : replacement.stop ≤ s.cursor
        · exact .inr (.inl ⟨_, .notConsumed hcall hr hstop⟩)
        · exact .inr (.inr ⟨1, _, .replace hcall hr (by omega)⟩)

/-- With every step, fewer tokens are left. -/
theorem LoopStep.remaining {calls : Nat} {v : TokenStream} (h : LoopStep functions place s calls v) :
    v.tokens.length - v.cursor < s.tokens.length - s.cursor := by
  cases h with
  | keep ht => exact remaining_advance ht
  | replace _ _ hstop => exact remaining_putTokens _ hstop (Nat.min_le_right ..)

/-! ## Runs of the loop -/

/-- The loop comes from `s` to another stream, with a number of steps and of calls replaced by them. -/
inductive LoopRun (functions : FunctionMap) (place : Place) (s : TokenStream) :
    Nat → Nat → TokenStream → Prop
  | start : LoopRun functions place s 0 0 s
  | step {steps calls calls' : Nat} {v w : TokenStream} : LoopRun functions place s steps calls v →
    LoopStep functions place v calls' w → LoopRun functions place s (steps + 1) (calls + calls') w

theorem LoopRun.result {steps calls : Nat} {v : TokenStream}
    (h : LoopRun functions place s steps calls v) :
    (replaceCallsFrom functions place s).result =
      (replaceCallsFrom functions place v).result.map fun r => (r.1, r.2 + calls) := by
  induction h with
  | start => exact (map_add_zero _).symm
  | @step _ calls _ _ _ _ hstep ih =>
    rw [ih, hstep.result]
    cases (replaceCallsFrom functions place _).result with
    | error e => rfl
    | ok r =>
      simp only [Except.map, Nat.add_assoc]
      rw [Nat.add_comm calls]

/-- Every run comes to the end of the tokens, or to a call at which it fails. -/
theorem LoopRun.exists_last {steps calls : Nat} {v : TokenStream}
    (h : LoopRun functions place s steps calls v) :
    ∃ steps calls v, LoopRun functions place s steps calls v ∧
      (v.current? = none ∨ ∃ e, LoopFails functions place v e) := by
  induction hn : v.tokens.length - v.cursor using Nat.strongRecOn generalizing steps calls v with
  | ind n ih =>
  rcases loop_cases functions place v with hend | hfails | ⟨calls', w, hstep⟩
  · exact ⟨_, _, v, h, .inl hend⟩
  · exact ⟨_, _, v, h, .inr hfails⟩
  · exact ih _ (hn ▸ hstep.remaining) (h.step hstep) rfl

theorem replaceCallsFrom_ok_iff {v : TokenStream} {calls : Nat} :
    (replaceCallsFrom functions place s).result = .ok (v, calls) ↔
      ∃ steps, LoopRun functions place s steps calls v ∧ v.current? = none := by
  constructor
  · intro h
    obtain ⟨steps, calls', w, hrun, hend | ⟨e, hfails⟩⟩ :=
      (LoopRun.start : LoopRun functions place s 0 0 s).exists_last
    · rw [hrun.result, result_of_atEnd hend] at h
      cases h
      exact ⟨steps, by simpa using hrun, hend⟩
    · rw [hrun.result, hfails.result] at h
      cases h
  · rintro ⟨steps, hrun, hend⟩
    rw [hrun.result, result_of_atEnd hend]
    simp [Except.map]

theorem replaceCallsFrom_error_iff {e : Error} :
    (replaceCallsFrom functions place s).result = .error e ↔
      ∃ steps calls v, LoopRun functions place s steps calls v ∧ LoopFails functions place v e := by
  constructor
  · intro h
    obtain ⟨steps, calls, w, hrun, hend | ⟨e', hfails⟩⟩ :=
      (LoopRun.start : LoopRun functions place s 0 0 s).exists_last
    · rw [hrun.result, result_of_atEnd hend] at h
      cases h
    · have hresult := hfails.result
      rw [hrun.result, hresult] at h
      cases h
      exact ⟨steps, calls, w, hrun, hfails⟩
  · rintro ⟨steps, calls, v, hrun, hfails⟩
    rw [hrun.result, hfails.result]
    rfl

/-! ## Ranges that are replaced -/

/-- The tokens from number `start` up to `stop`, and what takes their place. -/
structure Patch where
  start : Nat
  stop : Nat
  tokens : List Token

/-- The tokens from number `i` on, with ranges of them replaced. -/
def patchFrom (ts : List Token) (i : Nat) : List Patch → List Token
  | [] => ts.drop i
  | p :: ps => (ts.take p.start).drop i ++ p.tokens ++ patchFrom ts p.stop ps

/-- Tokens after all ranges stay. -/
theorem patchFrom_append {ts us : List Token} {i : Nat} {ps : List Patch} (hi : i ≤ ts.length)
    (h : ∀ p ∈ ps, p.start ≤ ts.length ∧ p.stop ≤ ts.length) :
    patchFrom (ts ++ us) i ps = patchFrom ts i ps ++ us := by
  induction ps generalizing i with
  | nil => exact List.drop_append_of_le_length hi
  | cons p ps ih =>
    rw [List.forall_mem_cons] at h
    rw [patchFrom, patchFrom, List.take_append_of_le_length h.1.1, ih h.1.2 h.2]
    simp

/-- A range after the others is replaced last. -/
theorem patchFrom_concat {ts : List Token} {i : Nat} {ps : List Patch} {p : Patch}
    (h : ∀ q ∈ ps, q.start ≤ p.start) :
    patchFrom ts i (ps ++ [p]) =
      patchFrom (ts.take p.start) i ps ++ p.tokens ++ ts.drop p.stop := by
  induction ps generalizing i with
  | nil => rfl
  | cons q ps ih =>
    rw [List.forall_mem_cons] at h
    rw [List.cons_append, patchFrom, patchFrom, ih h.2, List.take_take, Nat.min_eq_left h.1]
    simp

/-- The stream before token number `i` of those that it had at first, with ranges before it
replaced. -/
def patchedStream (s : TokenStream) (ps : List Patch) (i : Nat) : TokenStream :=
  streamAt s.source (patchFrom (s.tokens.take i) 0 ps) (s.tokens.drop i)

/-- What is left is left as it was. -/
theorem peek?_patchedStream (s : TokenStream) (ps : List Patch) (i ahead : Nat) :
    (patchedStream s ps i).peek? ahead = s.tokens[i + ahead]? := by
  rw [patchedStream, peek?_streamAt, List.getElem?_drop]

theorem isCall_patchedStream {ps : List Patch} {i : Nat} {t : Token} {strategy : Strategy} :
    IsCall functions (patchedStream s ps i).tokens (patchedStream s ps i).cursor t strategy ↔
      IsCall functions s.tokens i t strategy := by
  have hcallee : (patchedStream s ps i).tokens[(patchedStream s ps i).cursor]? = s.tokens[i]? :=
    peek?_patchedStream s ps i 0
  have hopening : (patchedStream s ps i).tokens[(patchedStream s ps i).cursor + 1]? =
      s.tokens[i + 1]? := peek?_patchedStream s ps i 1
  constructor <;>
  · intro h
    exact ⟨hcallee ▸ h.callee, h.name, hopening ▸ h.opening, h.registered⟩

theorem advance_patchedStream {ps : List Patch} {i : Nat} {t : Token} (ht : s.tokens[i]? = some t)
    (h : ∀ p ∈ ps, p.start ≤ i ∧ p.stop ≤ i) :
    (patchedStream s ps i).advance = patchedStream s ps (i + 1) := by
  obtain ⟨hlt, hget⟩ := List.getElem?_eq_some_iff.1 ht
  have hlength : (s.tokens.take i).length = i := List.length_take_of_le (Nat.le_of_lt hlt)
  have hdone : patchFrom (s.tokens.take (i + 1)) 0 ps =
      patchFrom (s.tokens.take i) 0 ps ++ [t] := by
    rw [List.take_add_one, ht]
    refine patchFrom_append (Nat.zero_le _) ?_
    rwa [hlength]
  rw [patchedStream, List.drop_eq_getElem_cons hlt, hget, advance_streamAt, ← hdone]
  rfl

theorem putTokens_patchedStream {ps : List Patch} {i count : Nat} (tokens : List Token)
    (hle : i + count ≤ s.tokens.length) (h : ∀ p ∈ ps, p.start ≤ i) :
    putTokens (patchedStream s ps i) ((patchedStream s ps i).cursor + count) tokens =
      patchedStream s (ps ++ [⟨i, i + count, tokens⟩]) (i + count) := by
  have hcount : count ≤ (s.tokens.drop i).length := by
    rw [List.length_drop]
    omega
  have hdone : patchFrom (s.tokens.take (i + count)) 0 (ps ++ [⟨i, i + count, tokens⟩]) =
      patchFrom (s.tokens.take i) 0 ps ++ tokens := by
    rw [patchFrom_concat h]
    simp [List.take_take]
  have hput := putTokens_streamAt s.source (patchFrom (s.tokens.take i) 0 ps) _ tokens hcount
  rwa [List.drop_drop, ← hdone] at hput

/-- The patch replaces a call by what its strategy makes of it, once the patches `before` are made: as
many tokens as the strategy goes past, by those that it gives. -/
def PatchesCall (functions : FunctionMap) (place : Place) (s : TokenStream) (before : List Patch)
    (p : Patch) : Prop :=
  ∃ t strategy replacement, IsCall functions s.tokens p.start t strategy ∧
    (strategy.replace (patchedStream s before p.start) place).result = .ok replacement ∧
    p.tokens = withSpacing t.spaced replacement.tokens ∧
    p.stop = p.start + (min replacement.stop (patchedStream s before p.start).tokens.length -
      (patchedStream s before p.start).cursor)

/-- The patches are what the loop makes of the calls before token number `i`. -/
structure Patches (functions : FunctionMap) (place : Place) (s : TokenStream) (ps : List Patch)
    (i : Nat) : Prop where
  ordered : ps.Pairwise fun p q => p.stop ≤ q.start
  within : ∀ p ∈ ps, p.start < p.stop ∧ p.stop ≤ i
  bound : i ≤ s.tokens.length
  calls : ∀ before p, before ++ [p] <+: ps → PatchesCall functions place s before p
  /-- A call that is not replaced is part of one that is. -/
  complete : ∀ j t strategy, j < i → IsCall functions s.tokens j t strategy →
    ∃ p ∈ ps, p.start ≤ j ∧ j < p.stop

theorem patches_start (functions : FunctionMap) (place : Place) (s : TokenStream) :
    Patches functions place s [] 0 ∧ s.seek 0 = patchedStream s [] 0 := by
  refine ⟨⟨.nil, by simp, Nat.zero_le _, fun before p h => ?_, fun j _ _ h => absurd h j.not_lt_zero⟩, ?_⟩
  · simp at h
  · simp [TokenStream.seek, patchedStream, streamAt, patchFrom]

/-- Past a token that starts no call, the patches are the same. -/
theorem Patches.succ {ps : List Patch} {i : Nat} (h : Patches functions place s ps i)
    (hlt : i < s.tokens.length)
    (hcall : ∀ t strategy, ¬IsCall functions s.tokens i t strategy) :
    Patches functions place s ps (i + 1) := by
  refine ⟨h.ordered, fun p hp => ?_, hlt, h.calls, fun j t strategy hj hcall' => ?_⟩
  · have := h.within p hp
    omega
  · rcases Nat.lt_or_eq_of_le (Nat.le_of_lt_succ hj) with hj | rfl
    · exact h.complete j t strategy hj hcall'
    · exact absurd hcall' (hcall t strategy)

/-- A call that is replaced is one more patch. -/
theorem Patches.concat {ps : List Patch} {p : Patch} (h : Patches functions place s ps p.start)
    (hp : PatchesCall functions place s ps p) (hlt : p.start < p.stop)
    (hle : p.stop ≤ s.tokens.length) : Patches functions place s (ps ++ [p]) p.stop := by
  refine ⟨?_, ?_, hle, fun before q hq => ?_, fun j t strategy hj hcall => ?_⟩
  · refine List.pairwise_append.2 ⟨h.ordered, List.pairwise_singleton _ _, fun q hq r hr => ?_⟩
    rw [List.mem_singleton.1 hr]
    exact (h.within q hq).2
  · refine List.forall_mem_append.2 ⟨fun q hq => ?_, List.forall_mem_singleton.2 ⟨hlt, Nat.le_refl _⟩⟩
    have := h.within q hq
    omega
  · rcases List.prefix_concat_iff.1 hq with he | hq
    · obtain ⟨rfl, hlast⟩ := List.append_inj' he rfl
      rwa [List.singleton_inj.1 hlast]
    · exact h.calls before q hq
  · rcases Nat.lt_or_ge j p.start with hj | hge
    · obtain ⟨q, hq, hin⟩ := h.complete j t strategy hj hcall
      exact ⟨q, List.mem_append_left _ hq, hin⟩
    · exact ⟨p, List.mem_append_right _ (List.mem_singleton_self _), hge, hj⟩

/-- A step goes on to a later one of the tokens that there were at first, and makes a patch for each
call that it replaces. -/
theorem Patches.step {ps : List Patch} {i calls : Nat} {v : TokenStream}
    (h : Patches functions place s ps i)
    (hstep : LoopStep functions place (patchedStream s ps i) calls v) :
    ∃ ps' i', Patches functions place s ps' i' ∧ i < i' ∧ ps'.length = ps.length + calls ∧
      v = patchedStream s ps' i' := by
  have hbefore : ∀ p ∈ ps, p.start ≤ i ∧ p.stop ≤ i := fun p hp => by
    have := h.within p hp
    omega
  cases hstep with
  | @keep t ht hnone =>
    rw [TokenStream.current?, peek?_patchedStream, Nat.add_zero] at ht
    have hlt : i < s.tokens.length := (List.getElem?_eq_some_iff.1 ht).1
    refine ⟨ps, i + 1, h.succ hlt fun t' strategy hcall => ?_, i.lt_succ_self, rfl,
      advance_patchedStream ht hbefore⟩
    rw [callAt?_eq_some_iff.2 ⟨t', isCall_patchedStream.2 hcall⟩] at hnone
    cases hnone
  | @replace t strategy replacement hcall hr hlt =>
    rw [isCall_patchedStream] at hcall
    have hlength : (patchedStream s ps i).tokens.length =
        (patchedStream s ps i).cursor + (s.tokens.length - i) := by
      simp [patchedStream, streamAt]
    have hbound := h.bound
    -- The strategy goes past as many tokens of the original list as of the stream it is given.
    obtain ⟨count, hcount⟩ := Nat.exists_eq_add_of_le (Nat.le_of_lt hlt)
    have hle : i + count ≤ s.tokens.length := by omega
    have hpos : i < i + count := by omega
    have hput := putTokens_patchedStream (withSpacing t.spaced replacement.tokens) hle
      fun p hp => (hbefore p hp).1
    refine ⟨_, i + count, h.concat (p := ⟨i, i + count, withSpacing t.spaced replacement.tokens⟩)
      ⟨t, strategy, replacement, hcall, hr, rfl, ?_⟩ hpos hle, hpos, List.length_append, hcount ▸ hput⟩
    rw [hcount, Nat.add_sub_cancel_left]

/-- A run has no more steps than there are tokens. -/
theorem LoopRun.exists_patches {steps calls : Nat} {v : TokenStream}
    (h : LoopRun functions place (s.seek 0) steps calls v) :
    ∃ ps i, Patches functions place s ps i ∧ steps ≤ i ∧ ps.length = calls ∧
      v = patchedStream s ps i := by
  induction h with
  | start =>
    obtain ⟨hpatches, hstart⟩ := patches_start functions place s
    exact ⟨[], 0, hpatches, Nat.le_refl _, rfl, hstart⟩
  | step _ hstep ih =>
    obtain ⟨ps, i, hpatches, hsteps, rfl, rfl⟩ := ih
    obtain ⟨ps', i', hpatches', hlt, hlength, hv⟩ := hpatches.step hstep
    exact ⟨ps', i', hpatches', by omega, hlength, hv⟩

/-- Whatever the strategies do, the loop comes to an end after at most as many steps as there are
tokens, and at every step what is left are the last tokens of those that it was given, so that no call
is looked for in what strategies give. If it succeeds, it has replaced as many disjoint ranges of
tokens as it says, each one starting with a call of a registered function, and no other token. It fails
exactly where it comes to a call whose strategy fails, or ends at the name of the call or before it. -/
theorem replaces_disjoint_calls (functions : FunctionMap) (place : Place) (s : TokenStream) :
    (∀ steps calls v, LoopRun functions place (s.seek 0) steps calls v →
      ∃ ps i, Patches functions place s ps i ∧ steps ≤ i ∧ ps.length = calls ∧
        v = patchedStream s ps i) ∧
    (∀ s' calls, (replaceCalls functions place s).result = .ok (s', calls) →
      ∃ ps, Patches functions place s ps s.tokens.length ∧ ps.length = calls ∧
        s'.tokens = patchFrom s.tokens 0 ps) ∧
    ∀ e, (replaceCalls functions place s).result = .error e ↔
      ∃ steps calls v, LoopRun functions place (s.seek 0) steps calls v ∧
        LoopFails functions place v e := by
  refine ⟨fun steps calls v => LoopRun.exists_patches, fun s' calls h => ?_,
    fun e => replaceCallsFrom_error_iff⟩
  obtain ⟨steps, hrun, hend⟩ := replaceCallsFrom_ok_iff.1 h
  obtain ⟨ps, i, hpatches, -, hlength, rfl⟩ := hrun.exists_patches
  rw [TokenStream.current?, peek?_patchedStream, Nat.add_zero, List.getElem?_eq_none_iff] at hend
  obtain rfl : i = s.tokens.length := Nat.le_antisymm hpatches.bound hend
  exact ⟨ps, hpatches, hlength, by simp [patchedStream, streamAt]⟩

/-- The attribute of an instruction in a grouped iteration. -/
def inGrouping : Place :=
  ⟨⟨#[⟨.document, none, [1]⟩,
    ⟨.element ⟨"xsl:for-each", [⟨"xmlns:xsl", xslNamespace⟩, ⟨"group-id", "g"⟩]⟩, some 0, [2]⟩,
    ⟨.element ⟨"xsl:value-of", []⟩, some 1, []⟩], none⟩, 2, some "select"⟩

/-- A function that is called in place of itself, and one of the grouping functions. -/
def echoAndGroup (name : String) : FunctionMap :=
  ⟨⟨[(name, .custom fun s _ => pure ⟨[.ofName name, .leftParen], s.cursor + 2⟩),
    ("current-group", .currentGroup)]⟩⟩

/-- All three calls of `f( f( current-group()))` are replaced, and what they are replaced by is left
alone. Where a blank stood before a call, it stands before the replacement. -/
theorem replaces_disjoint_calls_by_themselves :
    ∃ s s' ps,
      TokenStream.tokens s = [⟨.name, "f", some 0, false⟩, ⟨.leftParen, "(", some 1, false⟩,
        ⟨.name, "f", some 3, true⟩, ⟨.leftParen, "(", some 4, false⟩,
        ⟨.name, "current-group", some 6, true⟩, ⟨.leftParen, "(", some 19, false⟩,
        ⟨.rightParen, ")", some 20, false⟩, ⟨.rightParen, ")", some 21, false⟩,
        ⟨.rightParen, ")", some 22, false⟩] ∧
      (replaceCalls (echoAndGroup "f") inGrouping s).result = .ok (s', 3) ∧
      s'.tokens = [.ofName "f", .leftParen] ++ withSpacing true [.ofName "f", .leftParen] ++
        withSpacing true (groupSelection "g") ++
        [⟨.rightParen, ")", some 21, false⟩, ⟨.rightParen, ")", some 22, false⟩] ∧
      Patches (echoAndGroup "f") inGrouping s ps 9 ∧ ps.length = 3 ∧
      s'.tokens = patchFrom s.tokens 0 ps := by
  have hresult : (replaceCalls (echoAndGroup "f") inGrouping ⟨"f( f( current-group()))",
      [⟨.name, "f", some 0, false⟩, ⟨.leftParen, "(", some 1, false⟩,
        ⟨.name, "f", some 3, true⟩, ⟨.leftParen, "(", some 4, false⟩,
        ⟨.name, "current-group", some 6, true⟩, ⟨.leftParen, "(", some 19, false⟩,
        ⟨.rightParen, ")", some 20, false⟩, ⟨.rightParen, ")", some 21, false⟩,
        ⟨.rightParen, ")", some 22, false⟩], 0⟩).result =
      .ok (⟨"f( f( current-group()))",
        [.ofName "f", .leftParen] ++ withSpacing true [.ofName "f", .leftParen] ++
          withSpacing true (groupSelection "g") ++
          [⟨.rightParen, ")", some 21, false⟩, ⟨.rightParen, ")", some 22, false⟩], 17⟩, 3) := by
    decide +kernel
  obtain ⟨-, hok, -⟩ :=
    replaces_disjoint_calls (echoAndGroup "f") inGrouping ⟨"f( f( current-group()))", _, 0⟩
  obtain ⟨ps, hpatches, hlength, htokens⟩ := hok _ _ hresult
  exact ⟨_, _, ps, rfl, hresult, rfl, hpatches, hlength, htokens⟩

end XslLowering.Stylesheet
