import XslLowering.Callback.Registry
import XslLowering.Proofs.Stylesheet.CallReplacement

/-!
# Lowering as a recursion over tokens

`replaceCalls` moves a cursor through a list of tokens that it changes on its way. For the function
maps that are built from a registry of callbacks and the grouping functions (`BuiltFrom`), it is a
recursion over the tokens that are left, `lowerCalls`:

* `BuiltFrom.get?`: what such a map holds;
* `replaceCalls_eq_lowerCalls`: the loop and the recursion give the same tokens, count and errors;
* `lowers_of_lowerCalls`: what happens to the tokens when lowering succeeds, as a relation.
-/

namespace XslLowering.Stylesheet

open Expression

/-! ## Maps of callbacks and grouping functions -/

/-- The map is built by registering the callbacks of a registry, and then the grouping functions. -/
def FunctionMap.BuiltFrom (registry : Callback.Registry) (functions : FunctionMap) : Prop :=
  (do
    let m ← FunctionMap.empty.registerCallbacks registry.names
    m.registerGrouping : Attempt Expression.Error FunctionMap).result = .ok functions

/-- Every name has one of the grouping strategies, or stands for the callback of that name. -/
def FunctionMap.Plain (functions : FunctionMap) : Prop :=
  ∀ name strategy, functions.get? name = some strategy →
    strategy = .currentGroup ∨ strategy = .currentGroupingKey ∨ strategy = .callback name

namespace FunctionMap

theorem result_set {ε : Type} (m : FunctionMap) (name : String) (strategy : Strategy) :
    (m.set name strategy : Attempt ε FunctionMap).result =
      .ok ⟨m.strategies.insert name strategy⟩ := by
  simp only [set]
  split <;> rfl

theorem get?_insert (m : FunctionMap) (name n : String) (strategy : Strategy) :
    FunctionMap.get? ⟨m.strategies.insert name strategy⟩ n =
      if name == n then some strategy else m.get? n :=
  Dictionary.get?_insert ..

theorem get?_registerCallbacks {ε : Type} {m m' : FunctionMap} {names : List String}
    (h : (m.registerCallbacks names : Attempt ε FunctionMap).result = .ok m') (n : String) :
    m'.get? n = if n ∈ names then some (.callback n) else m.get? n := by
  induction names generalizing m with
  | nil =>
    cases h
    simp
  | cons name names ih =>
    simp only [registerCallbacks, List.foldlM_cons, Attempt.result_bind, result_set] at h
    rw [ih h, get?_insert]
    by_cases hn : n ∈ names
    · simp [hn]
    · by_cases he : name = n
      · simp [he]
      · simp [hn, he, Ne.symm he]

theorem mem_names (registry : Callback.Registry) (name : String) :
    name ∈ registry.names ↔ registry.contains name = true := by
  have find (entries : List (String × Callback)) :
      name ∈ entries.map Prod.fst ↔ (Dictionary.findIn name entries).isSome = true := by
    induction entries with
    | nil => simp [Dictionary.findIn]
    | cons entry rest ih =>
      by_cases h : entry.1 = name
      · simp [Dictionary.findIn, h]
      · rw [List.map_cons, List.mem_cons, ih]
        simp [Dictionary.findIn, h, Ne.symm h]
  rw [Callback.Registry.names, Dictionary.names, List.mem_mergeSort, find]
  rfl

/-- The names of callbacks are in order. -/
theorem names_eq_of_perm {registry : Callback.Registry} {names : List String}
    (h : (registry.callbacks.entries.map Prod.fst).Perm names)
    (hs : names.Pairwise fun a b => decide (a ≤ b) = true) : registry.names = names := by
  have hsorted : registry.names.Pairwise fun a b => decide (a ≤ b) = true :=
    List.pairwise_mergeSort (by simpa using fun a b c => String.le_trans)
      (by simpa using String.le_total) _
  refine ((List.mergeSort_perm _ _).trans h).eq_of_pairwise (fun a b _ _ hab hba => ?_) hsorted hs
  exact String.le_antisymm (of_decide_eq_true hab) (of_decide_eq_true hba)

/-- What the map holds: the grouping functions hide callbacks of the same names. -/
theorem BuiltFrom.get? {registry : Callback.Registry} {functions : FunctionMap}
    (h : functions.BuiltFrom registry) (name : String) :
    functions.get? name =
      if name = "current-group" then some .currentGroup
      else if name = "current-grouping-key" then some .currentGroupingKey
      else if registry.contains name then some (.callback name) else none := by
  simp only [BuiltFrom, Attempt.result_bind] at h
  cases hm : (FunctionMap.empty.registerCallbacks registry.names :
      Attempt Expression.Error FunctionMap).result with
  | error e =>
    rw [hm] at h
    cases h
  | ok m =>
    rw [hm] at h
    simp only [registerGrouping, result_set, bind, Except.bind] at h
    cases h
    rw [get?_insert, get?_insert, get?_registerCallbacks hm]
    simp only [mem_names]
    by_cases hg : name = "current-group"
    · simp [hg]
    · by_cases hk : name = "current-grouping-key"
      · simp [hk]
      · simp [hg, hk, Ne.symm hg, Ne.symm hk]
        rfl

theorem BuiltFrom.get?_eq_some {registry : Callback.Registry} {functions : FunctionMap}
    (h : functions.BuiltFrom registry) {name : String} {strategy : Strategy}
    (hs : functions.get? name = some strategy) :
    name = "current-group" ∧ strategy = .currentGroup ∨
      name = "current-grouping-key" ∧ strategy = .currentGroupingKey ∨
        registry.contains name = true ∧ strategy = .callback name := by
  rw [h.get?] at hs
  split at hs
  · rename_i hname
    cases hs
    exact .inl ⟨hname, rfl⟩
  split at hs
  · rename_i hname
    cases hs
    exact .inr (.inl ⟨hname, rfl⟩)
  split at hs
  · rename_i hcontains
    cases hs
    exact .inr (.inr ⟨hcontains, rfl⟩)
  · cases hs

theorem BuiltFrom.plain {registry : Callback.Registry} {functions : FunctionMap}
    (h : functions.BuiltFrom registry) : functions.Plain := by
  intro name strategy hs
  rcases h.get?_eq_some hs with ⟨-, hs⟩ | ⟨-, hs⟩ | ⟨-, hs⟩
  · exact .inl hs
  · exact .inr (.inl hs)
  · exact .inr (.inr hs)

/-- The map of a registry that has one callback. -/
def ofCallback (name : String) : FunctionMap :=
  ⟨⟨[(name, .callback name), ("current-group", .currentGroup),
    ("current-grouping-key", .currentGroupingKey)]⟩⟩

theorem builtFrom_ofCallback {name : String} (callback : Callback) (hg : name ≠ "current-group")
    (hk : name ≠ "current-grouping-key") :
    (ofCallback name).BuiltFrom (.register .empty name callback) := by
  have hnames : (Callback.Registry.empty.register name callback).names = [name] :=
    List.mergeSort_singleton _
  have hinsert : (∅ : Dictionary Strategy).insert name (.callback name) =
      ⟨[(name, .callback name)]⟩ := rfl
  rw [BuiltFrom, hnames]
  simp only [registerCallbacks, List.foldlM_cons, List.foldlM_nil, registerGrouping, bind, result_set,
    Attempt.result_pure, FunctionMap.empty, hinsert]
  simp [ofCallback, Dictionary.insert, Dictionary.insertInto, hg, hk]

end FunctionMap

/-! ## Lowering a list of tokens -/

/-- The strategy for the call that a list of tokens starts with, if it starts with one. -/
def FunctionMap.callee? (functions : FunctionMap) (t : Token) : List Token → Option Strategy
  | [] => none
  | next :: _ => if t.kind = .name ∧ next.kind = .leftParen then functions.get? t.text else none

/-- What a call of a grouping function becomes. -/
def groupingTokens (callee : String) (inside : String → List Token) (outside : List Token)
    (source : String) (place : Place) : Except Expression.Error (List Token) :=
  match groupingAncestor place with
  | none => .ok outside
  | some (_, id) =>
    if isGroupId id then .ok (inside id)
    else .error (.invalidCall callee source (.invalidGroupId id))

/-- What a call without arguments becomes by a strategy for grouping functions. -/
def Strategy.groupingTokens (strategy : Strategy) (source : String) (place : Place) :
    Except Expression.Error (List Token) :=
  match strategy with
  | .currentGroup =>
    Stylesheet.groupingTokens "current-group" groupSelection emptySelection source place
  | .currentGroupingKey =>
    Stylesheet.groupingTokens "current-grouping-key" groupKey [.ofString ""] source place
  | _ => .ok []

/-- What a name and an opening parenthesis become if they call a callback; `rest` follows them. -/
def callbackTokens (name : String) (rest : List Token) : List Token :=
  [.ofName (callbackQualifier ++ ":call"), .leftParen, .ofString name] ++
    if rest.head?.any (·.kind ≠ TokenKind.rightParen) then [Token.comma] else []

/-- What a step of lowering puts down, what it leaves to be read, and how many calls it replaces. -/
structure LoweringStep where
  put : List Token
  rest : List Token
  calls : Nat

/-- Lowers what a list of tokens starts with. -/
def lowerStep (functions : FunctionMap) (place : Place) (source : String) (t : Token)
    (ts : List Token) : Except Expression.Error LoweringStep :=
  match functions.callee? t ts with
  | none => .ok ⟨[t], ts, 0⟩
  | some (.callback name) =>
    .ok ⟨withSpacing t.spaced (callbackTokens name (ts.drop 1)), ts.drop 1, 1⟩
  | some strategy =>
    if (ts.drop 1).head?.any (·.kind = .rightParen) then
      match strategy.groupingTokens source place with
      | .error e => .error e
      | .ok tokens => .ok ⟨withSpacing t.spaced tokens, ts.drop 2, 1⟩
    else .error (.invalidCall t.text source .takesNoArguments)

theorem length_rest_lowerStep {functions : FunctionMap} {place : Place} {source : String}
    {t : Token} {ts : List Token} {step : LoweringStep}
    (h : lowerStep functions place source t ts = .ok step) : step.rest.length ≤ ts.length := by
  unfold lowerStep at h
  split at h
  · cases h
    exact Nat.le_refl _
  · cases h
    simp
  · split at h
    · split at h
      · cases h
      · cases h
        simp
    · cases h

/-- A step at a call of a grouping function replaces all of the call. -/
theorem lowerStep_grouping {functions : FunctionMap} {place : Place} {source : String}
    {t opening : Token} {rest : List Token} {strategy : Strategy}
    (h : functions.callee? t (opening :: rest) = some strategy)
    (hs : strategy = .currentGroup ∨ strategy = .currentGroupingKey) :
    lowerStep functions place source t (opening :: rest) =
      if rest.head?.any (·.kind = .rightParen) then
        (strategy.groupingTokens source place).map fun tokens =>
          ⟨withSpacing t.spaced tokens, rest.drop 1, 1⟩
      else .error (.invalidCall t.text source .takesNoArguments) := by
  rw [lowerStep, h]
  generalize hresult : strategy.groupingTokens source place = result
  rcases hs with rfl | rfl <;> simp only [hresult] <;> cases result <;> rfl

/-- Lowers a list of tokens, and counts the calls that are replaced. -/
def lowerCalls (functions : FunctionMap) (place : Place) (source : String) :
    List Token → Except Expression.Error (List Token × Nat)
  | [] => .ok ([], 0)
  | t :: ts =>
    match _h : lowerStep functions place source t ts with
    | .error e => .error e
    | .ok step =>
      (lowerCalls functions place source step.rest).map fun (us, count) =>
        (step.put ++ us, step.calls + count)
termination_by ts => ts.length
decreasing_by
  have := length_rest_lowerStep _h
  simp only [List.length_cons]
  omega

@[simp] theorem lowerCalls_nil (functions : FunctionMap) (place : Place) (source : String) :
    lowerCalls functions place source [] = .ok ([], 0) := by
  rw [lowerCalls]

theorem lowerCalls_cons (functions : FunctionMap) (place : Place) (source : String) (t : Token)
    (ts : List Token) :
    lowerCalls functions place source (t :: ts) =
      (lowerStep functions place source t ts).bind fun step =>
        (lowerCalls functions place source step.rest).map fun (us, count) =>
          (step.put ++ us, step.calls + count) := by
  rw [lowerCalls]
  split
  · rename_i e h
    rw [h]
    rfl
  · rename_i step h
    rw [h]
    rfl

/-! ## The loop over a stream -/

theorem callAt?_streamAt (functions : FunctionMap) (source : String) (done ts : List Token)
    (t : Token) : functions.callAt? (streamAt source done (t :: ts)) = functions.callee? t ts := by
  cases ts with
  | nil => simp [FunctionMap.callAt?, TokenStream.current?, peek?_streamAt, FunctionMap.callee?]
  | cons next ts =>
    simp [FunctionMap.callAt?, TokenStream.current?, peek?_streamAt, FunctionMap.callee?]

/-- A call starts with a name and an opening parenthesis. -/
theorem callee?_eq_some {functions : FunctionMap} {t : Token} {ts : List Token}
    {strategy : Strategy} (h : functions.callee? t ts = some strategy) :
    ∃ next rest, ts = next :: rest ∧ t.kind = .name ∧ next.kind = .leftParen ∧
      functions.get? t.text = some strategy := by
  cases ts with
  | nil => cases h
  | cons next rest =>
    simp only [FunctionMap.callee?] at h
    split at h
    · rename_i hk
      exact ⟨next, rest, rfl, hk.1, hk.2, h⟩
    · cases h

theorem isCall_streamAt {functions : FunctionMap} (source : String) (done : List Token)
    {ts : List Token} {t : Token} {strategy : Strategy} (h : functions.callee? t ts = some strategy) :
    IsCall functions (streamAt source done (t :: ts)).tokens (streamAt source done (t :: ts)).cursor t
      strategy := by
  obtain ⟨t', hcall⟩ := callAt?_eq_some_iff.1 ((callAt?_streamAt functions source done ts t).trans h)
  cases (current?_streamAt source done (t :: ts)).symm.trans hcall.callee
  exact hcall

theorem afterEmptyCall_streamAt {source : String} {done rest : List Token} {t next : Token}
    (hn : next.kind = .leftParen) :
    afterEmptyCall (streamAt source done (t :: next :: rest)) =
      if rest.head?.any (·.kind = .rightParen) then .ok (done.length + 3)
      else .error (.invalidCall t.text source .takesNoArguments) := by
  simp only [afterEmptyCall, TokenStream.current?, peek?_streamAt, List.getElem?_cons_succ,
    List.getElem?_cons_zero, Option.any_some, hn, decide_true, Bool.true_and, Option.map_some,
    Option.getD_some]
  rw [← List.head?_eq_getElem?]
  rfl

theorem result_replaceGrouping {callee : String} {inside : String → List Token}
    {outside : List Token} {warning source : String} {place : Place} {done rest : List Token}
    {t next : Token} (hn : next.kind = .leftParen) :
    (replaceGrouping callee inside outside warning (streamAt source done (t :: next :: rest))
        place).result =
      if rest.head?.any (·.kind = .rightParen) then
        (groupingTokens callee inside outside source place).map (⟨·, done.length + 3⟩)
      else .error (.invalidCall t.text source .takesNoArguments) := by
  rw [replaceGrouping, Attempt.result_bind, Attempt.result_ofExcept, afterEmptyCall_streamAt hn]
  split
  · simp only [bind, Except.bind, groupingTokens]
    cases groupingAncestor place with
    | none => rfl
    | some found =>
      simp only []
      split <;> rfl
  · rfl

theorem callbackCall_streamAt {source : String} {done rest : List Token} {t next : Token}
    (name : String) :
    callbackCall name (streamAt source done (t :: next :: rest)) =
      ⟨callbackTokens name rest, done.length + 2⟩ := by
  have hstop : min ((streamAt source done (t :: next :: rest)).cursor + 2)
      (streamAt source done (t :: next :: rest)).tokens.length = done.length + 2 := by
    simp only [streamAt, List.length_append, List.length_cons]
    omega
  have hget : (streamAt source done (t :: next :: rest)).tokens[done.length + 2]? = rest.head? := by
    have := peek?_streamAt source done (t :: next :: rest) 2
    rw [TokenStream.peek?] at this
    rw [List.head?_eq_getElem?]
    exact this
  simp only [callbackCall, hstop, hget, callbackTokens]

/-- A strategy does to a stream what a step of lowering does to a list: both fail alike, or both
replace the same number of tokens by the same ones. -/
def ReplacesAlike (functions : FunctionMap) (place : Place) (source : String) (done : List Token)
    (t : Token) (ts : List Token) (strategy : Strategy) : Prop :=
  (∃ e, (strategy.replace (streamAt source done (t :: ts)) place).result = .error e ∧
    lowerStep functions place source t ts = .error e) ∨
  ∃ tokens count, 0 < count ∧ count ≤ (t :: ts).length ∧
    (strategy.replace (streamAt source done (t :: ts)) place).result =
      .ok ⟨tokens, done.length + count⟩ ∧
    lowerStep functions place source t ts =
      .ok ⟨withSpacing t.spaced tokens, (t :: ts).drop count, 1⟩

theorem replacesAlike_grouping {functions : FunctionMap} {place : Place} {source : String}
    {done rest : List Token} {t next : Token} {strategy : Strategy}
    (h : functions.callee? t (next :: rest) = some strategy)
    (hs : strategy = .currentGroup ∨ strategy = .currentGroupingKey)
    (hn : next.kind = .leftParen) :
    ReplacesAlike functions place source done t (next :: rest) strategy := by
  have hreplace : (strategy.replace (streamAt source done (t :: next :: rest)) place).result =
      if rest.head?.any (·.kind = .rightParen) then
        (strategy.groupingTokens source place).map (⟨·, done.length + 3⟩)
      else .error (.invalidCall t.text source .takesNoArguments) := by
    rcases hs with rfl | rfl <;> exact result_replaceGrouping hn
  rw [ReplacesAlike, hreplace, lowerStep_grouping h hs]
  cases rest with
  | nil => exact .inl ⟨_, rfl, rfl⟩
  | cons closing rest =>
    split
    · cases strategy.groupingTokens source place with
      | error e => exact .inl ⟨e, rfl, rfl⟩
      | ok tokens => exact .inr ⟨tokens, 3, by omega, by simp, rfl, rfl⟩
    · exact .inl ⟨_, rfl, rfl⟩

/-- Where a call stands, the strategies do to a stream what a step of lowering does to a list. -/
theorem replacesAlike_of_callee? {functions : FunctionMap} (hf : functions.Plain) (place : Place)
    (source : String) (done : List Token) {ts : List Token} {t : Token} {strategy : Strategy}
    (h : functions.callee? t ts = some strategy) :
    ReplacesAlike functions place source done t ts strategy := by
  obtain ⟨next, rest, rfl, ht, hn, hs⟩ := callee?_eq_some h
  rcases hf _ _ hs with rfl | rfl | rfl
  · exact replacesAlike_grouping h (.inl rfl) hn
  · exact replacesAlike_grouping h (.inr rfl) hn
  · refine .inr ⟨callbackTokens t.text rest, 2, by omega, by simp, ?_, ?_⟩
    · rw [Strategy.replace, Attempt.result_pure, callbackCall_streamAt]
    · rw [lowerStep, h]
      rfl

/-- The loop does to the tokens that are left what the recursion does. -/
theorem replaceCallsFrom_streamAt {functions : FunctionMap} (hf : functions.Plain) (place : Place)
    (source : String) (done ts : List Token) :
    (replaceCallsFrom functions place (streamAt source done ts)).result =
      (lowerCalls functions place source ts).map fun (us, count) =>
        (streamAt source (done ++ us) [], count) := by
  induction hn : ts.length using Nat.strongRecOn generalizing done ts with
  | ind n ih =>
  subst hn
  cases ts with
  | nil =>
    rw [result_of_atEnd (current?_streamAt ..), lowerCalls_nil]
    simp [Except.map]
  | cons t ts =>
    rw [lowerCalls_cons]
    cases hc : functions.callee? t ts with
    | none =>
      have hl : lowerStep functions place source t ts = .ok ⟨[t], ts, 0⟩ := by
        rw [lowerStep, hc]
      have hstep : LoopStep functions place (streamAt source done (t :: ts)) 0 _ :=
        .keep (current?_streamAt ..) (by rw [callAt?_streamAt, hc])
      rw [hstep.result, map_add_zero, advance_streamAt, ih ts.length (by simp) _ _ rfl, hl]
      simp only [Except.bind]
      cases lowerCalls functions place source ts with
      | error e => rfl
      | ok result => simp [Except.map]
    | some strategy =>
      have hcall := isCall_streamAt source done hc
      rcases replacesAlike_of_callee? hf place source done hc with
        ⟨e, hr, hl⟩ | ⟨tokens, count, hpos, hle, hr, hl⟩
      · rw [result_of_isCall hcall, hr, hl]
        rfl
      · have hlt : (streamAt source done (t :: ts)).cursor < done.length + count := by
          simp only [streamAt]
          omega
        have hlen : ((t :: ts).drop count).length < (t :: ts).length := by
          rw [List.length_drop]
          omega
        rw [result_of_isCall hcall, hr, hl]
        simp only [Except.bind, min_stop_streamAt source done hle, hlt, ↓reduceIte,
          putTokens_streamAt source done (t :: ts) _ hle]
        rw [ih _ hlen _ _ rfl]
        cases lowerCalls functions place source ((t :: ts).drop count) with
        | error e => rfl
        | ok result => simp [Except.map, Nat.add_comm]

/-- Replacing calls in a stream is lowering its tokens. -/
theorem replaceCalls_eq_lowerCalls {functions : FunctionMap} (hf : functions.Plain) (place : Place)
    (source : String) (ts : List Token) (cursor : Nat) :
    (replaceCalls functions place ⟨source, ts, cursor⟩).result =
      (lowerCalls functions place source ts).map fun (us, count) =>
        (⟨source, us, us.length⟩, count) := by
  have h := replaceCallsFrom_streamAt hf place source [] ts
  simp only [List.nil_append] at h
  have hs : (⟨source, ts, cursor⟩ : TokenStream).seek 0 = streamAt source [] ts := by
    simp [TokenStream.seek, streamAt]
  rw [replaceCalls, hs, h]
  cases lowerCalls functions place source ts with
  | error e => rfl
  | ok result => simp [Except.map, streamAt]

/-- Compiling is reading, lowering and writing. -/
theorem result_compile {functions : FunctionMap} (hf : functions.Plain) (place : Place)
    (expression : String) :
    (compile functions place expression).result =
      (tokenize expression).bind fun ts =>
        (lowerCalls functions place expression ts).map fun (us, _) =>
          String.ofList (renderTokens us) := by
  simp only [compile, TokenStream.read, Attempt.result_bind]
  cases tokenize expression with
  | error e => rfl
  | ok ts =>
    simp only [Attempt.result_note, Attempt.result_pure, bind, Except.bind,
      replaceCalls_eq_lowerCalls hf]
    cases lowerCalls functions place expression ts with
    | error e => rfl
    | ok result =>
      simp only [Except.map]
      split <;> rfl

/-! ## What lowering reads of a place -/

section Place

variable {place place' : Place} (h : groupingAncestor place = groupingAncestor place')

include h

theorem lowerStep_congr (functions : FunctionMap) (source : String) (t : Token) (ts : List Token) :
    lowerStep functions place source t ts = lowerStep functions place' source t ts := by
  have htokens (strategy : Strategy) :
      strategy.groupingTokens source place = strategy.groupingTokens source place' := by
    cases strategy <;> simp only [Strategy.groupingTokens, groupingTokens, h]
  simp only [lowerStep, htokens]

theorem lowerCalls_congr (functions : FunctionMap) (source : String) (ts : List Token) :
    lowerCalls functions place source ts = lowerCalls functions place' source ts := by
  induction hn : ts.length using Nat.strongRecOn generalizing ts with
  | ind n ih =>
  subst hn
  cases ts with
  | nil => rw [lowerCalls_nil, lowerCalls_nil]
  | cons t ts =>
    rw [lowerCalls_cons, lowerCalls_cons, ← lowerStep_congr h]
    cases hl : lowerStep functions place source t ts with
    | error e => rfl
    | ok step =>
      have hlt := Nat.lt_succ_of_le (length_rest_lowerStep hl)
      simp only [Except.bind, ih _ hlt step.rest rfl]

/-- Of the place of an expression, only the grouping around it matters. -/
theorem compile_congr {functions : FunctionMap} (hf : functions.Plain) (expression : String) :
    (compile functions place expression).result = (compile functions place' expression).result := by
  simp only [result_compile hf, lowerCalls_congr h]

end Place

/-! ## What lowering does when it succeeds -/

/-- The tokens that a call of a grouping function can become. -/
def IsGroupingTokens (tokens : List Token) : Prop :=
  tokens = emptySelection ∨ tokens = [.ofString ""] ∨
    ∃ id, isGroupId id = true ∧ (tokens = groupSelection id ∨ tokens = groupKey id)

/-- The tokens of the second list are those of the first one, lowered. -/
inductive Lowers (functions : FunctionMap) : List Token → List Token → Prop
  | nil : Lowers functions [] []
  | keep {t : Token} {ts us : List Token} : functions.callee? t ts = none → Lowers functions ts us →
    Lowers functions (t :: ts) (t :: us)
  | callback {t opening : Token} {ts us : List Token} : t.kind = .name → opening.kind = .leftParen →
    Lowers functions ts us →
    Lowers functions (t :: opening :: ts) (withSpacing t.spaced (callbackTokens t.text ts) ++ us)
  | grouping {t opening closing : Token} {ts us tokens : List Token} : t.kind = .name →
    opening.kind = .leftParen → closing.kind = .rightParen → IsGroupingTokens tokens →
    Lowers functions ts us →
    Lowers functions (t :: opening :: closing :: ts) (withSpacing t.spaced tokens ++ us)

theorem isGroupingTokens {strategy : Strategy} {source : String} {place : Place}
    {tokens : List Token} (hs : strategy = .currentGroup ∨ strategy = .currentGroupingKey)
    (h : strategy.groupingTokens source place = .ok tokens) : IsGroupingTokens tokens := by
  rcases hs with rfl | rfl <;> simp only [Strategy.groupingTokens, groupingTokens] at h <;> split at h
  · cases h
    exact .inl rfl
  · rename_i id _
    split at h
    · rename_i hid
      cases h
      exact .inr (.inr ⟨id, hid, .inl rfl⟩)
    · cases h
  · cases h
    exact .inr (.inl rfl)
  · rename_i id _
    split at h
    · rename_i hid
      cases h
      exact .inr (.inr ⟨id, hid, .inr rfl⟩)
    · cases h

/-- What one step can do. -/
theorem lowerStep_cases {functions : FunctionMap} (hf : functions.Plain) {place : Place}
    {source : String} {t : Token} {ts : List Token} {step : LoweringStep}
    (h : lowerStep functions place source t ts = .ok step) :
    (functions.callee? t ts = none ∧ step = ⟨[t], ts, 0⟩) ∨
    (∃ opening rest, ts = opening :: rest ∧ t.kind = .name ∧ opening.kind = .leftParen ∧
      functions.get? t.text = some (.callback t.text) ∧
      step = ⟨withSpacing t.spaced (callbackTokens t.text rest), rest, 1⟩) ∨
    ∃ opening closing rest tokens, ts = opening :: closing :: rest ∧ t.kind = .name ∧
      opening.kind = .leftParen ∧ closing.kind = .rightParen ∧ IsGroupingTokens tokens ∧
      step = ⟨withSpacing t.spaced tokens, rest, 1⟩ := by
  cases hc : functions.callee? t ts with
  | none =>
    rw [lowerStep, hc] at h
    cases h
    exact .inl ⟨rfl, rfl⟩
  | some strategy =>
    obtain ⟨opening, rest, rfl, ht, ho, hs⟩ := callee?_eq_some hc
    have grouping (hg : strategy = .currentGroup ∨ strategy = .currentGroupingKey) :
        ∃ opening' closing rest' tokens, opening :: rest = opening' :: closing :: rest' ∧
          t.kind = .name ∧ opening'.kind = .leftParen ∧ closing.kind = .rightParen ∧
          IsGroupingTokens tokens ∧ step = ⟨withSpacing t.spaced tokens, rest', 1⟩ := by
      rw [lowerStep_grouping hc hg] at h
      cases rest with
      | nil => cases h
      | cons closing rest =>
        split at h
        · rename_i hclose
          obtain ⟨tokens, htokens, rfl⟩ := exists_of_map_eq_ok h
          exact ⟨opening, closing, rest, tokens, rfl, ht, ho, by simpa using hclose,
            isGroupingTokens hg htokens, rfl⟩
        · cases h
    rcases hf _ _ hs with rfl | rfl | rfl
    · exact .inr (.inr (grouping (.inl rfl)))
    · exact .inr (.inr (grouping (.inr rfl)))
    · rw [lowerStep, hc] at h
      cases h
      exact .inr (.inl ⟨opening, rest, rfl, ht, ho, hs, rfl⟩)

/-- Lowering that succeeds keeps tokens and replaces calls. -/
theorem lowers_of_lowerCalls {functions : FunctionMap} (hf : functions.Plain) {place : Place}
    {source : String} {ts us : List Token} {count : Nat}
    (h : lowerCalls functions place source ts = .ok (us, count)) : Lowers functions ts us := by
  induction hn : ts.length using Nat.strongRecOn generalizing ts us count with
  | ind n ih =>
  subst hn
  cases ts with
  | nil =>
    rw [lowerCalls_nil] at h
    cases h
    exact .nil
  | cons t ts =>
    rw [lowerCalls_cons] at h
    cases hl : lowerStep functions place source t ts with
    | error e =>
      rw [hl] at h
      cases h
    | ok step =>
      rw [hl] at h
      obtain ⟨result, hr, he⟩ := exists_of_map_eq_ok h
      cases he
      have hrest := ih _ (Nat.lt_succ_of_le (length_rest_lowerStep hl)) hr rfl
      rcases lowerStep_cases hf hl with ⟨hc, rfl⟩ | ⟨opening, rest, rfl, ht, ho, -, rfl⟩ |
        ⟨opening, closing, rest, tokens, rfl, ht, ho, hcl, hg, rfl⟩
      · exact .keep hc hrest
      · exact .callback ht ho hrest
      · exact .grouping ht ho hcl hg hrest

/-- An expression that is compiled is read, and its tokens are lowered. -/
theorem exists_lowers_of_compile {functions : FunctionMap} (hf : functions.Plain) {place : Place}
    {e v : String} (h : (compile functions place e).result = .ok v) :
    ∃ ts us, tokenize e = .ok ts ∧ Lowers functions ts us ∧
      v = String.ofList (renderTokens us) := by
  rw [result_compile hf] at h
  cases ht : tokenize e with
  | error fault =>
    rw [ht] at h
    cases h
  | ok ts =>
    rw [ht] at h
    obtain ⟨⟨us, count⟩, hl, rfl⟩ := exists_of_map_eq_ok h
    exact ⟨ts, us, rfl, lowers_of_lowerCalls hf hl, rfl⟩

end XslLowering.Stylesheet
