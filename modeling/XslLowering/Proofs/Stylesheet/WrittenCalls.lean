import XslLowering.Proofs.Stylesheet.CallbackCalls

/-!
# The callbacks that lowering calls

Lowering an expression puts tokens in place of others. Where a call of callbacks is among its tokens
in the end, the token was there before, or a strategy has put it there; the callback that is called is
one of those that the strategies call.

* `Strategy.CallsOnly`: which callbacks a strategy calls;
* `CallsNamed`: the calls among some tokens are old, or of certain callbacks;
* `callsNamed_of_replaceCallsFrom`: the loop over the tokens of an expression leaves such tokens;
* `WritesCall`: the walk over a document writes a call of callbacks;
* `name_of_writesCall`: and it names one of these callbacks.
-/

namespace XslLowering.Stylesheet

open Expression

/-- The name of the function through which callbacks are called. -/
def callName : String := callbackQualifier ++ ":call"

/-! ## Calls among tokens -/

/-- Where a call of callbacks starts among the tokens, this token is one of `old`, or the call names a
callback for which `P` holds. -/
def CallsNamed (old : List Token) (P : String → Prop) : List Token → Prop
  | [] => True
  | t :: ts =>
    (t.text = callName → t ∈ old ∨ ∃ n rest, ts = .leftParen :: .ofString n :: rest ∧ P n) ∧
      CallsNamed old P ts

namespace CallsNamed

variable {old ts us : List Token} {P : String → Prop}

theorem append (h : CallsNamed old P ts) (h' : CallsNamed old P us) :
    CallsNamed old P (ts ++ us) := by
  induction ts with
  | nil => exact h'
  | cons t ts ih =>
    obtain ⟨hhead, htail⟩ := h
    refine ⟨fun ht => ?_, ih htail⟩
    rcases hhead ht with hold | ⟨n, rest, rfl, hn⟩
    · exact .inl hold
    · exact .inr ⟨n, rest ++ us, rfl, hn⟩

theorem of_subset (h : ∀ t ∈ ts, t ∈ old) : CallsNamed old P ts := by
  induction ts with
  | nil => trivial
  | cons t ts ih =>
    rw [List.forall_mem_cons] at h
    exact ⟨fun _ => .inl h.1, ih h.2⟩

theorem of_ne (h : ∀ t ∈ ts, t.text ≠ callName) : CallsNamed old P ts := by
  induction ts with
  | nil => trivial
  | cons t ts ih =>
    rw [List.forall_mem_cons] at h
    exact ⟨fun ht => absurd ht h.1, ih h.2⟩

/-- A new call among the tokens names its callback. -/
theorem exists_name {before after : List Token} {t : Token}
    (h : CallsNamed old P (before ++ t :: after)) (ht : t.text = callName) (hold : t ∉ old) :
    ∃ n rest, after = .leftParen :: .ofString n :: rest ∧ P n := by
  induction before with
  | nil => exact (h.1 ht).resolve_left hold
  | cons b before ih => exact ih h.2

end CallsNamed

/-! ## What strategies put in place of calls -/

/-- The strategy calls no callbacks but those for which `P` holds. -/
def Strategy.CallsOnly (P : String → Prop) : Strategy → Prop
  | .currentGroup => True
  | .currentGroupingKey => True
  | .callback name => P name
  | .custom replace => ∀ s place replacement, (replace s place).result = .ok replacement →
    ∀ t ∈ replacement.tokens, t.text ≠ callName

theorem tokens_of_replaceGrouping {callee : String} {inside : String → List Token}
    {outside : List Token} {warning : String} {s : TokenStream} {place : Place}
    {replacement : Replacement}
    (h : (replaceGrouping callee inside outside warning s place).result = .ok replacement) :
    replacement.tokens = outside ∨ ∃ id, replacement.tokens = inside id := by
  obtain ⟨stop, -, h⟩ := Attempt.exists_of_result_bind h
  split at h
  · obtain ⟨_, -, h⟩ := Attempt.exists_of_result_bind h
    cases h
    exact .inl rfl
  · rename_i id _
    split at h
    · cases h
      exact .inr ⟨id, rfl⟩
    · cases h

theorem ofVariable_text_ne (name : String) : (Token.ofVariable name).text ≠ callName := by
  intro h
  have hhead := congrArg (fun text : String => text.toList.head?) h
  simp [Token.ofVariable, Token.synthetic, callName, callbackQualifier] at hhead

theorem ofString_text_ne (content : String) : (Token.ofString content).text ≠ callName := by
  intro h
  have hhead := congrArg (fun text : String => text.toList.head?) h
  rw [Token.ofString] at hhead
  split at hhead
  · simp [Token.synthetic, callName, callbackQualifier] at hhead
  · simp [Token.synthetic, callName, callbackQualifier] at hhead

theorem groupSelection_text_ne (id : String) : ∀ t ∈ groupSelection id, t.text ≠ callName := by
  simp only [groupSelection, List.forall_mem_cons, ofVariable_text_ne, ne_eq, not_false_eq_true,
    true_and]
  decide

theorem groupKey_text_ne (id : String) : ∀ t ∈ groupKey id, t.text ≠ callName := by
  simp only [groupKey, List.forall_mem_cons, ofVariable_text_ne, ne_eq, not_false_eq_true, true_and]
  decide

theorem forall_mem_withSpacing {spaced : Bool} {ts : List Token}
    (h : ∀ t ∈ ts, t.text ≠ callName) : ∀ t ∈ withSpacing spaced ts, t.text ≠ callName := by
  cases ts with
  | nil => exact h
  | cons t ts =>
    rw [List.forall_mem_cons] at h
    exact List.forall_mem_cons.2 h

/-- A replacement has the calls of its strategy. -/
theorem callsNamed_of_replace {P : String → Prop} {strategy : Strategy}
    (h : strategy.CallsOnly P) {s : TokenStream} {place : Place} {replacement : Replacement}
    (hr : (strategy.replace s place).result = .ok replacement) (old : List Token) (spaced : Bool) :
    CallsNamed old P (withSpacing spaced replacement.tokens) := by
  cases strategy with
  | currentGroup =>
    refine .of_ne (forall_mem_withSpacing ?_)
    rcases tokens_of_replaceGrouping hr with ht | ⟨id, ht⟩
    · rw [ht]
      decide
    · rw [ht]
      exact groupSelection_text_ne id
  | currentGroupingKey =>
    refine .of_ne (forall_mem_withSpacing ?_)
    rcases tokens_of_replaceGrouping hr with ht | ⟨id, ht⟩
    · rw [ht]
      decide
    · rw [ht]
      exact groupKey_text_ne id
  | callback name =>
    cases hr
    refine ⟨fun _ => .inr ⟨name, _, rfl, h⟩, .of_ne ?_⟩
    show ∀ t ∈ Token.leftParen :: Token.ofString name :: _, t.text ≠ callName
    refine List.forall_mem_cons.2 ⟨by decide, List.forall_mem_cons.2 ⟨ofString_text_ne name, ?_⟩⟩
    split
    · decide
    · exact nofun
  | custom replace => exact .of_ne (forall_mem_withSpacing (h s place replacement hr))

/-! ## The loop over the tokens -/

theorem mem_drop_of_current? {s : TokenStream} {t : Token} (h : s.current? = some t) :
    t ∈ s.tokens.drop s.cursor := by
  refine List.mem_of_getElem? (i := 0) ?_
  rw [List.getElem?_drop]
  exact h

/-- What is left to read, once tokens are put in place of others. -/
theorem drop_putTokens {s : TokenStream} {stop : Nat} (tokens : List Token) (h : s.cursor < stop)
    (hs : stop ≤ s.tokens.length) :
    (putTokens s stop tokens).tokens.drop (putTokens s stop tokens).cursor =
      s.tokens.drop stop := by
  have hstart : min s.cursor stop = s.cursor := by omega
  have hstop : min stop s.tokens.length = stop := by omega
  have hlength : (s.tokens.take s.cursor ++ tokens).length = s.cursor + tokens.length := by
    rw [List.length_append, List.length_take]
    omega
  have hcursor : min (s.cursor + tokens.length)
      (s.tokens.take s.cursor ++ tokens ++ s.tokens.drop stop).length =
        s.cursor + tokens.length := by
    rw [List.length_append, hlength]
    omega
  simp only [putTokens, TokenStream.splice, TokenStream.seek, hstop, hstart, hcursor]
  rw [← hlength, List.drop_left]

/-- The loop calls what the strategies for the names call, and leaves alone the rest. -/
theorem callsNamed_of_replaceCallsFrom {functions : FunctionMap} {P : String → Prop}
    {old : List Token} (hf : ∀ t ∈ old, t.kind = .name → ∀ strategy,
      functions.get? t.text = some strategy → strategy.CallsOnly P)
    {place : Place} {s s' : TokenStream} {count : Nat}
    (hbefore : CallsNamed old P (s.tokens.take s.cursor))
    (hafter : ∀ t ∈ s.tokens.drop s.cursor, t ∈ old)
    (h : (replaceCallsFrom functions place s).result = .ok (s', count)) :
    CallsNamed old P s'.tokens := by
  -- By induction on the number of tokens that are left.
  induction hn : s.tokens.length - s.cursor using Nat.strongRecOn generalizing s count with
  | ind n ih =>
  rcases replaceCallsFrom_cases h with ⟨-, rfl⟩ | ⟨token, htoken, -, h⟩ |
    ⟨token, strategy, replacement, others, htoken, hcall, hr, hstop, h⟩
  · rw [← List.take_append_drop s'.cursor s'.tokens]
    exact hbefore.append (.of_subset hafter)
  · have hlt := lt_of_current? htoken
    have hcursor : s.advance.cursor = s.cursor + 1 := by
      simp only [TokenStream.advance, TokenStream.seek]
      omega
    refine ih _ (hn ▸ remaining_advance htoken) ?_ ?_ h rfl
    · rw [hcursor, TokenStream.advance, TokenStream.tokens_seek, List.take_add_one]
      refine hbefore.append (.of_subset fun t ht => ?_)
      rw [show s.tokens[s.cursor]? = some token from htoken] at ht
      rw [List.mem_singleton.1 ht]
      exact hafter token (mem_drop_of_current? htoken)
    · rw [hcursor]
      intro t ht
      exact hafter t ((List.drop_sublist_drop_left s.tokens (Nat.le_succ _)).subset ht)
  · have hle : min replacement.stop s.tokens.length ≤ s.tokens.length := Nat.min_le_right ..
    refine ih _ (hn ▸ remaining_putTokens _ hstop hle) ?_ ?_ h rfl
    · rw [take_putTokens _ hstop hle]
      obtain ⟨t, hcall⟩ := callAt?_eq_some_iff.1 hcall
      have hcalls := hf t (hafter t (mem_drop_of_current? hcall.callee)) hcall.name strategy
        hcall.registered
      exact hbefore.append (callsNamed_of_replace hcalls hr old _)
    · rw [drop_putTokens _ hstop hle]
      intro t ht
      exact hafter t ((List.drop_sublist_drop_left s.tokens (Nat.le_of_lt hstop)).subset ht)

/-! ## Calls in a walk -/

/-- The walk over a document comes to a site, at which it finds the document as `d₁`. A walk is the
loop over the sites (`outcome_run_sites`). -/
def ComesTo (functions : FunctionMap) (d : Document) (s : Site) (d₁ : Document) : Prop :=
  ∃ before after, sites d = before ++ s :: after ∧
    (before.forM (Site.lower functions)).outcome d = (d₁, .ok ())

/-- The walk over a document writes a call of callbacks, which goes on with `after`: at a site that
it comes to, the token that starts the call is new among those of a lowered expression. -/
def WritesCall (functions : FunctionMap) (d : Document) (after : List Token) : Prop :=
  ∃ s d₁ value expression tokens s' count before t, ComesTo functions d s d₁ ∧
    d₁.attribute? s.node s.name = some value ∧ expression ∈ s.expressions value ∧
    tokenize expression = .ok tokens ∧
    (replaceCalls functions (s.placeIn d₁) ⟨expression, tokens, 0⟩).result = .ok (s', count) ∧
    s'.tokens = before ++ t :: after ∧ t.text = callName ∧ t ∉ tokens

theorem qualifiedName_of_tokenize {expression : String} {tokens : List Token}
    (h : tokenize expression = .ok tokens) {t : Token} (ht : t ∈ tokens) (hname : t.kind = .name) :
    QualifiedName t.text.toList :=
  qualifiedName_of_hasText (hasText_of_scan (tokenize_eq_ok_iff.1 h).1 t ht).1 hname

/-- The calls that a walk writes are of callbacks that the strategies call. -/
theorem name_of_writesCall {functions : FunctionMap} {P : String → Prop}
    (hf : ∀ name : String, QualifiedName name.toList →
      ∀ strategy, functions.get? name = some strategy → strategy.CallsOnly P)
    {d : Document} {after : List Token} (h : WritesCall functions d after) :
    ∃ n rest, after = .leftParen :: .ofString n :: rest ∧ P n := by
  obtain ⟨s, d₁, value, expression, tokens, s', count, before, t, -, -, -, htokens, hloop, hs', ht,
    hnew⟩ := h
  have hcalls : CallsNamed tokens P s'.tokens := by
    refine callsNamed_of_replaceCallsFrom
      (fun t ht hname => hf t.text (qualifiedName_of_tokenize htokens ht hname)) ?_ ?_ hloop
    · simp only [TokenStream.seek, Nat.zero_min, List.take_zero]
      trivial
    · simp only [TokenStream.seek, Nat.zero_min, List.drop_zero]
      exact fun t ht => ht
  rw [hs'] at hcalls
  exact hcalls.exists_name ht hnew

/-- A name is a literal in apostrophes. -/
theorem text_ofString_of_qualifiedName {name : String} (h : QualifiedName name.toList) :
    (Token.ofString name).text = "'" ++ name ++ "'" := by
  have hnot : '\x27' ∉ name.toList := h.not_mem (by decide) (by decide)
  rw [Token.ofString, if_neg (by simpa using hnot)]
  rfl

end XslLowering.Stylesheet
