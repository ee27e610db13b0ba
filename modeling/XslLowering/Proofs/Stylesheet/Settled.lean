import XslLowering.Proofs.Stylesheet.Retokenizing

/-!
# Expressions that are lowered already

Lowering leaves no call behind that it would replace, and what it writes is read as it is meant. So
a lowered expression is compiled to itself, wherever it stands:

* `Quiet`: no call that would be replaced is among the tokens, so that `compile` writes them as they
  are (`result_compile_of_quiet`);
* `Settled`: tokens that make up an expression and are quiet, which `compile` leaves as they are
  (`Settled.compile`);
* `settled_of_lowers`: lowered tokens are settled once slashes are fused;
* `compile_compile`: compiling an expression twice is compiling it once, also if it stands elsewhere
  the second time (`compiled_expression_is_fixpoint`).
-/

namespace XslLowering.Stylesheet

open Expression

variable {functions : FunctionMap}

/-! ## Tokens without calls to replace -/

/-- No call that is to be replaced is among the tokens. -/
def Quiet (functions : FunctionMap) (ts : List Token) : Prop :=
  (ts.map Token.key).IsChain fun t next =>
    t.1 = .name → next.1 = .leftParen → functions.get? t.2 = none

theorem quiet_cons {t : Token} {ts : List Token}
    (ht : t.kind = .name → ∀ next ∈ ts.head?, next.kind = .leftParen →
      functions.get? t.text = none)
    (h : Quiet functions ts) : Quiet functions (t :: ts) := by
  cases ts with
  | nil => exact .singleton _
  | cons next ts => exact List.isChain_cons_cons.2 ⟨fun hk hn => ht hk next rfl hn, h⟩

/-- What is no name calls nothing. -/
theorem quiet_cons_of_ne {t : Token} {ts : List Token} (ht : t.kind ≠ .name)
    (h : Quiet functions ts) : Quiet functions (t :: ts) :=
  quiet_cons (fun hk => absurd hk ht) h

/-- A function that is not registered can be called. -/
theorem quiet_cons_of_get? {t : Token} {ts : List Token} (ht : functions.get? t.text = none)
    (h : Quiet functions ts) : Quiet functions (t :: ts) :=
  quiet_cons (fun _ _ _ _ => ht) h

theorem Quiet.tail {t : Token} {ts : List Token} (h : Quiet functions (t :: ts)) :
    Quiet functions ts := by
  cases ts with
  | nil => exact .nil
  | cons next ts => exact (List.isChain_cons_cons.1 h).2

theorem callee?_of_quiet {t : Token} {ts : List Token} (h : Quiet functions (t :: ts)) :
    functions.callee? t ts = none := by
  cases ts with
  | nil => rfl
  | cons next ts =>
    have ht := (List.isChain_cons_cons.1 h).1
    rw [FunctionMap.callee?]
    split
    · rename_i hk
      exact ht hk.1 hk.2
    · rfl

/-- Where there is nothing to replace, the loop goes to the end, whatever the strategies do. -/
theorem replaceCallsFrom_of_quiet {ts : List Token} (h : Quiet functions ts) (place : Place)
    (source : String) (done : List Token) :
    (replaceCallsFrom functions place (streamAt source done ts)).result =
      .ok (streamAt source (done ++ ts) [], 0) := by
  induction ts generalizing done with
  | nil => rw [result_of_atEnd (current?_streamAt ..), List.append_nil]
  | cons t ts ih =>
    have hstep : LoopStep functions place (streamAt source done (t :: ts)) 0 _ :=
      .keep (current?_streamAt ..) (by rw [callAt?_streamAt, callee?_of_quiet h])
    have hgo := ih h.tail (done ++ [t])
    rw [hstep.result, advance_streamAt, hgo, List.append_assoc]
    rfl

/-- An expression without calls to replace is compiled to what its tokens are written as. -/
theorem result_compile_of_quiet {e : String} {ts : List Token} (ht : tokenize e = .ok ts)
    (h : Quiet functions ts) (place : Place) :
    (compile functions place e).result = .ok (String.ofList (renderTokens ts)) := by
  have hloop := replaceCallsFrom_of_quiet h place e []
  have hseek : (⟨e, ts, 0⟩ : TokenStream).seek 0 = streamAt e [] ts := by
    simp [TokenStream.seek, streamAt]
  simp only [compile, TokenStream.read, ht, bind, Attempt.result_note, Attempt.result_pure,
    replaceCalls, hseek, hloop]
  simp [TokenStream.render, streamAt]

/-! ## Settled tokens -/

/-- The tokens make up an expression in which nothing is to be lowered. -/
structure Settled (functions : FunctionMap) (ts : List Token) : Prop where
  hasText : ∀ t ∈ ts, t.HasText
  apart : Apart ts
  nesting : nesting [] ts = some []
  quiet : Quiet functions ts

theorem Settled.tokenize {ts : List Token} (h : Settled functions ts) :
    tokenize (String.ofList (renderTokens ts)) = .ok (reread ts) :=
  tokenize_renderTokens h.hasText h.apart h.nesting

/-- A settled expression is compiled to itself. -/
theorem Settled.compile {ts : List Token} (h : Settled functions ts) (place : Place) :
    (compile functions place (String.ofList (renderTokens ts))).result =
      .ok (String.ofList (renderTokens ts)) := by
  have hquiet : Quiet functions (reread ts) := by
    rw [Quiet, map_key_reread]
    exact h.quiet
  rw [result_compile_of_quiet h.tokenize hquiet, renderTokens_reread]

/-! ## Lowered tokens are settled -/

/-- The functions that replacements of calls call of their own accord. -/
def replacementCallees : List String := ["ext:call", "generate-id", "string"]

/-- The functions that lowered expressions and templates call of their own accord. -/
def loweredCallees : List String := replacementCallees ++ ["concat"]

theorem get?_replacementCallees (h : ∀ name ∈ loweredCallees, functions.get? name = none) :
    ∀ name ∈ replacementCallees, functions.get? name = none :=
  fun name hname => h name (List.mem_append_left _ hname)

@[simp] theorem map_key_withSpacing (spaced : Bool) (ts : List Token) :
    (withSpacing spaced ts).map Token.key = ts.map Token.key := by
  cases ts <;> rfl

theorem quiet_withSpacing {ts us : List Token} (spaced : Bool) (h : Quiet functions (ts ++ us)) :
    Quiet functions (withSpacing spaced ts ++ us) := by
  rw [Quiet, List.map_append] at h ⊢
  rwa [map_key_withSpacing]

/-- A parenthesis that lowered tokens start with was there before. -/
theorem head_of_lowers {ts us : List Token} (h : Lowers functions ts us) :
    ∀ u ∈ us.head?, u.kind = .leftParen → u ∈ ts.head? := by
  intro u hu hk
  cases h with
  | nil => cases hu
  | keep => exact hu
  | @callback t _ ts us =>
    obtain ⟨commas, he, -⟩ := callbackTokens_eq t.text ts
    rw [he] at hu
    cases hu
    cases hk
  | grouping _ _ _ hg =>
    rcases hg with rfl | rfl | ⟨id, -, rfl | rfl⟩ <;> cases hu <;> cases hk

section

variable (hn : ∀ name ∈ replacementCallees, functions.get? name = none)

include hn

theorem quiet_callbackTokens (name : String) (rest : List Token) {us : List Token}
    (h : Quiet functions us) : Quiet functions (callbackTokens name rest ++ us) := by
  obtain ⟨commas, he, hcommas⟩ := callbackTokens_eq name rest
  rw [he]
  refine quiet_cons_of_get? (hn _ (by decide)) (quiet_cons_of_ne (by decide) ?_)
  refine quiet_cons_of_ne (by rw [kind_ofString]; decide) ?_
  rcases hcommas with rfl | rfl
  · exact h
  · exact quiet_cons_of_ne (by decide) h

theorem quiet_isGroupingTokens {tokens us : List Token} (hg : IsGroupingTokens tokens)
    (h : Quiet functions us) : Quiet functions (tokens ++ us) := by
  have no_paren {t next : Token} {ts : List Token} (hk : next.kind ≠ .leftParen)
      (h : Quiet functions (next :: ts)) : Quiet functions (t :: next :: ts) :=
    quiet_cons (fun _ u hu hp => absurd hp (Option.some.inj hu ▸ hk)) h
  rcases hg with rfl | rfl | ⟨id, -, rfl | rfl⟩
  · refine quiet_cons_of_ne (by decide) (no_paren (by decide) ?_)
    exact quiet_cons_of_ne (by decide) (quiet_cons_of_ne (by decide) h)
  · exact quiet_cons_of_ne (by decide) h
  · refine quiet_cons_of_ne (by nofun) (quiet_cons_of_ne (by decide) ?_)
    refine quiet_cons_of_get? (hn "generate-id" (by decide)) (quiet_cons_of_ne (by decide) ?_)
    refine quiet_cons_of_ne (by decide) (quiet_cons_of_ne (by decide) ?_)
    refine quiet_cons_of_ne (by decide) (quiet_cons_of_ne (by nofun) ?_)
    refine quiet_cons_of_ne (by decide) (no_paren (by decide) ?_)
    exact quiet_cons_of_ne (by decide) h
  · refine quiet_cons_of_get? (hn "string" (by decide)) (quiet_cons_of_ne (by decide) ?_)
    refine quiet_cons_of_ne (by nofun) (quiet_cons_of_ne (by decide) ?_)
    refine quiet_cons_of_ne (by decide) (no_paren (by decide) ?_)
    exact quiet_cons_of_ne (by decide) h

/-- Lowering leaves no call behind that it would replace. -/
theorem quiet_of_lowers {ts us : List Token} (h : Lowers functions ts us) : Quiet functions us := by
  induction h with
  | nil => exact .nil
  | @keep t ts us hc h ih =>
    refine quiet_cons (fun hk next hnext hp => ?_) ih
    obtain ⟨rest, rfl⟩ := List.head?_eq_some_iff.1 (head_of_lowers h next hnext hp)
    rwa [FunctionMap.callee?, if_pos ⟨hk, hp⟩] at hc
  | callback _ _ _ ih => exact quiet_withSpacing _ (quiet_callbackTokens hn _ _ ih)
  | grouping _ _ _ hg _ ih => exact quiet_withSpacing _ (quiet_isGroupingTokens hn hg ih)

end

theorem head_fuse {ts : List Token} : ∀ u ∈ (fuse ts).head?, u.kind = .leftParen → u ∈ ts.head? := by
  intro u hu hk
  match ts with
  | [] => cases hu
  | [a] => exact hu
  | a :: b :: ts =>
    rw [fuse] at hu
    split at hu
    · cases hu
      cases hk
    · exact hu

theorem quiet_fuse {ts : List Token} (h : Quiet functions ts) : Quiet functions (fuse ts) := by
  induction ts using fuse.induct with
  | case1 => exact h
  | case2 a => exact h
  | case3 a b ts hf ih =>
    rw [fuse, if_pos hf]
    exact quiet_cons_of_ne (by simp [Token.doubled]) (ih h.tail.tail)
  | case4 a b ts hf ih =>
    rw [fuse, if_neg hf]
    refine quiet_cons (fun hk next hnext hp => ?_) (ih h.tail)
    cases head_fuse next hnext hp
    exact (List.isChain_cons_cons.1 h).1 hk hp

section

variable (hn : ∀ name ∈ replacementCallees, functions.get? name = none)

include hn

/-- Lowered tokens are settled once slashes are fused, which does not change what is written. -/
theorem settled_of_lowers {source : String} {ts us : List Token} (ht : tokenize source = .ok ts)
    (h : Lowers functions ts us) :
    Settled functions (fuse us) ∧ renderTokens (fuse us) = renderTokens us := by
  obtain ⟨hscan, hnest⟩ := tokenize_eq_ok_iff.1 ht
  obtain ⟨htext, hapart⟩ := nearlyApart_of_lowers h (hasText_of_scan hscan) (apart_of_scan hscan)
  refine ⟨⟨hasText_fuse htext, apart_fuse htext hapart, ?_, quiet_fuse (quiet_of_lowers hn h)⟩,
    renderTokens_fuse htext⟩
  rw [nesting_fuse, nesting_of_lowers h, hnest]

/-- A compiled expression is compiled to itself, wherever it stands. -/
theorem compile_compile (hf : functions.Plain) {place : Place} {e v : String}
    (h : (compile functions place e).result = .ok v) (place' : Place) :
    (compile functions place' v).result = .ok v := by
  obtain ⟨ts, us, ht, hlowers, rfl⟩ := exists_lowers_of_compile hf h
  obtain ⟨hsettled, hrender⟩ := settled_of_lowers hn ht hlowers
  rw [← hrender]
  exact hsettled.compile place'

end

/-- A compiled expression is compiled to itself, in whatever document and grouping it stands then. This
takes that the functions that replacements call are no callbacks. -/
theorem compiled_expression_is_fixpoint {registry : Callback.Registry} (hf : functions.BuiltFrom registry)
    (hr : ∀ name ∈ ["ext:call", "generate-id", "string"], registry.contains name = false)
    {place : Place} {e t : String} (h : (compile functions place e).result = .ok t)
    (place' : Place) : (compile functions place' t).result = .ok t := by
  have hn : ∀ name ∈ replacementCallees, functions.get? name = none := by
    intro name hname
    have hgrouping : name ≠ "current-group" ∧ name ≠ "current-grouping-key" := by
      constructor <;>
      · rintro rfl
        exact absurd hname (by decide)
    rw [hf.get?, if_neg hgrouping.1, if_neg hgrouping.2, hr name hname]
    rfl
  exact compile_compile hn hf.plain h place'

/-- Two slashes that have become one token, and a callback by the name of a function that templates
call: the compiled expression stays as it is even where the original could not be compiled. -/
theorem compiled_expression_is_fixpoint_in_bad_grouping :
    ∃ registry functions elsewhere, FunctionMap.BuiltFrom registry functions ∧
      (∀ name ∈ ["ext:call", "generate-id", "string"], registry.contains name = false) ∧
      (compile functions ⟨.empty, 0, none⟩ "concat(/current-group(), current-grouping-key())").result =
        .ok "ext:call('concat',//xs:sequence/*, '')" ∧
      (compile functions elsewhere "concat(/current-group(), current-grouping-key())").result =
        .error (.invalidCall "current-group" "concat(/current-group(), current-grouping-key())"
          (.invalidGroupId "a b")) ∧
      (compile functions elsewhere "ext:call('concat',//xs:sequence/*, '')").result =
        .ok "ext:call('concat',//xs:sequence/*, '')" := by
  have hf : (FunctionMap.ofCallback "concat").BuiltFrom (.register .empty "concat" (.redirect "f")) :=
    FunctionMap.builtFrom_ofCallback _ (by decide) (by decide)
  have hr : ∀ name ∈ ["ext:call", "generate-id", "string"],
      (Callback.Registry.empty.register "concat" (.redirect "f")).contains name = false := by decide
  have h : (compile (.ofCallback "concat") ⟨.empty, 0, none⟩
      "concat(/current-group(), current-grouping-key())").result =
        .ok "ext:call('concat',//xs:sequence/*, '')" := by decide +kernel
  refine ⟨_, _, ⟨Document.empty.append 0 (.element ⟨"xsl:for-each", [⟨"xmlns:xsl", xslNamespace⟩,
    ⟨"group-id", "a b"⟩]⟩), 1, some "select"⟩, hf, hr, h, by decide +kernel, ?_⟩
  exact compiled_expression_is_fixpoint hf hr h _

end XslLowering.Stylesheet
