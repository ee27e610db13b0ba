import XslLowering.Proofs.Attempt
import XslLowering.Proofs.Stylesheet.Braces
import XslLowering.Proofs.Stylesheet.Literals
import XslLowering.Proofs.Stylesheet.Settled
import XslLowering.Proofs.Stylesheet.TemplateGrammar
import XslLowering.Stylesheet.Walk

/-!
# Value templates that are lowered already

A template that is not static becomes one expression in braces: its only argument, or a call of
`concat` with all of them. Such a template is read as that one expression again, which is compiled to
itself:

* `Argument`: tokens that can be an argument; a literal is one (`argument_literal`), a compiled
  expression is one (`argument_of_compile`), and so is a `concat` of arguments (`argument_concat`);
* `expandTemplate_expandTemplate`: expanding a template twice is expanding it once.
-/

namespace XslLowering.Stylesheet

open Expression Text

/-! ## Templates with results -/

namespace ValueTemplate

variable {ε : Type}

/-- Of the attempts to compile expressions, only the results matter. -/
theorem result_arguments (compile : String → Attempt ε String) (parts : List TemplatePart) :
    (arguments compile parts).result = arguments (fun e => (compile e).result) parts := by
  induction parts with
  | nil => rfl
  | cons part parts ih =>
    simp only [arguments, Attempt.result_bind, ih, Attempt.result_pure]
    cases part with
    | literal text => rfl
    | expression text =>
      simp only [partArguments, Attempt.result_bind, Attempt.result_pure]
      rfl

theorem result_render (t : ValueTemplate) (compile : String → Attempt ε String) :
    (t.render compile).result = t.render fun e => (compile e).result := by
  simp only [render, Attempt.result_bind, result_arguments, Attempt.result_pure]
  rfl

/-- The arguments of the first part come first. -/
theorem exists_of_arguments_cons {compile : String → Except ε String} {part : TemplatePart}
    {parts : List TemplatePart} {args : List (List Char)}
    (h : arguments compile (part :: parts) = .ok args) :
    ∃ first others, partArguments compile part = .ok first ∧
      arguments compile parts = .ok others ∧ args = first ++ others := by
  rw [arguments] at h
  cases hfirst : partArguments compile part with
  | error e =>
    rw [hfirst] at h
    cases h
  | ok first =>
    rw [hfirst] at h
    cases hothers : arguments compile parts with
    | error e =>
      rw [hothers] at h
      cases h
    | ok others =>
      rw [hothers] at h
      cases h
      exact ⟨first, others, rfl, rfl, rfl⟩

/-- The one argument of an expression is the compiled expression. -/
theorem exists_of_partArguments_expression {compile : String → Except ε String} {text : List Char}
    {args : List (List Char)} (h : partArguments compile (.expression text) = .ok args) :
    ∃ v, compile (String.ofList text) = .ok v ∧ args = [v.toList] := by
  rw [partArguments] at h
  cases hv : compile (String.ofList text) with
  | error e =>
    rw [hv] at h
    cases h
  | ok v =>
    rw [hv] at h
    cases h
    exact ⟨v, rfl, rfl⟩

/-- The arguments are those of the parts. -/
theorem mem_arguments {compile : String → Except ε String} {parts : List TemplatePart}
    {args : List (List Char)} (h : arguments compile parts = .ok args) {a : List Char}
    (ha : a ∈ args) :
    (∃ text, .literal text ∈ parts ∧ a ∈ quoteLiteral text) ∨
      ∃ text v, .expression text ∈ parts ∧ compile (String.ofList text) = .ok v ∧ a = v.toList := by
  induction parts generalizing args with
  | nil =>
    cases h
    cases ha
  | cons part parts ih =>
    obtain ⟨first, others, hfirst, hothers, rfl⟩ := exists_of_arguments_cons h
    rcases List.mem_append.1 ha with ha | ha
    · cases part with
      | literal text =>
        cases hfirst
        exact .inl ⟨text, List.mem_cons_self, ha⟩
      | expression text =>
        obtain ⟨v, hv, rfl⟩ := exists_of_partArguments_expression hfirst
        exact .inr ⟨text, v, List.mem_cons_self, hv, List.mem_singleton.1 ha⟩
    · rcases ih hothers ha with ⟨text, hm, hq⟩ | ⟨text, v, hm, hv, he⟩
      · exact .inl ⟨text, List.mem_cons_of_mem _ hm, hq⟩
      · exact .inr ⟨text, v, List.mem_cons_of_mem _ hm, hv, he⟩

/-- Every expression of a template is among the arguments, compiled. -/
theorem exists_mem_arguments {compile : String → Except ε String} {parts : List TemplatePart}
    {args : List (List Char)} (h : arguments compile parts = .ok args) {text : List Char}
    (ht : .expression text ∈ parts) :
    ∃ v, compile (String.ofList text) = .ok v ∧ v.toList ∈ args := by
  induction parts generalizing args with
  | nil => cases ht
  | cons part parts ih =>
    obtain ⟨first, others, hfirst, hothers, rfl⟩ := exists_of_arguments_cons h
    rcases List.mem_cons.1 ht with rfl | ht
    · obtain ⟨v, hv, rfl⟩ := exists_of_partArguments_expression hfirst
      exact ⟨v, hv, List.mem_append_left _ (List.mem_singleton_self _)⟩
    · obtain ⟨v, hv, hmem⟩ := ih hothers ht
      exact ⟨v, hv, List.mem_append_right _ hmem⟩

end ValueTemplate

variable {functions : FunctionMap}

/-- What a template becomes is what its parts become, put together. -/
theorem result_expandTemplate (functions : FunctionMap) (place : Place) (name value : String) :
    (expandTemplate functions place name value).result =
      match ValueTemplate.parse value with
      | .error fault => .error (.template name value fault)
      | .ok template =>
        if template.isStatic then .ok none
        else ((template.render fun e => (compile functions place e).result).mapError
          .expression).map some := by
  rw [expandTemplate]
  cases ValueTemplate.parse value with
  | error fault => rfl
  | ok template =>
    simp only []
    split
    · rfl
    · simp only [Attempt.result_bind, Attempt.result_mapError, ValueTemplate.result_render,
        Attempt.result_note, Attempt.result_pure]
      rfl

/-! ## Arguments -/

/-- The tokens can be an argument of the expression that a template becomes, or all of it. -/
structure Argument (functions : FunctionMap) (ts : List Token) : Prop
    extends Settled functions ts where
  braces : braces 0 ts = some 0
  /-- An expression must not be blank. -/
  visible : ∃ c ∈ renderTokens ts, isBlank c = false
  /-- Two braces at the start of a template would not be read as the start of an expression. -/
  lead : (renderTokens ts).head? ≠ some '\x7b'

theorem argument_literal {quote : Char} {content : List Char} (hq : isQuote quote = true)
    (hc : quote ∉ content) :
    ∃ ts, Argument functions ts ∧ renderTokens ts = quote :: (content ++ [quote]) := by
  have htext : TokenText .stringLiteral (quote :: (content ++ [quote])) := .literal hq hc
  have hchar : isBlank quote = false ∧ quote ≠ '\x7b' := by
    rcases isQuote_cases hq with rfl | rfl <;> decide
  have hrender : renderTokens
      [.synthetic .stringLiteral (String.ofList (quote :: (content ++ [quote])))] =
        quote :: (content ++ [quote]) := by
    simp [renderTokens, renderAfter, Token.synthetic]
  refine ⟨[_], ⟨⟨?_, ⟨trivial, trivial⟩, rfl, .singleton _⟩, rfl, ?_, ?_⟩, hrender⟩
  · rw [List.forall_mem_singleton, Token.HasText, Token.synthetic, String.toList_ofList]
    exact htext
  · rw [hrender]
    exact ⟨quote, List.mem_cons_self, hchar.1⟩
  · rw [hrender]
    simpa using hchar.2

/-! ## Compiled expressions -/

/-- Tokens that start with neither a blank nor a brace. -/
def Marked (tokens : List Token) : Prop :=
  ∃ t ∈ tokens.head?, ∃ c ∈ t.text.toList.head?, isBlank c = false ∧ c ≠ '\x7b'

theorem marked_callbackTokens (name : String) (rest : List Token) :
    Marked (callbackTokens name rest) := by
  obtain ⟨commas, he, -⟩ := callbackTokens_eq name rest
  exact ⟨.ofName "ext:call", by rw [he]; rfl, 'e', by decide, by decide⟩

theorem marked_isGroupingTokens {tokens : List Token} (h : IsGroupingTokens tokens) :
    Marked tokens := by
  rcases h with rfl | rfl | ⟨id, -, rfl | rfl⟩
  · exact ⟨.slash, rfl, '/', by decide, by decide⟩
  · exact ⟨.ofString "", rfl, '\x27', by decide, by decide⟩
  · exact ⟨_, rfl, '$', by rw [toList_ofVariable]; rfl, by decide⟩
  · exact ⟨.ofName "string", rfl, 's', by decide, by decide⟩

theorem Marked.withSpacing {tokens : List Token} (h : Marked tokens) (spaced : Bool) :
    Marked (withSpacing spaced tokens) := by
  obtain ⟨t, ht, h⟩ := h
  cases tokens with
  | nil => cases ht
  | cons first more =>
    cases ht
    exact ⟨_, rfl, h⟩

theorem Marked.append {tokens : List Token} (h : Marked tokens) (us : List Token) :
    Marked (tokens ++ us) := by
  obtain ⟨t, ht, h⟩ := h
  exact ⟨t, by rw [List.head?_append, ht]; rfl, h⟩

/-- What lowered tokens start with: the first token of the expression, or the replacement of a call
if that token is a name. -/
theorem head_or_marked_of_lowers {ts us : List Token} (h : Lowers functions ts us) :
    us.head? = ts.head? ∨ (∃ t ∈ ts.head?, t.kind = .name) ∧ Marked us := by
  cases h with
  | nil => exact .inl rfl
  | keep => exact .inl rfl
  | callback hk => exact .inr ⟨⟨_, rfl, hk⟩, ((marked_callbackTokens _ _).withSpacing _).append _⟩
  | grouping hk _ _ hg =>
    exact .inr ⟨⟨_, rfl, hk⟩, ((marked_isGroupingTokens hg).withSpacing _).append _⟩

theorem head_renderTokens {ts : List Token} (h : ∀ t ∈ ts, t.HasText) :
    (renderTokens ts).head? = ts.head?.bind (·.text.toList.head?) := by
  cases ts with
  | nil => rfl
  | cons t ts => exact List.head?_append_of_ne_nil _ (List.forall_mem_cons.1 h).1.ne_nil

theorem head_ne_brace_of_name {t : Token} (h : t.HasText) (hk : t.kind = .name) :
    t.text.toList.head? ≠ some '\x7b' := by
  rw [Token.HasText, hk] at h
  generalize t.text.toList = text at h
  cases h with
  | name hq =>
    obtain ⟨c, cs, rfl, hc⟩ := hq.head
    simpa using ne_of_isNameStart hc (show isNameStart '\x7b' = false by decide)
  | fixed hm => simp [fixedTexts] at hm

/-- Lowering leaves a brace at the start, and puts none there. -/
theorem lead_of_lowers {ts us : List Token} (h : Lowers functions ts us)
    (ht : ∀ t ∈ ts, t.HasText) (hu : ∀ u ∈ us, u.HasText) :
    (renderTokens us).head? = some '\x7b' ↔ (renderTokens ts).head? = some '\x7b' := by
  rw [head_renderTokens ht, head_renderTokens hu]
  rcases head_or_marked_of_lowers h with hhead | ⟨⟨t, hfirst, hk⟩, u, hhead, c, hc, -, hbrace⟩
  · rw [hhead]
  · have hname := head_ne_brace_of_name (ht t (List.mem_of_mem_head? hfirst)) hk
    rw [Option.mem_def.1 hfirst, Option.mem_def.1 hhead, Option.bind_some, Option.bind_some,
      Option.mem_def.1 hc]
    simp [hbrace, hname]

/-- Some token is not blank. -/
def Visible (ts : List Token) : Prop := ∃ t ∈ ts, ∃ c ∈ t.text.toList, isBlank c = false

theorem visible_of_marked {ts : List Token} (h : Marked ts) : Visible ts := by
  obtain ⟨t, ht, c, hc, hb, -⟩ := h
  exact ⟨t, List.mem_of_mem_head? ht, c, List.mem_of_mem_head? hc, hb⟩

theorem visible_of_lowers {ts us : List Token} (h : Lowers functions ts us) (ht : Visible ts) :
    Visible us := by
  induction h with
  | nil => exact ht
  | @keep t ts us _ _ ih =>
    obtain ⟨x, hx, hc⟩ := ht
    rcases List.mem_cons.1 hx with rfl | hx
    · exact ⟨x, List.mem_cons_self, hc⟩
    · obtain ⟨y, hy, hc⟩ := ih ⟨x, hx, hc⟩
      exact ⟨y, List.mem_cons_of_mem _ hy, hc⟩
  | callback => exact visible_of_marked (((marked_callbackTokens _ _).withSpacing _).append _)
  | grouping _ _ _ hg =>
    exact visible_of_marked (((marked_isGroupingTokens hg).withSpacing _).append _)

theorem visible_of_scan {offset : Nat} {cs : List Char} {ts : List Token}
    (h : scan offset cs = (ts, none)) (hc : ∃ c ∈ cs, isBlank c = false) : Visible ts := by
  obtain ⟨c, hc, hb⟩ := hc
  have not_space (hs : isSpace c = true) : False := by
    rw [isBlank_of_isSpace hs] at hb
    cases hb
  induction ts generalizing offset cs with
  | nil => exact (not_space (isSpace_of_scan_nil h c hc)).elim
  | cons t ts ih =>
    obtain ⟨blanks, rest, rfl, hblanks, -, -, -, -, hscan⟩ := scan_eq_cons h
    rcases List.mem_append.1 hc with hc | hc
    · exact (not_space (hblanks c hc)).elim
    rcases List.mem_append.1 hc with hc | hc
    · exact ⟨t, List.mem_cons_self, c, hc, hb⟩
    · obtain ⟨u, hu, hc⟩ := ih hscan hc
      exact ⟨u, List.mem_cons_of_mem _ hu, hc⟩

theorem mem_renderAfter {t : Token} {c : Char} (hc : c ∈ t.text.toList) {ts : List Token}
    (ht : t ∈ ts) (p : Token) : c ∈ renderAfter p ts := by
  induction ts generalizing p with
  | nil => cases ht
  | cons u us ih =>
    rw [renderAfter]
    rcases List.mem_cons.1 ht with rfl | ht
    · simp [hc]
    · simp [ih ht]

theorem exists_mem_renderTokens {ts : List Token} (h : Visible ts) :
    ∃ c ∈ renderTokens ts, isBlank c = false := by
  obtain ⟨t, ht, c, hc, hb⟩ := h
  refine ⟨c, ?_, hb⟩
  cases ts with
  | nil => cases ht
  | cons u us =>
    rw [renderTokens]
    rcases List.mem_cons.1 ht with rfl | ht
    · simp [hc]
    · simp [mem_renderAfter hc ht]

/-- What the tokens of a text start with is what its blanks end at. -/
theorem head_renderTokens_of_scan {offset : Nat} {cs : List Char} {ts : List Token}
    (h : scan offset cs = (ts, none)) : (renderTokens ts).head? = (cs.dropWhile isSpace).head? := by
  cases ts with
  | nil =>
    rw [List.dropWhile_eq_nil_iff.2 (isSpace_of_scan_nil h)]
    rfl
  | cons t ts =>
    obtain ⟨blanks, rest, rfl, hblanks, -, -, ht, he, -⟩ := scan_eq_cons h
    rw [dropWhile_blanks hblanks ht he, renderTokens, List.head?_append_of_ne_nil _ ht.ne_nil,
      List.head?_append_of_ne_nil _ ht.ne_nil]

section

variable (hf : functions.Plain)

include hf

theorem visible_of_compile {place : Place} {text : List Char} {v : String}
    (h : (compile functions place (String.ofList text)).result = .ok v)
    (hvisible : ∃ c ∈ text, isBlank c = false) : ∃ c ∈ v.toList, isBlank c = false := by
  obtain ⟨ts, us, ht, hlowers, rfl⟩ := exists_lowers_of_compile hf h
  have hscan := (tokenize_eq_ok_iff.1 ht).1
  rw [String.toList_ofList] at hscan ⊢
  exact exists_mem_renderTokens (visible_of_lowers hlowers (visible_of_scan hscan hvisible))

/-- A compiled expression starts with a brace exactly if the expression does, blanks aside. -/
theorem lead_of_compile {place : Place} {text : List Char} {v : String}
    (h : (compile functions place (String.ofList text)).result = .ok v) :
    v.toList.head? = some '\x7b' ↔ (text.dropWhile isSpace).head? = some '\x7b' := by
  obtain ⟨ts, us, ht, hlowers, rfl⟩ := exists_lowers_of_compile hf h
  have hscan := (tokenize_eq_ok_iff.1 ht).1
  rw [String.toList_ofList] at hscan ⊢
  have htext := hasText_of_scan hscan
  rw [lead_of_lowers hlowers (fun t ht => (htext t ht).1)
    (nearlyApart_of_lowers hlowers htext (apart_of_scan hscan)).1, head_renderTokens_of_scan hscan]

variable (hn : ∀ name ∈ replacementCallees, functions.get? name = none)

include hn

/-- What a template has compiled is an argument, unless it starts with a brace. -/
theorem argument_of_compile {place : Place} {text : List Char} {v : String}
    (h : (compile functions place (String.ofList text)).result = .ok v) (htext : IsExpression text)
    (hlead : (text.dropWhile isSpace).head? ≠ some '\x7b') :
    ∃ ts, Argument functions ts ∧ renderTokens ts = v.toList := by
  have hvisible := visible_of_compile hf h htext.visible
  have hlead' := mt (lead_of_compile hf h).1 hlead
  obtain ⟨ts, us, ht, hlowers, rfl⟩ := exists_lowers_of_compile hf h
  obtain ⟨hsettled, hrender⟩ := settled_of_lowers hn ht hlowers
  have hscan := (tokenize_eq_ok_iff.1 ht).1
  rw [String.toList_ofList] at hscan hvisible hlead' ⊢
  rw [← hrender] at hvisible hlead' ⊢
  refine ⟨fuse us, ⟨hsettled, ?_, hvisible, hlead'⟩, rfl⟩
  rw [braces_fuse, braces_of_lowers hlowers]
  exact (closes_iff_braces hscan []).1 (splitExpression_iff.2 htext.balanced)

end

/-! ## Arguments put together -/

theorem apart_withSpacing {ts : List Token} (h : Apart ts) (spaced : Bool) :
    Apart (withSpacing spaced ts) := by
  cases ts with
  | nil => trivial
  | cons t ts =>
    rw [withSpacing, Apart, renderAfter_spaced]
    exact h

theorem quiet_append {ts us : List Token} {d : Token} (hd : d.kind ≠ .leftParen)
    (h : Quiet functions ts) (hu : Quiet functions (d :: us)) : Quiet functions (ts ++ d :: us) := by
  induction ts with
  | nil => exact hu
  | cons t ts ih =>
    refine quiet_cons (fun hk next hnext hp => ?_) (ih h.tail)
    cases ts with
    | nil =>
      cases hnext
      exact absurd hp hd
    | cons u us =>
      cases hnext
      exact (List.isChain_cons_cons.1 h).1 hk hp

/-- Tokens that close the parenthesis before them. -/
structure Closing (functions : FunctionMap) (us : List Token) : Prop where
  hasText : ∀ u ∈ us, u.HasText
  apart : Apart us
  nesting : nesting ['('] us = some []
  braces : braces 0 us = some 0
  quiet : Quiet functions us

/-- An argument before a comma or before the parenthesis that closes the arguments. -/
theorem Argument.closing {ts us : List Token} (h : Argument functions ts) (spaced : Bool) {d : Token}
    (hd : d = .comma ∨ d = .rightParen) (hu : Closing functions (d :: us)) :
    Closing functions (withSpacing spaced ts ++ d :: us) := by
  have htext : ∀ t ∈ withSpacing spaced ts, t.HasText := by
    cases ts with
    | nil => simp [withSpacing]
    | cons t ts =>
      have ht := List.forall_mem_cons.1 h.hasText
      exact List.forall_mem_cons.2 ht
  have hnesting : Expression.nesting ['('] ts = some ['('] := nesting_frame h.nesting ['(']
  obtain ⟨⟨c, cs, hc, hdivider⟩, hk⟩ :
      (∃ c cs, d.text.toList = c :: cs ∧ isDivider c = true) ∧ d.kind ≠ .leftParen := by
    rcases hd with rfl | rfl
    · exact ⟨⟨',', [], String.toList_ofList, rfl⟩, by decide⟩
    · exact ⟨⟨')', [], String.toList_ofList, rfl⟩, by decide⟩
  refine ⟨List.forall_mem_append.2 ⟨htext, hu.hasText⟩,
    apart_append hc hdivider htext (apart_withSpacing h.apart spaced) hu.apart, ?_, ?_,
    quiet_withSpacing spaced (quiet_append hk h.quiet hu.quiet)⟩
  · rw [nesting_withSpacing, nesting_append, hnesting, Option.bind_some, hu.nesting]
  · rw [braces_withSpacing, braces_append, h.braces, Option.bind_some, hu.braces]

theorem closing_rightParen : Closing functions [.rightParen] := by
  refine ⟨?_, ⟨trivial, trivial⟩, rfl, rfl, .singleton _⟩
  rw [List.forall_mem_singleton]
  exact hasText_synthetic rfl rfl

theorem Closing.comma {us : List Token} (h : Closing functions us) :
    Closing functions (.comma :: us) := by
  refine ⟨List.forall_mem_cons.2 ⟨hasText_synthetic rfl rfl, h.hasText⟩, ⟨?_, h.apart⟩, h.nesting,
    h.braces, quiet_cons_of_ne (by decide) h.quiet⟩
  exact endsBefore_of_head fun _ _ _ => rfl

/-- The arguments of a call and the parenthesis after them. -/
def argumentTokens (spaced : Bool) (ts : List Token) : List (List Token) → List Token
  | [] => withSpacing spaced ts ++ [.rightParen]
  | us :: rest => withSpacing spaced ts ++ .comma :: argumentTokens true us rest

theorem closing_argumentTokens {ts : List Token} {rest : List (List Token)} (spaced : Bool)
    (h : ∀ us ∈ ts :: rest, Argument functions us) :
    Closing functions (argumentTokens spaced ts rest) := by
  induction rest generalizing ts spaced with
  | nil => exact (h ts List.mem_cons_self).closing spaced (.inr rfl) closing_rightParen
  | cons us rest ih =>
    rw [List.forall_mem_cons] at h
    exact h.1.closing spaced (.inl rfl) (ih true h.2).comma

/-- An argument is written as it is, with a blank before it or without. -/
theorem renderAfter_withSpacing {p d : Token} {ts : List Token} (hp : p.kind.isWordLike = false)
    (hd : d = .comma ∨ d = .rightParen) (hts : ts ≠ []) (spaced : Bool) (us : List Token) :
    renderAfter p (withSpacing spaced ts ++ d :: us) =
      (if spaced then [' '] else []) ++ renderTokens ts ++ d.text.toList ++ renderAfter d us := by
  have hgap (q : Token) : q.gap d = [] := by
    rcases hd with rfl | rfl <;> rw [gap_before rfl] <;> rfl
  have hafter (q : Token) (ts : List Token) :
      renderAfter q (ts ++ d :: us) = renderAfter q ts ++ d.text.toList ++ renderAfter d us := by
    induction ts generalizing q with
    | nil => simp [renderAfter, hgap]
    | cons t ts ih => simp [renderAfter, ih]
  cases ts with
  | nil => exact absurd rfl hts
  | cons t ts =>
    rw [withSpacing, List.cons_append, renderAfter, gap_after hp, renderAfter_spaced, hafter]
    simp [renderTokens]

theorem renderAfter_argumentTokens {p : Token} {ts : List Token} {rest : List (List Token)}
    (hp : p.kind.isWordLike = false) (h : ∀ us ∈ ts :: rest, us ≠ []) (spaced : Bool) :
    renderAfter p (argumentTokens spaced ts rest) =
      (if spaced then [' '] else []) ++
        List.intercalate [',', ' '] ((ts :: rest).map renderTokens) ++ [')'] := by
  induction rest generalizing ts p spaced with
  | nil =>
    rw [argumentTokens, renderAfter_withSpacing hp (.inr rfl) (h ts List.mem_cons_self)]
    simp [renderAfter, Token.rightParen, Token.synthetic]
  | cons us rest ih =>
    rw [List.forall_mem_cons] at h
    rw [argumentTokens, renderAfter_withSpacing hp (.inl rfl) h.1, ih rfl h.2]
    simp [List.intercalate_cons_cons, Token.comma, Token.synthetic]

theorem Argument.ne_nil {ts : List Token} (h : Argument functions ts) : ts ≠ [] := by
  rintro rfl
  obtain ⟨c, hc, -⟩ := h.visible
  cases hc

/-- A `concat` of arguments is an argument. -/
theorem argument_concat (hn : ∀ name ∈ loweredCallees, functions.get? name = none)
    {ts : List Token} {rest : List (List Token)} (h : ∀ us ∈ ts :: rest, Argument functions us) :
    ∃ us, Argument functions us ∧
      renderTokens us = "concat(".toList ++
        List.intercalate [',', ' '] ((ts :: rest).map renderTokens) ++ [')'] := by
  have hclosing := closing_argumentTokens false h
  have hrender : renderTokens (.ofName "concat" :: .leftParen :: argumentTokens false ts rest) =
      "concat(".toList ++ List.intercalate [',', ' '] ((ts :: rest).map renderTokens) ++ [')'] := by
    rw [renderTokens, renderAfter, renderAfter_argumentTokens rfl fun us hus => (h us hus).ne_nil]
    simp [Token.ofName, Token.leftParen, Token.synthetic, Token.gap, TokenKind.isWordLike]
  refine ⟨.ofName "concat" :: .leftParen :: argumentTokens false ts rest,
    ⟨⟨?_, ⟨?_, ?_, hclosing.apart⟩, hclosing.nesting, ?_⟩, hclosing.braces, ?_, ?_⟩, hrender⟩
  · refine List.forall_mem_cons.2 ⟨hasText_synthetic rfl rfl, ?_⟩
    exact List.forall_mem_cons.2 ⟨hasText_synthetic rfl rfl, hclosing.hasText⟩
  · exact endsBefore_divider (show isDivider '(' = true from rfl) ..
  · exact endsBefore_of_head fun _ _ _ => rfl
  · exact quiet_cons_of_get? (hn _ (by decide)) (quiet_cons_of_ne (by decide) hclosing.quiet)
  · rw [hrender]
    exact ⟨'c', by simp, by decide⟩
  · rw [hrender]
    simp

/-! ## Templates that are one expression -/

theorem Argument.isExpression {ts : List Token} (h : Argument functions ts) :
    IsExpression (renderTokens ts) := by
  have hscan : scan 0 (renderTokens ts) = (reread ts, none) := scan_renderTokens h.hasText h.apart
  have hbraces : Stylesheet.braces 0 (reread ts) = some 0 := by
    rw [braces_congr (map_key_reread ts), h.braces]
  exact ⟨h.visible, h.lead, splitExpression_iff.1 ((closes_iff_braces hscan []).2 hbraces)⟩

/-- A template in braces is read as the expression in them. -/
theorem parse_argument {ts : List Token} (h : Argument functions ts) :
    ValueTemplate.parse (String.ofList ('\x7b' :: renderTokens ts ++ ['\x7d'])) =
      .ok ⟨[.expression (renderTokens ts)], false⟩ := by
  rw [ValueTemplate.parse, String.toList_ofList]
  exact ofChars_in_braces h.isExpression

/-- A template that is one expression in braces is expanded to itself. -/
theorem expandTemplate_argument {ts : List Token} (h : Argument functions ts) (place : Place)
    (name : String) :
    (expandTemplate functions place name
        (String.ofList ('\x7b' :: renderTokens ts ++ ['\x7d']))).result =
      .ok (some (String.ofList ('\x7b' :: renderTokens ts ++ ['\x7d']))) := by
  have hrender : ValueTemplate.render ⟨[.expression (renderTokens ts)], false⟩
      (fun e => (compile functions place e).result) =
        .ok (String.ofList ('\x7b' :: renderTokens ts ++ ['\x7d'])) := by
    simp only [ValueTemplate.render, ValueTemplate.arguments, ValueTemplate.partArguments,
      h.toSettled.compile, bind, Except.bind, pure, Except.pure, List.append_nil,
      ValueTemplate.ofArguments, String.toList_ofList]
  rw [result_expandTemplate, parse_argument h]
  simp only [ValueTemplate.isStatic, hrender]
  rfl

section

variable (hf : functions.Plain) (hn : ∀ name ∈ loweredCallees, functions.get? name = none)

include hf hn

/-- What a template becomes is one expression in braces, unless one of its expressions starts with a
brace. -/
theorem argument_of_render {t : ValueTemplate} {place : Place} {cs : List Char} {rendered : String}
    (hparse : ValueTemplate.ofChars cs = .ok t)
    (hlead : ∀ text, .expression text ∈ t.parts →
      (text.dropWhile isSpace).head? ≠ some '\x7b')
    (h : t.render (fun e => (compile functions place e).result) = .ok rendered) :
    ∃ ts, Argument functions ts ∧
      rendered = String.ofList ('\x7b' :: renderTokens ts ++ ['\x7d']) := by
  obtain ⟨args, hargs, rfl⟩ : ∃ args,
      ValueTemplate.arguments (fun e => (compile functions place e).result) t.parts = .ok args ∧
        String.ofList (ValueTemplate.ofArguments args) = rendered := exists_of_map_eq_ok h
  have hall : ∀ a ∈ args, ∃ ts, Argument functions ts ∧ renderTokens ts = a := by
    intro a ha
    rcases ValueTemplate.mem_arguments hargs ha with ⟨text, -, hm⟩ | ⟨text, v, hm, hv, rfl⟩
    · obtain ⟨quote, content, hq, hc, rfl⟩ := mem_quoteLiteral hm
      exact argument_literal hq hc
    · exact argument_of_compile hf (get?_replacementCallees hn) hv
        ((wellFormed_of_ofChars hparse).1.each _ hm) (hlead text hm)
  choose! tokensOf htokens using hall
  suffices ∃ ts, Argument functions ts ∧
      ValueTemplate.ofArguments args = '\x7b' :: renderTokens ts ++ ['\x7d'] by
    obtain ⟨ts, hts, he⟩ := this
    exact ⟨ts, hts, by rw [he]⟩
  match args with
  | [] =>
    obtain ⟨ts, hts, he⟩ : ∃ ts, Argument functions ts ∧ renderTokens ts = ['\x27', '\x27'] :=
      argument_literal rfl List.not_mem_nil
    exact ⟨ts, hts, by rw [he]; decide⟩
  | [a] =>
    obtain ⟨hts, he⟩ := htokens a List.mem_cons_self
    exact ⟨tokensOf a, hts, by rw [he]; rfl⟩
  | a :: b :: rest =>
    have hmap : ((a :: b :: rest).map tokensOf).map renderTokens = a :: b :: rest := by
      rw [List.map_map]
      exact (List.map_congr_left fun c hc => (htokens c hc).2).trans (List.map_id _)
    have harguments : ∀ ts ∈ (a :: b :: rest).map tokensOf, Argument functions ts := by
      intro ts hts
      obtain ⟨c, hc, rfl⟩ := List.mem_map.1 hts
      exact (htokens c hc).1
    obtain ⟨ts, hts, he⟩ := argument_concat hn harguments
    refine ⟨ts, hts, ?_⟩
    rw [he, ← List.map_cons, hmap]
    show "\x7bconcat(".toList ++ _ ++ [')', '\x7d'] = _
    simp

/-- Expanding a template again changes nothing. -/
theorem expandTemplate_expandTemplate {place : Place} {name value : String}
    {expanded : Option String}
    (hlead : ∀ t, ValueTemplate.parse value = .ok t → ∀ text, .expression text ∈ t.parts →
      (text.dropWhile isSpace).head? ≠ some '\x7b')
    (h : (expandTemplate functions place name value).result = .ok expanded) (place' : Place) :
    (expandTemplate functions place' name (expanded.getD value)).result = .ok expanded := by
  rw [result_expandTemplate] at h
  cases hparse : ValueTemplate.parse value with
  | error fault =>
    rw [hparse] at h
    cases h
  | ok t =>
    rw [hparse] at h
    simp only [] at h
    split at h
    · rename_i hstatic
      cases h
      rw [result_expandTemplate, Option.getD_none, hparse]
      simp only [hstatic, ↓reduceIte]
    · obtain ⟨rendered, hr, rfl⟩ := exists_of_map_eq_ok h
      cases hrender : t.render fun e => (compile functions place e).result with
      | error e =>
        rw [hrender] at hr
        cases hr
      | ok v =>
        rw [hrender] at hr
        cases hr
        obtain ⟨ts, hts, rfl⟩ := argument_of_render hf hn hparse (hlead t hparse) hrender
        exact expandTemplate_argument hts place' name

end

end XslLowering.Stylesheet
