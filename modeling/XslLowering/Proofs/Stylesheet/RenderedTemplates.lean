import XslLowering.Proofs.Stylesheet.TemplateArguments

/-!
# Reading rendered templates

A rendered template is one expression in braces. It is read as that expression if the expression
closes what it opens and does not start with a brace:

* `Transparent`: a text after which an expression goes on as before it. Literals are transparent, and
  so are compiled expressions and calls of `concat`;
* `isExpression_of_arguments`: what a template is rendered as can stand in braces, unless the template is
  an expression that starts with a brace;
* `reads_rendered_template_iff`: with this exception, a rendered template is read as one expression.
-/

namespace XslLowering.Stylesheet

open Expression Text ValueTemplate

/-! ## Texts that close what they open -/

/-- An expression goes on after the text as before it. -/
def Transparent (cs : List Char) : Prop :=
  ∀ rest, splitExpression none 0 (cs ++ rest) = (splitExpression none 0 rest).map (prepend cs)

theorem transparent_plain {cs : List Char} (h : cs.all isPlain = true) : Transparent cs :=
  splitExpression_plain (List.all_eq_true.1 h) 0

theorem transparent_literal {quote : Char} {content : List Char} (hq : isQuote quote = true)
    (hc : quote ∉ content) : Transparent (quote :: (content ++ [quote])) :=
  splitExpression_literal hq hc 0

theorem Transparent.append {cs ds : List Char} (hc : Transparent cs) (hd : Transparent ds) :
    Transparent (cs ++ ds) := by
  intro rest
  rw [List.append_assoc, hc, hd, Option.map_map, prepend_append]

theorem transparent_intercalate {args : List (List Char)} (h : ∀ arg ∈ args, Transparent arg) :
    Transparent (List.intercalate [',', ' '] args) := by
  induction args with
  | nil => exact transparent_plain rfl
  | cons arg args ih =>
    rw [List.forall_mem_cons] at h
    cases args with
    | nil => simpa using h.1
    | cons next args =>
      rw [List.intercalate_cons_cons]
      exact (h.1.append (transparent_plain rfl)).append (ih h.2)

/-- A transparent text is an expression if there is something in it and no brace at its start. -/
theorem Transparent.isExpression {text : List Char} (h : Transparent text)
    (hvisible : ∃ c ∈ text, isBlank c = false) (hlead : text.head? ≠ some '\x7b') :
    IsExpression text := by
  have hsplit : splitExpression none 0 (text ++ ['\x7d']) = some (text, []) := by
    rw [h]
    simp [splitExpression, prepend]
  exact ⟨hvisible, hlead, splitExpression_iff.1 hsplit⟩

section

variable {functions : FunctionMap} (hf : functions.Plain) {place : Place}

include hf

/-- Compiling an expression closes what the expression closes. -/
theorem transparent_of_compile {text : List Char} {v : String}
    (h : (compile functions place (String.ofList text)).result = .ok v) (ht : IsExpression text) :
    Transparent v.toList := by
  obtain ⟨ts, us, hts, hlowers, rfl⟩ := exists_lowers_of_compile hf h
  have hscan := (tokenize_eq_ok_iff.1 hts).1
  have hread := (tokenize_eq_ok_iff.1 (tokenize_renderTokens_of_lowers hts hlowers)).1
  rw [String.toList_ofList] at hscan hread ⊢
  have hbraces : braces 0 (reread (fuse us)) = some 0 := by
    rw [braces_congr (map_key_reread _), braces_fuse, braces_of_lowers hlowers]
    exact (closes_iff_braces hscan []).1 (splitExpression_iff.2 ht.balanced)
  intro rest
  have hsplit := splitExpression_scan hread 0 rest
  rwa [hbraces] at hsplit

/-! ## The arguments of a template -/

theorem transparent_of_mem_arguments {parts : List TemplatePart} {args : List (List Char)}
    (hparts : WellFormedParts parts)
    (h : arguments (fun e => (compile functions place e).result) parts = .ok args) {arg : List Char}
    (ha : arg ∈ args) : Transparent arg := by
  rcases mem_arguments h ha with ⟨text, -, hm⟩ | ⟨text, v, hm, hv, rfl⟩
  · obtain ⟨quote, content, hq, hc, rfl⟩ := mem_quoteLiteral hm
    exact transparent_literal hq hc
  · exact transparent_of_compile hf hv (hparts.each _ hm)

end

section

variable {ε : Type} {compile : String → Except ε String} {parts : List TemplatePart}

/-- A template has arguments if its expressions can be compiled. -/
theorem exists_arguments
    (h : ∀ e, .expression e ∈ parts → ∃ v, compile (String.ofList e) = .ok v) :
    ∃ args, arguments compile parts = .ok args := by
  induction parts with
  | nil => exact ⟨[], rfl⟩
  | cons part parts ih =>
    obtain ⟨others, hothers⟩ := ih fun e he => h e (List.mem_cons_of_mem _ he)
    cases part with
    | literal text => exact ⟨quoteLiteral text ++ others, by rw [arguments, hothers]; rfl⟩
    | expression text =>
      obtain ⟨v, hv⟩ := h text List.mem_cons_self
      exact ⟨v.toList :: others, by rw [arguments, partArguments, hv, hothers]; rfl⟩

/-- Every part has an argument of its own. -/
theorem length_parts_le {args : List (List Char)} (h : arguments compile parts = .ok args) :
    parts.length ≤ args.length := by
  induction parts generalizing args with
  | nil => exact Nat.zero_le _
  | cons part parts ih =>
    obtain ⟨first, others, hfirst, hothers, rfl⟩ := exists_of_arguments_cons h
    have hne : 0 < first.length := by
      cases part with
      | literal text =>
        cases hfirst
        exact List.length_pos_iff.2 (quoteLiteral_ne_nil text)
      | expression text =>
        obtain ⟨v, -, rfl⟩ := exists_of_partArguments_expression hfirst
        exact Nat.one_pos
    have hle := ih hothers
    simp only [List.length_cons, List.length_append]
    omega

end

/-- Unless a template is an expression that starts with a brace, what it is rendered as can stand in
braces. -/
theorem isExpression_of_arguments {functions : FunctionMap} (hf : functions.Plain) {place : Place}
    {parts : List TemplatePart} {args : List (List Char)} (hparts : WellFormedParts parts)
    (hlead : ∀ e, parts = [.expression e] → (e.dropWhile isSpace).head? ≠ some '\x7b')
    (h : arguments (fun e => (compile functions place e).result) parts = .ok args) :
    ∃ inside, ofArguments args = '\x7b' :: inside ++ ['\x7d'] ∧ IsExpression inside := by
  have hargs : ∀ arg ∈ args, Transparent arg := fun arg => transparent_of_mem_arguments hf hparts h
  have literal {quote : Char} {content : List Char} (hq : isQuote quote = true)
      (hc : quote ∉ content) : IsExpression (quote :: (content ++ [quote])) := by
    have hchar : isBlank quote = false ∧ quote ≠ '\x7b' := by
      rcases isQuote_cases hq with rfl | rfl <;> decide
    exact (transparent_literal hq hc).isExpression ⟨quote, List.mem_cons_self, hchar.1⟩
      (by simpa using hchar.2)
  match args with
  | [] => exact ⟨['\x27', '\x27'], rfl, literal rfl List.not_mem_nil⟩
  | [arg] =>
    refine ⟨arg, rfl, ?_⟩
    rcases mem_arguments h List.mem_cons_self with ⟨text, -, hm⟩ | ⟨e, v, hm, hv, rfl⟩
    · obtain ⟨quote, content, hq, hc, rfl⟩ := mem_quoteLiteral hm
      exact literal hq hc
    · -- there is no other part, as it would have an argument too
      have hsingle : parts = [.expression e] := by
        obtain ⟨part, rfl⟩ := List.length_eq_one_iff.1
          (le_antisymm (length_parts_le h) (List.length_pos_of_mem hm))
        rw [List.mem_singleton.1 hm]
      exact (hargs _ List.mem_cons_self).isExpression
        (visible_of_compile hf hv (hparts.each _ hm).visible)
        (mt (lead_of_compile hf hv).1 (hlead e hsingle))
  | a :: b :: rest =>
    have hconcat : Transparent
        ("concat(".toList ++ List.intercalate [',', ' '] (a :: b :: rest) ++ [')']) :=
      ((transparent_plain rfl).append (transparent_intercalate hargs)).append (transparent_plain rfl)
    refine ⟨_, ofArguments_of_length (Nat.le_add_left 2 rest.length), hconcat.isExpression ?_ ?_⟩
    · exact ⟨'c', by simp, by decide⟩
    · simp

/-! ## Reading one expression in braces -/

theorem ofChars_in_braces_iff {text : List Char} :
    (∃ t, ofChars ('\x7b' :: text ++ ['\x7d']) = .ok t ∧ t.parts = [.expression text]) ↔
      IsExpression text := by
  constructor
  · rintro ⟨t, ht, hparts⟩
    have hwell := (wellFormed_of_ofChars ht).1.each
    rw [hparts, List.forall_mem_singleton] at hwell
    exact hwell
  · intro h
    exact ⟨_, ofChars_in_braces h, rfl⟩

/-- Two braces at the start of a template are text. -/
theorem exists_literal_of_ofChars {cs : List Char} {t : ValueTemplate}
    (h : ofChars ('\x7b' :: '\x7b' :: cs) = .ok t) :
    ∃ text rest, t.parts = .literal ('\x7b' :: text) :: rest := by
  rw [ofChars.eq_def] at h
  simp only [beq_self_eq_true, ↓reduceIte] at h
  obtain ⟨t, -, rfl⟩ := exists_of_map_eq_ok h
  rcases parts_consLiteral_cases '\x7b' t with ⟨text, rest, -, he⟩ | ⟨-, he⟩
  · exact ⟨text, rest, he⟩
  · exact ⟨[], t.parts, he⟩

/-- A template whose expressions can be compiled is rendered as one expression in braces. It is read
as that expression exactly if the template is not a single expression that starts with a brace, blanks
aside; the braces of such an expression come to stand after each other and are read as text. -/
theorem reads_rendered_template_iff {registry : Callback.Registry} {functions : FunctionMap}
    (hf : functions.BuiltFrom registry) (place : Place) {value : String} {t : ValueTemplate}
    (hparse : parse value = .ok t)
    (hcompile : ∀ e, .expression e ∈ t.parts →
      ∃ v, (compile functions place (String.ofList e)).result = .ok v) :
    ∃ inside, (t.render (compile functions place)).result =
        .ok (String.ofList ('\x7b' :: inside ++ ['\x7d'])) ∧
      ((∃ t', parse (String.ofList ('\x7b' :: inside ++ ['\x7d'])) = .ok t' ∧
          t'.parts = [.expression inside]) ↔
        ¬∃ e, t.parts = [.expression e] ∧ (e.dropWhile isSpace).head? = some '\x7b') ∧
      ∀ e, t.parts = [.expression e] → (e.dropWhile isSpace).head? = some '\x7b' →
        inside.head? = some '\x7b' ∧
          ∀ t', parse (String.ofList ('\x7b' :: inside ++ ['\x7d'])) = .ok t' →
            ∃ text rest, t'.parts = .literal ('\x7b' :: text) :: rest := by
  have hparts := (wellFormed_of_ofChars hparse).1
  obtain ⟨args, hargs⟩ : ∃ args,
      arguments (fun e => (compile functions place e).result) t.parts = .ok args :=
    exists_arguments hcompile
  have hrender : (t.render (compile functions place)).result =
      .ok (String.ofList (ofArguments args)) := by
    rw [result_render, render, hargs]
    rfl
  simp only [parse, String.toList_ofList, ofChars_in_braces_iff]
  by_cases hlead : ∃ e, t.parts = [.expression e] ∧ (e.dropWhile isSpace).head? = some '\x7b'
  · obtain ⟨e, he, hbrace⟩ := hlead
    obtain ⟨v, hv⟩ := hcompile e (he ▸ List.mem_singleton_self _)
    have hone : arguments (fun e => (compile functions place e).result) t.parts =
        .ok [v.toList] := by
      rw [he, arguments, partArguments, hv]
      rfl
    obtain rfl : args = [v.toList] := Except.ok.inj (hargs.symm.trans hone)
    have hv' : v.toList.head? = some '\x7b' := (lead_of_compile hf.plain hv).2 hbrace
    refine ⟨v.toList, hrender, iff_of_false (fun hexpression => hexpression.lead hv')
      (not_not_intro ⟨e, he, hbrace⟩), fun _ _ _ => ⟨hv', fun t' ht' => ?_⟩⟩
    obtain ⟨cs, hcs⟩ := List.head?_eq_some_iff.1 hv'
    rw [hcs] at ht'
    exact exists_literal_of_ofChars ht'
  · obtain ⟨inside, hinside, hexpression⟩ := isExpression_of_arguments hf.plain hparts
      (fun e he hbrace => hlead ⟨e, he, hbrace⟩) hargs
    refine ⟨inside, by rw [hrender, hinside], iff_of_true hexpression hlead, fun e he hbrace => ?_⟩
    exact absurd ⟨e, he, hbrace⟩ hlead

/-- An expression that stands in braces of its own becomes text if nothing stands beside it. -/
theorem reads_rendered_template_in_two_braces :
    ∃ functions t, FunctionMap.BuiltFrom (.register .empty "f" (.redirect "f")) functions ∧
      parse "\x7b \x7bf(1)\x7d \x7d" = .ok t ∧
      (t.render (compile functions ⟨.empty, 0, some "href"⟩)).result =
        .ok "\x7b\x7bext:call('f',1)\x7d\x7d" ∧
      ¬∃ t', parse "\x7b\x7bext:call('f',1)\x7d\x7d" = .ok t' ∧
        t'.parts = [.expression "\x7bext:call('f',1)\x7d".toList] := by
  have hf : (FunctionMap.ofCallback "f").BuiltFrom (.register .empty "f" (.redirect "f")) :=
    FunctionMap.builtFrom_ofCallback _ (by decide) (by decide)
  have hparse : parse "\x7b \x7bf(1)\x7d \x7d" =
      .ok ⟨[.expression " \x7bf(1)\x7d ".toList], false⟩ := by decide +kernel
  have hcompile : (compile (.ofCallback "f") ⟨.empty, 0, some "href"⟩
      (String.ofList " \x7bf(1)\x7d ".toList)).result = .ok "\x7bext:call('f',1)\x7d" := by
    decide +kernel
  have hrendered : (ValueTemplate.render ⟨[.expression " \x7bf(1)\x7d ".toList], false⟩
      (compile (.ofCallback "f") ⟨.empty, 0, some "href"⟩)).result =
        .ok "\x7b\x7bext:call('f',1)\x7d\x7d" := by decide +kernel
  obtain ⟨inside, hrender, hiff, -⟩ :=
    reads_rendered_template_iff hf ⟨.empty, 0, some "href"⟩ hparse fun e he => by
      obtain rfl : e = " \x7bf(1)\x7d ".toList := by simpa using he
      exact ⟨_, hcompile⟩
  have hinside : String.ofList ('\x7b' :: inside ++ ['\x7d']) =
      "\x7b\x7bext:call('f',1)\x7d\x7d" := Except.ok.inj (hrender.symm.trans hrendered)
  obtain rfl : inside = "\x7bext:call('f',1)\x7d".toList := by
    have hchars := congrArg String.toList hinside
    rw [String.toList_ofList] at hchars
    exact List.append_cancel_right (List.cons.inj hchars).2
  exact ⟨_, _, hf, hparse, hrendered, fun hread => hiff.1 hread ⟨_, rfl, by decide⟩⟩

end XslLowering.Stylesheet
