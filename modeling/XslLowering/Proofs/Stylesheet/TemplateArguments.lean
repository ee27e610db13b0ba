import XslLowering.Proofs.Expression.Joining
import XslLowering.Proofs.Stylesheet.Templates

/-!
# The arguments of a rendered template

A template with several arguments is rendered as a call of `concat`, whose arguments are joined as
text. `PartGroups` says which tokens each part is to contribute. They can be told from the tokens of
the rendered template by splitting them at commas exactly if no compiled expression has a comma
outside of its brackets (`splitAtCommas_render_iff`).
-/

namespace XslLowering.Stylesheet

open Expression Text

/-! ## The tokens of arguments -/

/-- The tokens of a text, as far as it can be read. -/
def tokensOf (text : List Char) : List Token := (scan 0 text).1

theorem tokensOf_of_tokenize {text : List Char} {ts : List Token}
    (h : tokenize (String.ofList text) = .ok ts) : tokensOf text = ts := by
  have hscan := (tokenize_eq_ok_iff.1 h).1
  rw [String.toList_ofList] at hscan
  rw [tokensOf, hscan]

/-- The tokens of the arguments that a part is to become: one literal for each piece of a text, the
contents of which make up the text, or the compiled expression. -/
inductive PartGroups {ε : Type} (compile : String → Except ε String) :
    TemplatePart → List (List (TokenKind × String)) → Prop
  | literal {text : List Char} {contents : List (List Char)} :
    List.Forall₂ Quotes (quoteLiteral text) contents → contents.flatten = text →
    PartGroups compile (.literal text)
      ((quoteLiteral text).map fun piece => [(.stringLiteral, String.ofList piece)])
  | expression {text : List Char} {v : String} {ts : List Token} :
    compile (String.ofList text) = .ok v → tokenize v = .ok ts →
    PartGroups compile (.expression text) [ts.map Token.key]

section

variable {ε : Type} {compile : String → Except ε String} {parts : List TemplatePart}
  {args : List (List Char)}

/-- The arguments of a template can be read, each on its own, if the compiled expressions can. -/
theorem tokenize_of_mem_arguments
    (hread : ∀ e v, compile e = .ok v → ∃ ts, tokenize v = .ok ts)
    (h : ValueTemplate.arguments compile parts = .ok args) {arg : List Char} (ha : arg ∈ args) :
    tokenize (String.ofList arg) = .ok (tokensOf arg) := by
  suffices ∃ ts, tokenize (String.ofList arg) = .ok ts by
    obtain ⟨ts, hts⟩ := this
    rw [hts, tokensOf_of_tokenize hts]
  rcases ValueTemplate.mem_arguments h ha with ⟨text, -, hm⟩ | ⟨text, v, -, hv, rfl⟩
  · exact ⟨_, tokenize_of_mem_quoteLiteral hm⟩
  · rw [String.ofList_toList]
    exact hread _ v hv

/-- The arguments have the tokens that the parts are to become. -/
theorem exists_partGroups (hread : ∀ e v, compile e = .ok v → ∃ ts, tokenize v = .ok ts)
    (h : ValueTemplate.arguments compile parts = .ok args) :
    ∃ groups, List.Forall₂ (PartGroups compile) parts groups ∧
      groups.flatten = (args.map tokensOf).map (List.map Token.key) := by
  induction parts generalizing args with
  | nil =>
    cases h
    exact ⟨[], .nil, rfl⟩
  | cons part parts ih =>
    obtain ⟨first, others, hfirst, hothers, rfl⟩ := ValueTemplate.exists_of_arguments_cons h
    obtain ⟨groups, hgroups, hflatten⟩ := ih hothers
    suffices hpart : PartGroups compile part ((first.map tokensOf).map (List.map Token.key)) from
      ⟨_ :: groups, .cons hpart hgroups, by simp [hflatten]⟩
    cases part with
    | literal text =>
      cases hfirst
      obtain ⟨contents, hcontents, hflatten⟩ := exists_contents_quoteLiteral text
      have hmap : ((quoteLiteral text).map tokensOf).map (List.map Token.key) =
          (quoteLiteral text).map fun piece => [(.stringLiteral, String.ofList piece)] := by
        rw [List.map_map]
        refine List.map_congr_left fun piece hpiece => ?_
        rw [Function.comp_apply, tokensOf_of_tokenize (tokenize_of_mem_quoteLiteral hpiece)]
        rfl
      exact hmap ▸ .literal hcontents hflatten
    | expression text =>
      obtain ⟨v, hv, rfl⟩ := ValueTemplate.exists_of_partArguments_expression hfirst
      obtain ⟨ts, hts⟩ := hread _ v hv
      have htokens : tokensOf v.toList = ts :=
        tokensOf_of_tokenize (by rwa [String.ofList_toList])
      have hgroup : PartGroups compile (.expression text) [ts.map Token.key] := .expression hv hts
      simpa [htokens] using hgroup

/-- Commas outside of brackets stand only in compiled expressions. -/
theorem hasOuterComma_arguments_iff (hread : ∀ e v, compile e = .ok v → ∃ ts, tokenize v = .ok ts)
    (h : ValueTemplate.arguments compile parts = .ok args) :
    (∀ arg ∈ args, ¬HasOuterComma (tokensOf arg)) ↔
      ∀ text v ts, .expression text ∈ parts → compile (String.ofList text) = .ok v →
        tokenize v = .ok ts → ¬HasOuterComma ts := by
  have htokens {v : String} {ts : List Token} (hts : tokenize v = .ok ts) : tokensOf v.toList = ts :=
    tokensOf_of_tokenize (by rwa [String.ofList_toList])
  constructor
  · intro hargs text v ts ht hv hts
    obtain ⟨w, hw, hmem⟩ := ValueTemplate.exists_mem_arguments h ht
    cases hv.symm.trans hw
    exact htokens hts ▸ hargs _ hmem
  · intro hexpressions arg harg
    rcases ValueTemplate.mem_arguments h harg with ⟨text, -, hm⟩ | ⟨text, v, ht, hv, rfl⟩
    · rw [tokensOf_of_tokenize (tokenize_of_mem_quoteLiteral hm)]
      rintro ⟨before, t, after, he, hcomma, -⟩
      have hmem : t ∈ before ++ t :: after := by simp
      rw [← he, List.mem_singleton] at hmem
      rw [hmem] at hcomma
      cases hcomma
    · obtain ⟨ts, hts⟩ := hread _ v hv
      rw [htokens hts]
      exact hexpressions text v ts ht hv hts

end

/-- A call of `concat` with arguments that can be read is read as such a call, with the tokens of its
arguments between commas. -/
theorem exists_tokenize_concat {args : List (List Char)} (hne : args ≠ [])
    (h : ∀ arg ∈ args, tokenize (String.ofList arg) = .ok (tokensOf arg)) :
    ∃ callee opening inside closing,
      tokenize (String.ofList ("concat(".toList ++ List.intercalate [',', ' '] args ++ [')'])) =
        .ok (callee :: opening :: inside ++ [closing]) ∧
      callee.key = (.name, "concat") ∧ opening.key = (.leftParen, "(") ∧
      closing.key = (.rightParen, ")") ∧ nesting [] inside = some [] ∧
      inside.map Token.key =
        List.intercalate [Token.comma.key] ((args.map tokensOf).map (List.map Token.key)) := by
  have hargs : List.Forall₂ Reads args ((args.map tokensOf).map (List.map Token.key)) := by
    rw [List.map_map, List.forall₂_map_right_iff, List.forall₂_same]
    intro arg harg
    have hscan := (tokenize_eq_ok_iff.1 (h arg harg)).1
    rw [String.toList_ofList] at hscan
    exact reads_of_scan hscan
  have hconcat : (Token.ofName "concat").HasText := hasText_synthetic rfl rfl
  have hleft : Token.leftParen.HasText := hasText_synthetic rfl rfl
  have hright : Token.rightParen.HasText := hasText_synthetic rfl rfl
  have hend : Reads [')'] [Token.rightParen.key] := .cons hright trivial (.blank (List.forall_mem_nil _))
  have hcall := Reads.cons hconcat (endsBefore_divider (show isDivider '(' = true from rfl) ..)
    (.cons hleft (endsBefore_of_head fun _ _ _ => rfl) (reads_intercalate hargs hne rfl hend))
  obtain ⟨ts, hts, hkeys⟩ := hcall.exists_scan 0
  obtain ⟨callee, _, rfl, hcallee, hkeys⟩ := List.map_eq_cons_iff.1 hkeys
  obtain ⟨opening, _, rfl, hopening, hkeys⟩ := List.map_eq_cons_iff.1 hkeys
  obtain ⟨inside, _, rfl, hinside, hkeys⟩ := List.map_eq_append_iff.1 hkeys
  obtain ⟨closing, _, rfl, hclosing, hkeys⟩ := List.map_eq_cons_iff.1 hkeys
  cases List.map_eq_nil_iff.1 hkeys
  have hnesting : nesting [] inside = some [] := by
    rw [← map_key_intercalate] at hinside
    rw [nesting_congr hinside]
    refine nesting_intercalate (List.forall_mem_map.2 fun arg harg => ?_)
    exact (tokenize_eq_ok_iff.1 (h arg harg)).2
  have hparens : nesting [] (callee :: opening :: (inside ++ [closing])) = some [] := by
    rw [nesting_cons, show callee.kind = .name from congrArg Prod.fst hcallee]
    show nesting [] (opening :: (inside ++ [closing])) = some []
    rw [nesting_cons, show opening.kind = .leftParen from congrArg Prod.fst hopening]
    show nesting ['('] (inside ++ [closing]) = some []
    rw [nesting_append, show nesting ['('] inside = some ['('] from nesting_frame hnesting ['('],
      Option.bind_some, nesting_cons, show closing.kind = .rightParen from congrArg Prod.fst hclosing]
    rfl
  refine ⟨callee, opening, inside, closing, ?_, hcallee, hopening, hclosing, hnesting, hinside⟩
  rw [tokenize_eq_ok_iff, String.toList_ofList, List.append_assoc]
  exact ⟨hts, hparens⟩

/-! ## Rendered templates -/

/-- What is compiled can be read again. -/
theorem exists_tokenize_of_compile {functions : FunctionMap} (hf : functions.Plain) {place : Place}
    {e v : String} (h : (compile functions place e).result = .ok v) : ∃ ts, tokenize v = .ok ts := by
  obtain ⟨ts, us, hts, hlowers, rfl⟩ := exists_lowers_of_compile hf h
  exact ⟨_, tokenize_renderTokens_of_lowers hts hlowers⟩

theorem ofArguments_of_length {args : List (List Char)} (h : 2 ≤ args.length) :
    ValueTemplate.ofArguments args =
      '\x7b' :: ("concat(".toList ++ List.intercalate [',', ' '] args ++ [')']) ++ ['\x7d'] := by
  match args with
  | [] => cases h
  | [_] => simp at h
  | a :: b :: rest =>
    show "\x7bconcat(".toList ++ _ ++ [')', '\x7d'] = _
    simp

/-- A template with two or more arguments is rendered in braces as a call of `concat`. What stands in
its parentheses is split at commas into the arguments that the parts are to become exactly if no
compiled expression has a comma outside of its brackets. -/
theorem splitAtCommas_render_iff {registry : Callback.Registry} {functions : FunctionMap}
    (hf : functions.BuiltFrom registry) (place : Place) (t : ValueTemplate) {args : List (List Char)}
    (hargs : (ValueTemplate.arguments (compile functions place) t.parts).result = .ok args)
    (hlength : 2 ≤ args.length) :
    ∃ text callee opening inside closing groups,
      (t.render (compile functions place)).result =
        .ok (String.ofList ('\x7b' :: text ++ ['\x7d'])) ∧
      tokenize (String.ofList text) = .ok (callee :: opening :: inside ++ [closing]) ∧
      callee.key = (.name, "concat") ∧ opening.key = (.leftParen, "(") ∧
      closing.key = (.rightParen, ")") ∧ nesting [] inside = some [] ∧
      List.Forall₂ (PartGroups fun e => (compile functions place e).result) t.parts groups ∧
      (splitAtCommas 0 (inside.map Token.key) = groups.flatten ↔
        ∀ e v ts, .expression e ∈ t.parts →
          (compile functions place (String.ofList e)).result = .ok v → tokenize v = .ok ts →
          ¬HasOuterComma ts) := by
  have hread : ∀ e v, (compile functions place e).result = .ok v → ∃ ts, tokenize v = .ok ts :=
    fun e v => exists_tokenize_of_compile hf.plain
  have hne : args ≠ [] := by
    rintro rfl
    cases hlength
  rw [ValueTemplate.result_arguments] at hargs
  have htokens : ∀ arg ∈ args, tokenize (String.ofList arg) = .ok (tokensOf arg) :=
    fun arg => tokenize_of_mem_arguments hread hargs
  obtain ⟨callee, opening, inside, closing, htokenize, hcallee, hopening, hclosing, hnesting, hinside⟩ :=
    exists_tokenize_concat hne htokens
  obtain ⟨groups, hgroups, hflatten⟩ := exists_partGroups hread hargs
  refine ⟨_, callee, opening, inside, closing, groups, ?_, htokenize, hcallee, hopening, hclosing,
    hnesting, hgroups, ?_⟩
  · rw [ValueTemplate.result_render, ValueTemplate.render, hargs, ← ofArguments_of_length hlength]
    rfl
  · rw [← hasOuterComma_arguments_iff hread hargs, hinside, hflatten,
      splitAtCommas_intercalate_eq_iff, List.forall_mem_map]
    · exact List.forall_mem_map.2 fun arg harg => (tokenize_eq_ok_iff.1 (htokens arg harg)).2
    · simpa using hne

/-- The commas between the arguments of a call do not separate arguments of `concat`. -/
theorem splitAtCommas_render_callback :
    ∃ functions args text callee opening inside closing groups,
      FunctionMap.BuiltFrom (Callback.Registry.empty.register "f" (.redirect "f")) functions ∧
      (ValueTemplate.arguments (compile functions ⟨.empty, 0, some "href"⟩)
        [.literal "it's".toList, .expression "f(1, 2)".toList]).result = .ok args ∧
      2 ≤ args.length ∧
      (ValueTemplate.render ⟨[.literal "it's".toList, .expression "f(1, 2)".toList], false⟩
        (compile functions ⟨.empty, 0, some "href"⟩)).result =
          .ok (String.ofList ('\x7b' :: text ++ ['\x7d'])) ∧
      tokenize (String.ofList text) = .ok (callee :: opening :: inside ++ [closing]) ∧
      List.Forall₂ (PartGroups fun e => (compile functions ⟨.empty, 0, some "href"⟩ e).result)
        [.literal "it's".toList, .expression "f(1, 2)".toList] groups ∧
      splitAtCommas 0 (inside.map Token.key) = groups.flatten := by
  have hf : (FunctionMap.ofCallback "f").BuiltFrom (.register .empty "f" (.redirect "f")) :=
    FunctionMap.builtFrom_ofCallback _ (by decide) (by decide)
  have hargs : (ValueTemplate.arguments (compile (.ofCallback "f") ⟨.empty, 0, some "href"⟩)
        [.literal "it's".toList, .expression "f(1, 2)".toList]).result =
      .ok ["\x22it's\x22".toList, "ext:call('f',1, 2)".toList] := by decide +kernel
  have hcompile : (compile (.ofCallback "f") ⟨.empty, 0, some "href"⟩
        (String.ofList "f(1, 2)".toList)).result = .ok "ext:call('f',1, 2)" := by decide +kernel
  have htokenize : tokenize "ext:call('f',1, 2)" = .ok
      [⟨.name, "ext:call", some 0, false⟩, ⟨.leftParen, "(", some 8, false⟩,
        ⟨.stringLiteral, "'f'", some 9, false⟩, ⟨.comma, ",", some 12, false⟩,
        ⟨.numberLiteral, "1", some 13, false⟩, ⟨.comma, ",", some 14, false⟩,
        ⟨.numberLiteral, "2", some 16, true⟩, ⟨.rightParen, ")", some 17, false⟩] := by decide +kernel
  obtain ⟨text, callee, opening, inside, closing, groups, hrender, hread, -, -, -, -, hgroups, hiff⟩ :=
    splitAtCommas_render_iff hf ⟨.empty, 0, some "href"⟩
      ⟨[.literal "it's".toList, .expression "f(1, 2)".toList], false⟩ hargs (by decide)
  refine ⟨_, _, text, callee, opening, inside, closing, groups, hf, hargs, by decide, hrender, hread,
    hgroups, hiff.2 ?_⟩
  intro e v ts he hv hts
  obtain rfl : e = "f(1, 2)".toList := by simpa using he
  cases hcompile.symm.trans hv
  cases htokenize.symm.trans hts
  exact (@splitAtCommas_eq_singleton_iff [] _ rfl).1 (by decide)

end XslLowering.Stylesheet
