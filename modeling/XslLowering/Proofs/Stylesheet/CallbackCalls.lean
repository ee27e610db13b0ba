import XslLowering.Proofs.Stylesheet.PointwiseWalk
import XslLowering.Proofs.Text.Occurrence
import XslLowering.Stylesheet.Pass

/-!
# Calls of callbacks in lowered attributes

Where the strategy for a call is a callback, lowering writes a call of the one function through which
callbacks are reached. Other strategies may do anything to what follows, but they leave alone what
stands before: so the text of the call is in the attribute once the walk is over, whatever functions
there are.

* `CallsBack`: the loop over the tokens of an expression comes to a call of a callback;
* `callText_infix_of_compile`: the text of such a call is in the compiled expression;
* `Emits`: the walk puts a call of a callback into an attribute;
* `usesCallbacks_of_emits`: then the document uses callbacks after the walk.
-/

namespace XslLowering.Stylesheet

open Expression Text

/-! ## Texts in texts -/

/-- What a call of a callback starts with. -/
def callText : List Char := (callbackQualifier ++ ":call(").toList

theorem usesCallbacks_of_attribute? {d : Document} {id : NodeId} {name value : String}
    (hid : id ∈ d.elements) (ha : d.attribute? id name = some value)
    (h : callText <:+: value.toList) : usesCallbacks d = true := by
  rw [Document.attribute?_eq] at ha
  obtain ⟨a, hfind, rfl⟩ := Option.map_eq_some_iff.1 ha
  have hcall : containsSeq callText a.value.toList = true := containsSeq_iff.2 h
  exact List.any_eq_true.2
    ⟨id, hid, List.any_eq_true.2 ⟨a, List.mem_of_find?_eq_some hfind, hcall⟩⟩

/-- The texts of tokens that follow each other without a blank. -/
theorem infix_renderAfter (p t u : Token) (before after : List Token) (h : t.gap u = []) :
    t.text.toList ++ u.text.toList <:+: renderAfter p (before ++ t :: u :: after) := by
  induction before generalizing p with
  | nil => exact ⟨p.gap t, renderAfter u after, by simp [renderAfter, h]⟩
  | cons b before ih =>
    rw [List.cons_append, renderAfter]
    exact (ih b).trans (List.suffix_append _ _).isInfix

theorem infix_renderTokens (t u : Token) (before after : List Token) (h : t.gap u = []) :
    t.text.toList ++ u.text.toList <:+: renderTokens (before ++ t :: u :: after) := by
  cases before with
  | nil => exact ⟨[], renderAfter u after, by simp [renderTokens, renderAfter, h]⟩
  | cons b before =>
    rw [List.cons_append, renderTokens]
    exact (infix_renderAfter b t u before after h).trans (List.suffix_append _ _).isInfix

/-! ## The loop over the tokens -/

/-- From here on, the loop over the tokens comes to a call whose strategy is a callback. -/
inductive CallsBack (functions : FunctionMap) (place : Place) : TokenStream → Prop
  | here {s : TokenStream} {name : String} (hcall : functions.callAt? s = some (.callback name)) :
      CallsBack functions place s
  | skip {s : TokenStream} {token : Token} (ht : s.current? = some token)
      (hcall : functions.callAt? s = none)
      (later : CallsBack functions place s.advance) : CallsBack functions place s
  | replace {s : TokenStream} {token : Token} {strategy : Strategy} {replacement : Replacement}
      (ht : s.current? = some token) (hcall : functions.callAt? s = some strategy)
      (hr : (strategy.replace s place).result = .ok replacement)
      (later : CallsBack functions place (putTokens s (min replacement.stop s.tokens.length)
        (withSpacing token.spaced replacement.tokens))) : CallsBack functions place s

variable {functions : FunctionMap} {place : Place}

/-- What the loop does with the token that it is at. -/
theorem replaceCallsFrom_cases {s s' : TokenStream} {count : Nat}
    (h : (replaceCallsFrom functions place s).result = .ok (s', count)) :
    s.current? = none ∧ s' = s ∨
    (∃ token, s.current? = some token ∧ functions.callAt? s = none ∧
      (replaceCallsFrom functions place s.advance).result = .ok (s', count)) ∨
    ∃ token strategy replacement others, s.current? = some token ∧
      functions.callAt? s = some strategy ∧
      (strategy.replace s place).result = .ok replacement ∧
      s.cursor < min replacement.stop s.tokens.length ∧
      (replaceCallsFrom functions place (putTokens s (min replacement.stop s.tokens.length)
        (withSpacing token.spaced replacement.tokens))).result = .ok (s', others) := by
  rcases loop_cases functions place s with hend | ⟨e, hfails⟩ | ⟨calls, v, hstep⟩
  · rw [result_of_atEnd hend] at h
    cases h
    exact .inl ⟨hend, rfl⟩
  · rw [hfails.result] at h
    cases h
  · rw [hstep.result] at h
    obtain ⟨⟨_, others⟩, hloop, he⟩ := exists_of_map_eq_ok h
    cases he
    cases hstep with
    | @keep token htoken hcall => exact .inr (.inl ⟨token, htoken, hcall, hloop⟩)
    | @replace token strategy replacement hcall hr hstop =>
      exact .inr (.inr ⟨token, strategy, replacement, others, hcall.callee,
        callAt?_eq_some_iff.2 ⟨token, hcall⟩, hr, hstop, hloop⟩)

/-- The tokens before the cursor and those that are put there, once they are put. -/
theorem take_putTokens {s : TokenStream} {stop : Nat} (tokens : List Token) (h : s.cursor < stop)
    (hs : stop ≤ s.tokens.length) :
    (putTokens s stop tokens).tokens.take (putTokens s stop tokens).cursor =
      s.tokens.take s.cursor ++ tokens := by
  have hstart : min s.cursor stop = s.cursor := by omega
  have hstop : min stop s.tokens.length = stop := by omega
  have hlength : (s.tokens.take s.cursor).length = s.cursor := by
    rw [List.length_take]
    omega
  simp only [putTokens, TokenStream.splice, TokenStream.seek, hstop, hstart]
  rw [List.take_eq_take_min.symm]
  rw [show s.cursor + tokens.length = (s.tokens.take s.cursor ++ tokens).length by
    rw [List.length_append, hlength], List.take_left]

/-- The loop leaves alone what it has gone through. -/
theorem exists_rest_of_replaceCallsFrom {s s' : TokenStream} {count : Nat}
    (h : (replaceCallsFrom functions place s).result = .ok (s', count)) :
    ∃ rest, s'.tokens = s.tokens.take s.cursor ++ rest := by
  -- By induction on the number of tokens that are left.
  induction hn : s.tokens.length - s.cursor using Nat.strongRecOn generalizing s count with
  | ind n ih =>
  rcases replaceCallsFrom_cases h with ⟨-, rfl⟩ | ⟨token, htoken, -, h⟩ |
    ⟨token, strategy, replacement, others, htoken, -, -, hstop, h⟩
  · exact ⟨s'.tokens.drop s'.cursor, (List.take_append_drop _ _).symm⟩
  · obtain ⟨rest, hrest⟩ := ih _ (hn ▸ remaining_advance htoken) h rfl
    have hlt := lt_of_current? htoken
    have hcursor : s.advance.cursor = s.cursor + 1 := by
      simp only [TokenStream.advance, TokenStream.seek]
      omega
    rw [hcursor, TokenStream.advance, TokenStream.tokens_seek, List.take_add, List.append_assoc] at hrest
    exact ⟨_, hrest⟩
  · obtain ⟨rest, hrest⟩ := ih _ (hn ▸ remaining_putTokens _ hstop (Nat.min_le_right ..)) h rfl
    rw [take_putTokens _ hstop (Nat.min_le_right ..), List.append_assoc] at hrest
    exact ⟨_, hrest⟩

/-- A call of a callback that the loop comes to is among the tokens in the end. -/
theorem exists_call_of_callsBack {s : TokenStream} (hs : CallsBack functions place s)
    {s' : TokenStream} {count : Nat}
    (h : (replaceCallsFrom functions place s).result = .ok (s', count)) :
    ∃ before spaced after, s'.tokens = before ++
      { Token.ofName (callbackQualifier ++ ":call") with spaced } :: .leftParen :: after := by
  induction hs generalizing count with
  | here hcall =>
    rcases replaceCallsFrom_cases h with ⟨hnone, -⟩ | ⟨_, -, hcall', -⟩ |
      ⟨token, strategy, replacement, others, -, hcall', hr, hstop, h⟩
    · simp [FunctionMap.callAt?, hnone] at hcall
    · rw [hcall] at hcall'
      cases hcall'
    · rw [hcall] at hcall'
      cases hcall'
      cases hr
      obtain ⟨rest, hrest⟩ := exists_rest_of_replaceCallsFrom h
      rw [take_putTokens _ hstop (Nat.min_le_right ..)] at hrest
      exact ⟨_, token.spaced, _, by simpa [callbackCall, withSpacing] using hrest⟩
  | skip ht hcall later ih =>
    rcases replaceCallsFrom_cases h with ⟨hnone, -⟩ | ⟨_, -, -, h⟩ |
      ⟨token, strategy, replacement, others, -, hcall', -, -, h⟩
    · rw [ht] at hnone
      cases hnone
    · exact ih h
    · rw [hcall] at hcall'
      cases hcall'
  | replace ht hcall hr later ih =>
    rcases replaceCallsFrom_cases h with ⟨hnone, -⟩ | ⟨_, -, hcall', -⟩ |
      ⟨token, strategy, replacement, others, htoken, hcall', hr', -, h⟩
    · rw [ht] at hnone
      cases hnone
    · rw [hcall] at hcall'
      cases hcall'
    · rw [hcall] at hcall'
      cases hcall'
      rw [ht] at htoken
      cases htoken
      rw [hr] at hr'
      cases hr'
      exact ih h

/-! ## Expressions and templates -/

/-- Lowering an expression comes to a call of a callback. -/
def CallsBackIn (functions : FunctionMap) (place : Place) (expression : String) : Prop :=
  ∃ tokens, tokenize expression = .ok tokens ∧ CallsBack functions place ⟨expression, tokens, 0⟩

/-- The text of a call of a callback is in the lowered expression. -/
theorem callText_infix_of_compile {expression v : String}
    (hc : CallsBackIn functions place expression)
    (h : (compile functions place expression).result = .ok v) : callText <:+: v.toList := by
  obtain ⟨tokens, htokens, hc⟩ := hc
  rw [compile] at h
  obtain ⟨s, hread, h⟩ := Attempt.exists_of_result_bind h
  obtain ⟨⟨s', count⟩, hloop, h⟩ := Attempt.exists_of_result_bind h
  have hs : s = ⟨expression, tokens, 0⟩ := by
    rw [TokenStream.read, htokens] at hread
    exact (Except.ok.inj hread).symm
  have hseek : s.seek 0 = s := by
    rw [hs]
    simp [TokenStream.seek]
  rw [replaceCalls, hseek, hs] at hloop
  obtain ⟨before, spaced, after, hs'⟩ := exists_call_of_callsBack hc hloop
  have hv : v = s'.render := by
    dsimp only at h
    split at h
    · obtain ⟨_, -, h⟩ := Attempt.exists_of_result_bind h
      exact (Except.ok.inj h).symm
    · exact (Except.ok.inj h).symm
  have hcall : callText = (callbackQualifier ++ ":call").toList ++ "(".toList := by decide
  rw [hv, TokenStream.render, String.toList_ofList, hs', hcall]
  exact infix_renderTokens { Token.ofName (callbackQualifier ++ ":call") with spaced } .leftParen
    before after rfl

namespace ValueTemplate

theorem infix_intercalate {sep a : List Char} {as : List (List Char)} (h : a ∈ as) :
    a <:+: List.intercalate sep as := by
  induction as with
  | nil => cases h
  | cons b as ih =>
    cases as with
    | nil =>
      obtain rfl := List.mem_singleton.1 h
      simp [List.intercalate_singleton]
    | cons c as =>
      rw [List.intercalate_cons_cons]
      rcases List.mem_cons.1 h with rfl | h
      · exact List.infix_append_of_infix_left List.infix_append_left
      · exact List.infix_append_of_infix_right (ih h)

theorem infix_ofArguments {args : List (List Char)} {a : List Char} (h : a ∈ args) :
    a <:+: ofArguments args := by
  rw [ofArguments.eq_def]
  split
  · cases h
  · obtain rfl := List.mem_singleton.1 h
    exact ⟨['\x7b'], ['\x7d'], rfl⟩
  · exact List.infix_append_of_infix_left (List.infix_append_of_infix_right (infix_intercalate h))

end ValueTemplate

/-- The text of a call of a callback is in what a template with such a call becomes. -/
theorem callText_infix_of_expandTemplate {name value : String} {template : ValueTemplate}
    (ht : ValueTemplate.parse value = .ok template) {text : List Char}
    (hm : .expression text ∈ template.parts)
    (hc : CallsBackIn functions place (String.ofList text)) {expanded : Option String}
    (h : (expandTemplate functions place name value).result = .ok expanded) :
    callText <:+: (expanded.getD value).toList := by
  rw [result_expandTemplate, ht] at h
  have hstatic : template.isStatic = false := by
    rw [ValueTemplate.isStatic, Bool.and_eq_false_iff]
    refine .inr (List.all_eq_false.2 ⟨_, hm, ?_⟩)
    simp [TemplatePart.isLiteral]
  simp only [hstatic, Bool.false_eq_true, ↓reduceIte] at h
  obtain ⟨rendered, hrendered, rfl⟩ := exists_of_map_eq_ok h
  rw [mapError_eq_ok] at hrendered
  obtain ⟨args, hargs, rfl⟩ := exists_of_map_eq_ok hrendered
  obtain ⟨v, hv, hmem⟩ := ValueTemplate.exists_mem_arguments hargs hm
  rw [Option.getD_some, String.toList_ofList]
  exact (callText_infix_of_compile hc hv).trans (ValueTemplate.infix_ofArguments hmem)

/-! ## One site -/

namespace Site

/-- The expressions at a site, for an attribute with this value. -/
def expressions (s : Site) (value : String) : List String :=
  match s.kind with
  | .expression => [value]
  | .template =>
    match ValueTemplate.parse value with
    | .error _ => []
    | .ok template => template.parts.filterMap fun
      | .literal _ => none
      | .expression text => some (String.ofList text)

/-- Where the expressions at a site stand. -/
def placeIn (d : Document) (s : Site) : Place :=
  match s.kind with
  | .expression => ⟨d, s.node, none⟩
  | .template => ⟨d, s.node, some s.name⟩

/-- Lowering the attribute at a site comes to a call of a callback. -/
def CallsBack (functions : FunctionMap) (d : Document) (s : Site) : Prop :=
  ∃ value ∈ d.attribute? s.node s.name, ∃ e ∈ s.expressions value,
    CallsBackIn functions (s.placeIn d) e

/-- The text of a call of a callback is in the attribute afterwards. -/
theorem CallsBack.callText_infix {s : Site} {d : Document} (hc : s.CallsBack functions d)
    {v : String} (h : s.lowered functions d = .ok v) : callText <:+: v.toList := by
  obtain ⟨value, ha, e, he, hc⟩ := hc
  obtain ⟨node, name, kind⟩ := s
  cases kind with
  | expression =>
    obtain rfl := List.mem_singleton.1 he
    simp only [lowered, show d.attribute? node name = some e from ha, Option.getD_some] at h
    exact callText_infix_of_compile hc (mapError_eq_ok.1 h)
  | template =>
    simp only [expressions] at he
    split at he
    · cases he
    · rename_i template ht
      simp only [lowered, show d.attribute? node name = some value from ha, Option.getD_some] at h
      obtain ⟨expanded, hexpanded, rfl⟩ := exists_of_map_eq_ok h
      obtain ⟨part, hpart, he⟩ := List.mem_filterMap.1 he
      cases part with
      | literal text => cases he
      | expression text =>
        cases he
        exact callText_infix_of_expandTemplate ht hpart hc hexpanded

end Site

/-! ## Calls of callbacks in a walk -/

/-- In a walk, a call of a callback is put into the attribute at a site: the walk has come to the
site, and lowering the attribute as it is then comes to such a call. -/
def Emits (functions : FunctionMap) (d : Document) (s : Site) : Prop :=
  ∃ before after d₁, sites d = before ++ s :: after ∧
    (before.forM (Site.lower functions)).outcome d = (d₁, .ok ()) ∧ s.CallsBack functions d₁

/-- Lowering other sites leaves an attribute alone. -/
theorem attribute?_of_lower {d d₁ d₂ : Document} (h : SameNames d d₁) {s : Site}
    (hs : s ∈ sitesOf d s.node) {id : NodeId} {name : String} (hne : s.key ≠ (id, name))
    (hl : (s.lower functions).outcome d₁ = (d₂, .ok ())) :
    d₂.attribute? id name = d₁.attribute? id name := by
  obtain ⟨value, ha⟩ := h.exists_value hs
  obtain ⟨v, -, ⟨-, rfl⟩ | rfl⟩ := Site.lower_eq_ok ha hl
  · rfl
  · rw [Document.attribute?_setAttribute (Document.isElement_of_attribute? ha), if_neg]
    exact fun hk => hne (Prod.ext hk.1 hk.2)

/-- A document into which a walk has put a call of a callback uses callbacks. -/
theorem usesCallbacks_of_emits {d d' : Document} (hd : d.WellFormed) {s : Site}
    (hs : Emits functions d s) (h : (Walk.standard.run functions).outcome d = (d', .ok ())) :
    usesCallbacks d' = true := by
  obtain ⟨before, after, d₁, hsites, hbefore, hcalls⟩ := hs
  obtain ⟨hmem, hnodup⟩ := distinct_sites hd
  rw [outcome_run_sites, hsites, Edit.outcome_forM_append, hbefore, Edit.andThen_ok,
    Edit.outcome_forM_cons] at h
  obtain ⟨d₂, _, hlower, hafter⟩ := Edit.exists_of_andThen_eq_ok h
  rw [hsites, List.forall_mem_append, List.forall_mem_cons] at hmem
  obtain ⟨hmem₁, hmem, hmem₂⟩ := hmem
  rw [hsites, List.map_append, List.map_cons, List.nodup_append, List.nodup_cons] at hnodup
  -- The call is there when its site has been lowered.
  have h₁ : SameNames d d₁ := (SameNames.refl d).lowerAll hmem₁ hbefore
  obtain ⟨value, ha⟩ := h₁.exists_value hmem
  obtain ⟨v, hv, hd₂⟩ := Site.lower_eq_ok ha hlower
  have hcall : callText <:+: v.toList := hcalls.callText_infix hv
  have ha₂ : d₂.attribute? s.node s.name = some v := by
    rcases hd₂ with ⟨rfl, rfl⟩ | rfl
    · exact ha
    · rw [Document.attribute?_setAttribute (Document.isElement_of_attribute? ha), if_pos ⟨rfl, rfl⟩]
  -- The sites after it are about other attributes.
  have hkept : SameNames d d' ∧ d'.attribute? s.node s.name = some v := by
    refine Edit.invariant_forM (I := fun x => SameNames d x ∧ x.attribute? s.node s.name = some v)
      (fun t ht x y hx hl => ?_) ⟨h₁.lower hmem hlower, ha₂⟩ hafter
    have hne : t.key ≠ (s.node, s.name) := fun hk =>
      hnodup.2.1.1 (List.mem_map.2 ⟨t, ht, hk⟩)
    exact ⟨hx.1.lower (hmem₂ t ht) hl, (attribute?_of_lower hx.1 (hmem₂ t ht) hne hl).trans hx.2⟩
  have hnode : s.node ∈ d'.elements := by
    have hs : s ∈ sites d := by
      rw [hsites]
      exact List.mem_append_right _ List.mem_cons_self
    obtain ⟨id, hid, hs⟩ := List.mem_flatMap.1 hs
    rw [hkept.1.toSameTree.elements, (mem_sitesOf.1 hs).1]
    exact hid
  exact usesCallbacks_of_attribute? hnode hkept.2 hcall

end XslLowering.Stylesheet
