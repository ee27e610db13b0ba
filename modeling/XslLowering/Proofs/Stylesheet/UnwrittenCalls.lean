import XslLowering.Proofs.Stylesheet.CallbackCalls
import XslLowering.Proofs.Stylesheet.TemplateArguments
import XslLowering.Proofs.Stylesheet.TemplateGrammar

/-!
# Texts of calls that lowering has not written

Whether callbacks are used is told by the text of a call of a callback. Where lowering writes no such
call, it brings this text in nowhere and removes it nowhere: grouping functions and what they become
can be told apart from it, and so can what is written around the parts of a template.

* `Regroups`: what lowering does to tokens if it comes to no call of a callback;
* `callText_infix_compile_iff`: the text of a call is in the compiled expression exactly if it is in
  the expression;
* `callText_infix_unparse_iff`, `callText_infix_ofArguments_iff`: where it can be in a template;
* `usesCallbacks_of_not_emits`: a walk that writes no call leaves it as it was whether callbacks are
  used.
-/

namespace XslLowering.Stylesheet

open Expression Text

theorem callText_ne_nil : callText ≠ [] := by decide

/-! ## Tokens -/

/-- The tokens of the second list are those of the first one, with calls of grouping functions
replaced. -/
inductive Regroups : List Token → List Token → Prop
  | nil : Regroups [] []
  | keep {t : Token} {ts us : List Token} : Regroups ts us → Regroups (t :: ts) (t :: us)
  | grouping {t opening closing : Token} {ts us tokens : List Token} :
    t.text = "current-group" ∨ t.text = "current-grouping-key" → opening.kind = .leftParen →
    closing.kind = .rightParen → IsGroupingTokens tokens → Regroups ts us →
    Regroups (t :: opening :: closing :: ts) (withSpacing t.spaced tokens ++ us)

/-- The loop comes to what it comes to after a step. -/
theorem callsBack_of_lowerStep {functions : FunctionMap} (hf : functions.Plain) {place : Place}
    {source : String} {done ts : List Token} {t : Token} {step : LoweringStep}
    (hl : lowerStep functions place source t ts = .ok step)
    (hc : CallsBack functions place (streamAt source (done ++ step.put) step.rest)) :
    CallsBack functions place (streamAt source done (t :: ts)) := by
  have ht : (streamAt source done (t :: ts)).current? = some t := peek?_streamAt ..
  have hcall := callAt?_streamAt functions source done ts t
  cases hcallee : functions.callee? t ts with
  | none =>
    rw [lowerStep, hcallee] at hl
    cases hl
    exact .skip ht (hcall.trans hcallee) (advance_streamAt .. ▸ hc)
  | some strategy =>
    rcases replacesAlike_of_callee? hf place source done hcallee with
      ⟨e, -, hl'⟩ | ⟨tokens, count, -, hle, hr, hl'⟩
    · rw [hl] at hl'
      cases hl'
    · rw [hl] at hl'
      cases hl'
      refine .replace ht (hcall.trans hcallee) hr ?_
      simp only [min_stop_streamAt source done hle]
      rw [putTokens_streamAt _ _ _ _ hle]
      exact hc

/-- Lowering that comes to no call of a callback replaces calls of grouping functions only. -/
theorem regroups_of_lowerCalls {registry : Callback.Registry} {functions : FunctionMap}
    (hf : functions.BuiltFrom registry) {place : Place} {source : String} {done ts us : List Token}
    {count : Nat} (hc : ¬CallsBack functions place (streamAt source done ts))
    (h : lowerCalls functions place source ts = .ok (us, count)) : Regroups ts us := by
  induction hn : ts.length using Nat.strongRecOn generalizing done ts us count with
  | ind n ih =>
  subst hn
  cases ts with
  | nil =>
    rw [lowerCalls_nil] at h
    cases h
    exact .nil
  | cons t ts =>
    rw [lowerCalls_cons] at h
    cases hl : lowerStep functions place source t ts with
    | error e =>
      rw [hl] at h
      cases h
    | ok step =>
      rw [hl] at h
      obtain ⟨result, hr, he⟩ := exists_of_map_eq_ok h
      cases he
      have hrest : Regroups step.rest result.1 :=
        ih _ (Nat.lt_succ_of_le (length_rest_lowerStep hl))
          (fun hlater => hc (callsBack_of_lowerStep hf.plain hl hlater)) hr rfl
      rcases lowerStep_cases hf.plain hl with ⟨-, rfl⟩ | ⟨opening, rest, rfl, ht, ho, hs, -⟩ |
        ⟨opening, closing, rest, tokens, rfl, ht, ho, hcl, hg, rfl⟩
      · exact .keep hrest
      · have hcallee : functions.callee? t (opening :: rest) = some (.callback t.text) :=
          (if_pos ⟨ht, ho⟩).trans hs
        exact absurd (.here (callAt?_streamAt .. ▸ hcallee)) hc
      · refine .grouping ?_ ho hcl hg hrest
        have hcallee : functions.callee? t (opening :: closing :: rest) = functions.get? t.text :=
          if_pos ⟨ht, ho⟩
        cases hs : functions.get? t.text with
        | none =>
          simp [lowerStep, hcallee, hs] at hl
        | some strategy =>
          rcases hf.get?_eq_some hs with ⟨hname, -⟩ | ⟨hname, -⟩ | ⟨-, rfl⟩
          · exact .inl hname
          · exact .inr hname
          · exact absurd (.here (callAt?_streamAt .. ▸ hcallee.trans hs)) hc

/-! ## Expressions -/

/-- A call of a grouping function, with the blanks before it. -/
theorem barrier_groupingCall {name : String} {blanks inner after : List Char}
    (hn : name = "current-group" ∨ name = "current-grouping-key")
    (hb : ∀ c ∈ blanks ++ (inner ++ after), isSpace c = true) :
    Barrier callText (blanks ++ (name.toList ++ (inner ++ '(' :: (after ++ [')'])))) := by
  have hne {c : Char} (hc : isSpace c = false) : c ∉ blanks ++ (inner ++ after) := by
    intro hm
    rw [hb c hm] at hc
    cases hc
  have hcolon := hne (c := ':') rfl
  have hparen := hne (c := '(') rfl
  simp only [List.mem_append, not_or] at hcolon hparen
  have hstart : ∃ rest, name.toList = 'c' :: 'u' :: rest ∧ ':' ∉ rest := by
    rcases hn with rfl | rfl
    · exact ⟨_, String.toList_ofList, by decide⟩
    · exact ⟨_, String.toList_ofList, by decide⟩
  obtain ⟨rest, hname, hrest⟩ := hstart
  have hcall : Barrier callText ('u' :: (rest ++ (inner ++ '(' :: (after ++ [')'])))) := by
    have hends : Barrier callText ('u' :: ((rest ++ (inner ++ '(' :: after)) ++ [')'])) :=
      barrier_of_ends (c := ':') (by decide) (by decide) (by decide) (by simp [hrest, hcolon])
    simpa using hends
  rw [hname]
  exact (hcall.cons callText_ne_nil (by decide)).appendLeft rfl hparen.1

theorem not_mem_of_isGroupId {id : String} (h : isGroupId id = true) {c : Char}
    (hc : (Text.isAlphanumeric c || c == '_' || c == '-' || c == '.') = false) : c ∉ id.toList := by
  intro hm
  rw [List.all_eq_true.1 h c hm] at hc
  cases hc

/-- What a call of a grouping function becomes. -/
theorem barrier_groupingTokens {tokens : List Token} (h : IsGroupingTokens tokens) :
    Barrier callText (renderTokens tokens) := by
  rcases h with rfl | rfl | ⟨id, hid, rfl | rfl⟩
  · exact barrier_of_ends (d := '/') (e := '*') (c := '(') (m := "xs:sequence/".toList)
      (by decide) (by decide) (by decide) (by decide)
  · exact barrier_of_ends (d := '\x27') (e := '\x27') (c := '(') (m := [])
      (by decide) (by decide) (by decide) (by decide)
  · have hparen : '(' ∉ id.toList := not_mem_of_isGroupId hid (by decide)
    have htext : renderTokens (groupSelection id) =
        '$' :: (("current-un-grouped-".toList ++ id.toList) ++ ['[']) ++
          ('g' :: ("enerate-id(.)".toList ++ ['=']) ++
            '$' :: (("current-group-".toList ++ (id.toList ++ "//xsl:element-id".toList)) ++ [']'])) := by
      simp [groupSelection, renderTokens, renderAfter, Token.gap, Token.ofVariable, Token.ofName,
        Token.ofOperator, Token.leftBracket, Token.leftParen, Token.dot, Token.rightParen,
        Token.doubleSlash, Token.rightBracket, Token.synthetic, TokenKind.isWordLike]
    rw [htext]
    refine Barrier.append ?_ (Barrier.append ?_ ?_ callText_ne_nil) callText_ne_nil
    · exact barrier_of_ends (c := '(') (by decide) (by decide) (by decide) (by simp [hparen])
    · exact barrier_of_ends (c := ':') (by decide) (by decide) (by decide) (by decide)
    · exact barrier_of_ends (c := '(') (by decide) (by decide) (by decide) (by simp [hparen])
  · have hcolon : ':' ∉ id.toList := not_mem_of_isGroupId hid (by decide)
    have htext : renderTokens (groupKey id) =
        's' :: (("tring($current-group-".toList ++ (id.toList ++ "/@key".toList)) ++ [')']) := by
      simp [groupKey, renderTokens, renderAfter, Token.gap, Token.ofVariable, Token.ofName,
        Token.leftParen, Token.slash, Token.atSign, Token.rightParen, Token.synthetic,
        TokenKind.isWordLike]
    rw [htext]
    exact barrier_of_ends (c := ':') (by decide) (by decide) (by decide) (by simp [hcolon])

/-- The last token that a call of a grouping function becomes is no word. -/
theorem exists_last_groupingTokens {tokens : List Token} (h : IsGroupingTokens tokens) :
    ∃ last, tokens.getLast? = some last ∧ last.kind.isWordLike = false := by
  rcases h with rfl | rfl | ⟨id, -, rfl | rfl⟩ <;> exact ⟨_, rfl, rfl⟩

theorem renderAfter_append (p : Token) (ts us : List Token) :
    renderAfter p (ts ++ us) = renderAfter p ts ++ renderAfter (ts.getLast?.getD p) us := by
  induction ts generalizing p with
  | nil => rfl
  | cons t ts ih =>
    rw [List.cons_append, renderAfter, renderAfter, ih, List.getLast?_cons, List.append_assoc,
      List.append_assoc, List.append_assoc, Option.getD_some]

/-- What is put in place of a call, after a blank or none. -/
theorem exists_gap_renderAfter {tokens : List Token} {last : Token} (h : tokens.getLast? = some last)
    (p : Token) (spaced : Bool) (us : List Token) :
    ∃ gap, (gap = [] ∨ gap = [' ']) ∧
      renderAfter p (withSpacing spaced tokens ++ us) =
        gap ++ renderTokens tokens ++ renderAfter last us := by
  cases tokens with
  | nil => cases h
  | cons first tokens =>
    rw [List.getLast?_cons, Option.some.injEq] at h
    refine ⟨_, gap_cases p { first with spaced }, ?_⟩
    rw [withSpacing, List.cons_append, renderAfter, renderAfter_spaced, renderAfter_append, h,
      renderTokens, List.append_assoc, List.append_assoc, List.append_assoc]

theorem barrier_blanks {blanks : List Char} (hne : blanks ≠ [])
    (hb : ∀ c ∈ blanks, isSpace c = true) : Barrier callText blanks := by
  have hspace : callText.all (fun c => !isSpace c) = true := by decide
  refine barrier_of_forall hne callText_ne_nil fun c hc hm => ?_
  have hc := List.all_eq_true.1 hspace c hm
  simp_all

/-- Blanks, and the blank that is written for them. -/
theorem occursAlike_blanks {blanks u v : List Char} (hb : ∀ c ∈ blanks, isSpace c = true)
    (h : OccursAlike callText u v) :
    OccursAlike callText (blanks ++ u) ((if !blanks.isEmpty then [' '] else []) ++ v) := by
  cases blanks with
  | nil => exact h
  | cons b blanks =>
    exact h.barriers (barrier_blanks (List.cons_ne_nil b blanks) hb) (barrier_singleton (by decide))

/-- Where calls of grouping functions are replaced, the text of a call of a callback stays where it
is, whatever stands before. -/
theorem Regroups.occursAlike {ts us : List Token} (h : Regroups ts us) {offset : Nat}
    {cs : List Char} (hscan : scan offset cs = (ts, none)) {p : Token}
    (hp : p.offset.isSome ∨ p.kind.isWordLike = false) :
    OccursAlike callText cs (renderAfter p us) := by
  induction h generalizing offset cs p with
  | nil =>
    intro a
    cases cs with
    | nil => exact Iff.rfl
    | cons c cs =>
      have hblank := barrier_blanks (List.cons_ne_nil c cs) (isSpace_of_scan_nil hscan) a []
      simpa [renderAfter, callText_ne_nil] using hblank
  | @keep t ts us h ih =>
    obtain ⟨blanks, rest, rfl, hb, ho, hs, -, -, hrest⟩ := scan_eq_cons hscan
    have hgap : p.gap t = if !blanks.isEmpty then [' '] else [] := by
      rw [← hs]
      rcases hp with hp | hp
      · exact gap_of_offset hp (by simp [ho])
      · exact gap_after hp
    rw [renderAfter, hgap, List.append_assoc]
    exact occursAlike_blanks hb ((ih hrest (.inl (by simp [ho]))).append t.text.toList)
  | @grouping t opening closing ts us tokens hname ho hc hg h ih =>
    obtain ⟨blanks, rest, rfl, hb, -, -, -, -, hrest⟩ := scan_eq_cons hscan
    obtain ⟨inner, rest, rfl, hb', -, -, hopening, -, hrest⟩ := scan_eq_cons hrest
    obtain ⟨after, rest, rfl, hb'', -, -, hclosing, -, hrest⟩ := scan_eq_cons hrest
    obtain ⟨last, hlast, hword⟩ := exists_last_groupingTokens hg
    obtain ⟨gap, hgap, hrender⟩ := exists_gap_renderAfter hlast p t.spaced us
    have hcall : Barrier callText
        (blanks ++ (t.text.toList ++ (inner ++ '(' :: (after ++ [')'])))) :=
      barrier_groupingCall hname (List.forall_mem_append.2 ⟨hb, List.forall_mem_append.2 ⟨hb', hb''⟩⟩)
    have hput : Barrier callText (gap ++ renderTokens tokens) :=
      (barrier_groupingTokens hg).appendLeft rfl (by rcases hgap with rfl | rfl <;> decide)
    have halike := (ih hrest (.inr hword)).barriers hcall hput
    have hleft := (bracket?_eq_some hopening (by rw [Token.bracket?, ho])).1
    have hright := (bracket?_eq_some hclosing (by rw [Token.bracket?, hc])).1
    rw [hrender, hleft, hright]
    simpa using halike

theorem callText_infix_renderTokens_iff {p : Token} (us : List Token) :
    callText <:+: renderTokens us ↔ callText <:+: renderAfter p us := by
  cases us with
  | nil => rfl
  | cons u us =>
    rw [renderTokens, renderAfter, List.append_assoc]
    rcases gap_cases p u with h | h <;> rw [h]
    · rfl
    · exact (infix_cons_iff_of_head (by decide) callText_ne_nil).symm

/-- The text of a call of a callback is in a compiled expression exactly if it was in the expression,
unless lowering comes to such a call. -/
theorem callText_infix_compile_iff {registry : Callback.Registry} {functions : FunctionMap}
    (hf : functions.BuiltFrom registry) {place : Place} {e v : String}
    (hc : ¬CallsBackIn functions place e) (h : (compile functions place e).result = .ok v) :
    callText <:+: v.toList ↔ callText <:+: e.toList := by
  rw [result_compile hf.plain] at h
  cases hts : tokenize e with
  | error fault =>
    rw [hts] at h
    cases h
  | ok ts =>
    rw [hts] at h
    obtain ⟨⟨us, count⟩, hl, rfl⟩ := exists_of_map_eq_ok h
    have hstream : ¬CallsBack functions place (streamAt e [] ts) := fun hcalls => hc ⟨ts, hts, hcalls⟩
    have halike := (regroups_of_lowerCalls hf hstream hl).occursAlike (tokenize_eq_ok_iff.1 hts).1
      (p := .leftParen) (.inr rfl)
    rw [String.toList_ofList, callText_infix_renderTokens_iff, halike.infix_iff]

/-! ## Templates -/

/-- The text of a part, without what is written around it. -/
def TemplatePart.text : TemplatePart → List Char
  | .literal text => text
  | .expression text => text

theorem occursAlike_escapeBrace {u v : List Char} (h : OccursAlike callText u v) (text : List Char) :
    OccursAlike callText (text.flatMap escapeBrace ++ u) (text ++ v) := by
  induction text with
  | nil => exact h
  | cons c text ih =>
    rw [List.flatMap_cons, List.append_assoc, escapeBrace]
    split
    · rename_i hc
      have hc : c ∉ callText := by rcases hc with rfl | rfl <;> decide
      refine ih.barriers (barrier_of_forall (List.cons_ne_nil _ _) callText_ne_nil fun d hd => ?_)
        (barrier_singleton hc)
      obtain rfl : d = c := by simpa using hd
      exact hc
    · exact ih.append [c]

/-- The text of a call of a callback is in a template exactly if it is in one of its parts. -/
theorem callText_infix_unparse_iff {parts : List TemplatePart} (h : WellFormedParts parts) :
    callText <:+: unparse parts ↔ OccursInSome callText (parts.map TemplatePart.text) := by
  have hopen : '\x7b' ∉ callText := by decide
  have hclose : '\x7d' ∉ callText := by decide
  have hexpression (text : List Char) (parts : List TemplatePart) :
      unparse (.expression text :: parts) = '\x7b' :: (text ++ '\x7d' :: unparse parts) := by
    simp [unparse, TemplatePart.unparse]
  induction parts with
  | nil => simp [unparse, callText_ne_nil]
  | cons part parts ih =>
    have hparts : callText <:+: unparse parts ↔ OccursInSome callText (parts.map TemplatePart.text) :=
      ih h.tail
    rw [List.map_cons, occursInSome_cons, ← hparts]
    cases part with
    | expression text =>
      rw [hexpression, infix_cons_iff_of_head (by decide) callText_ne_nil,
        infix_append_cons_iff hclose]
      rfl
    | literal text =>
      have halike : callText <:+: unparse (.literal text :: parts) ↔
          callText <:+: text ++ unparse parts :=
        (occursAlike_escapeBrace (.refl callText (unparse parts)) text).infix_iff
      rw [halike]
      -- A text ends at the end of the template, or at the brace of an expression.
      cases parts with
      | nil => simp [unparse, callText_ne_nil, TemplatePart.text]
      | cons next parts =>
        cases next with
        | literal other => exact absurd ⟨rfl, rfl⟩ (h.apart.rel_head? rfl)
        | expression other =>
          rw [hexpression, infix_append_cons_iff hopen,
            infix_cons_iff_of_head (by decide) callText_ne_nil]
          rfl

theorem occursInSome_quoteSegment (segment : List Char) :
    OccursInSome callText (quoteSegment segment) ↔ callText <:+: segment := by
  rw [quoteSegment]
  split
  · rename_i hempty
    simp [List.isEmpty_iff.1 hempty, callText_ne_nil]
  · rw [occursInSome_cons, inApostrophes, List.cons_append,
      infix_between_iff (by decide) (by decide) callText_ne_nil]
    simp

/-- The text of a call of a callback is in the literals for a text exactly if it is in the text. -/
theorem occursInSome_quoteLiteral (text : List Char) :
    OccursInSome callText (quoteLiteral text) ↔ callText <:+: text := by
  have hapostrophe : '\x27' ∉ callText := by decide
  have hquote : '\x22' ∉ callText := by decide
  rw [quoteLiteral]
  split
  · rw [occursInSome_cons, inApostrophes, List.cons_append,
      infix_between_iff hapostrophe hapostrophe callText_ne_nil]
    simp
  split
  · rw [occursInSome_cons, inDoubleQuotes, List.cons_append,
      infix_between_iff hquote hquote callText_ne_nil]
    simp
  split
  · rename_i hs
    exact absurd hs (segments_ne_nil '\x27' text)
  rename_i first others hs
  have hmark : ¬callText <:+: inDoubleQuotes ['\x27'] :=
    not_infix_of_not_mem (c := 'e') (by decide) (by decide)
  have hothers : OccursInSome callText
      (others.flatMap fun segment => inDoubleQuotes ['\x27'] :: quoteSegment segment) ↔
        OccursInSome callText others := by
    clear hs
    induction others with
    | nil => simp
    | cons segment others ih => simp [hmark, occursInSome_quoteSegment, ih]
  rw [eq_of_segments hs, infix_flatMap_iff hapostrophe, occursInSome_append,
    occursInSome_quoteSegment, hothers, occursInSome_cons]

theorem callText_infix_intercalate_iff (args : List (List Char)) :
    callText <:+: List.intercalate [',', ' '] args ↔ OccursInSome callText args := by
  induction args with
  | nil => simp [callText_ne_nil]
  | cons arg args ih =>
    cases args with
    | nil => simp
    | cons next args =>
      have hjoin : List.intercalate [',', ' '] (arg :: next :: args) =
          arg ++ ',' :: ' ' :: List.intercalate [',', ' '] (next :: args) := by
        simp [List.intercalate_cons_cons]
      rw [hjoin, infix_append_cons_iff (by decide),
        infix_cons_iff_of_head (by decide) callText_ne_nil, ih, ← occursInSome_cons]

/-- The text of a call of a callback is in a written template exactly if it is in one of its
arguments. -/
theorem callText_infix_ofArguments_iff (args : List (List Char)) :
    callText <:+: ValueTemplate.ofArguments args ↔ OccursInSome callText args := by
  have hopen : '\x7b' ∉ callText := by decide
  have hclose : '\x7d' ∉ callText := by decide
  rw [ValueTemplate.ofArguments.eq_def]
  split
  · have hempty : ¬callText <:+: "\x7b''\x7d".toList :=
      not_infix_of_not_mem (c := 'e') (by decide) (by decide)
    exact iff_of_false hempty occursInSome_nil
  · rw [List.cons_append, infix_between_iff hopen hclose callText_ne_nil]
    simp
  · have hend : ¬callText <:+: ['\x7d'] := not_infix_of_not_mem (c := 'e') (by decide) (by decide)
    rw [infix_append_cons_iff (by decide), or_iff_left hend,
      infix_append_iff_of_head rfl (by decide), callText_infix_intercalate_iff]

/-- The arguments of a template have the text of a call of a callback exactly if its parts have it. -/
theorem occursInSome_arguments {ε : Type} {compile : String → Except ε String}
    {parts : List TemplatePart} {args : List (List Char)}
    (hc : ∀ text v, .expression text ∈ parts → compile (String.ofList text) = .ok v →
      (callText <:+: v.toList ↔ callText <:+: text))
    (h : ValueTemplate.arguments compile parts = .ok args) :
    OccursInSome callText args ↔ OccursInSome callText (parts.map TemplatePart.text) := by
  induction parts generalizing args with
  | nil =>
    cases h
    rfl
  | cons part parts ih =>
    obtain ⟨first, others, hfirst, hothers, rfl⟩ := ValueTemplate.exists_of_arguments_cons h
    rw [occursInSome_append, List.map_cons, occursInSome_cons,
      ih (fun text v hm => hc text v (List.mem_cons_of_mem _ hm)) hothers]
    refine or_congr_left ?_
    cases part with
    | literal text =>
      cases hfirst
      exact occursInSome_quoteLiteral text
    | expression text =>
      obtain ⟨v, hv, rfl⟩ := ValueTemplate.exists_of_partArguments_expression hfirst
      simpa [TemplatePart.text] using hc text v List.mem_cons_self hv

/-! ## Sites and documents -/

theorem usesCallbacks_eq (d : Document) : usesCallbacks d =
    d.elements.any fun id => (d.attributes id).any fun a => containsSeq callText a.value.toList := rfl

/-- An attribute may get another value that has the text of a call of a callback exactly if the old
one had it. -/
theorem usesCallbacks_setAttribute_of_iff {d : Document} {id : NodeId} {name value v : String}
    (ha : d.attribute? id name = some value)
    (h : callText <:+: v.toList ↔ callText <:+: value.toList) :
    usesCallbacks (d.setAttribute id name v) = usesCallbacks d := by
  have he : d.isElement id = true := Document.isElement_of_attribute? ha
  rw [Document.attribute?_eq] at ha
  obtain ⟨a, hfind, rfl⟩ := Option.map_eq_some_iff.1 ha
  have hcontains : containsSeq callText v.toList = containsSeq callText a.value.toList := by
    rw [Bool.eq_iff_iff, containsSeq_iff, containsSeq_iff, h]
  have hany (x : NodeId) :
      ((d.setAttribute id name v).attributes x).any (fun b => containsSeq callText b.value.toList) =
        (d.attributes x).any fun b => containsSeq callText b.value.toList := by
    rw [Document.attributes_setAttribute he]
    split
    · rename_i hx
      exact Element.any_setIn (hx ▸ hfind) hcontains
    · rfl
  have helements := (Document.sameTree_setAttribute d id name v).elements
  rw [usesCallbacks_eq, usesCallbacks_eq, helements]
  simp only [hany]

section

variable {registry : Callback.Registry} {functions : FunctionMap}
  (hf : functions.BuiltFrom registry)

include hf

theorem callText_infix_expandTemplate_iff {place : Place} {name value : String}
    (hc : ∀ template, ValueTemplate.parse value = .ok template → ∀ text,
      .expression text ∈ template.parts → ¬CallsBackIn functions place (String.ofList text))
    {expanded : Option String}
    (h : (expandTemplate functions place name value).result = .ok expanded) :
    callText <:+: (expanded.getD value).toList ↔ callText <:+: value.toList := by
  rw [result_expandTemplate] at h
  cases ht : ValueTemplate.parse value with
  | error fault =>
    rw [ht] at h
    cases h
  | ok template =>
    rw [ht] at h
    simp only [] at h
    split at h
    · cases h
      rfl
    obtain ⟨rendered, hrendered, rfl⟩ := exists_of_map_eq_ok h
    rw [mapError_eq_ok] at hrendered
    obtain ⟨args, hargs, rfl⟩ := exists_of_map_eq_ok hrendered
    obtain ⟨hparts, hvalue⟩ := wellFormed_of_ofChars ht
    rw [Option.getD_some, String.toList_ofList, callText_infix_ofArguments_iff, ← hvalue,
      callText_infix_unparse_iff hparts]
    refine occursInSome_arguments (fun text v hm hv => ?_) hargs
    rw [callText_infix_compile_iff hf (hc template ht text hm) hv, String.toList_ofList]

/-- Lowering a site at which no callback is called leaves it as it was whether the text of such a call
is in the attribute. -/
theorem Site.callText_infix_lowered_iff {s : Site} {d : Document} {value v : String}
    (ha : d.attribute? s.node s.name = some value) (hc : ¬s.CallsBack functions d)
    (h : s.lowered functions d = .ok v) : callText <:+: v.toList ↔ callText <:+: value.toList := by
  obtain ⟨node, name, kind⟩ := s
  cases kind with
  | expression =>
    simp only [lowered, ha, Option.getD_some] at h
    refine callText_infix_compile_iff hf (fun hcalls => hc ?_) (mapError_eq_ok.1 h)
    exact ⟨value, ha, value, List.mem_singleton_self value, hcalls⟩
  | template =>
    simp only [lowered, ha, Option.getD_some] at h
    obtain ⟨expanded, hexpanded, rfl⟩ := exists_of_map_eq_ok h
    refine callText_infix_expandTemplate_iff hf (fun template ht text hm hcalls => hc ?_) hexpanded
    refine ⟨value, ha, String.ofList text, ?_, hcalls⟩
    simp only [expressions, ht]
    exact List.mem_filterMap.2 ⟨_, hm, rfl⟩

theorem usesCallbacks_of_lower {d d₁ d₂ : Document} (h : SameNames d d₁) {s : Site}
    (hs : s ∈ sitesOf d s.node) (hc : ¬s.CallsBack functions d₁)
    (hl : (s.lower functions).outcome d₁ = (d₂, .ok ())) : usesCallbacks d₂ = usesCallbacks d₁ := by
  obtain ⟨value, ha⟩ := h.exists_value hs
  obtain ⟨v, hv, ⟨-, rfl⟩ | rfl⟩ := Site.lower_eq_ok ha hl
  · rfl
  · exact usesCallbacks_setAttribute_of_iff ha (Site.callText_infix_lowered_iff hf ha hc hv)

/-- The sites that are left, once the sites before them are lowered. -/
theorem usesCallbacks_of_lowerAll {d d₁ d₂ : Document} (hc : ∀ s, ¬Emits functions d s)
    {before after : List Site} (hsites : sites d = before ++ after)
    (hbefore : (before.forM (Site.lower functions)).outcome d = (d₁, .ok ()))
    (hafter : (after.forM (Site.lower functions)).outcome d₁ = (d₂, .ok ())) :
    usesCallbacks d₂ = usesCallbacks d₁ := by
  have hmem : ∀ s ∈ before ++ after, s ∈ sitesOf d s.node := by
    intro s hs
    obtain ⟨id, -, hs⟩ := List.mem_flatMap.1 (hsites ▸ hs : s ∈ sites d)
    rwa [(mem_sitesOf.1 hs).1]
  induction after generalizing before d₁ with
  | nil =>
    cases hafter
    rfl
  | cons s after ih =>
    rw [Edit.outcome_forM_cons] at hafter
    obtain ⟨d', _, hlower, hafter⟩ := Edit.exists_of_andThen_eq_ok hafter
    have hbefore' : ((before ++ [s]).forM (Site.lower functions)).outcome d = (d', .ok ()) := by
      rw [Edit.outcome_forM_append, hbefore, Edit.andThen_ok, Edit.outcome_forM_cons, hlower]
      rfl
    have hassoc : before ++ s :: after = before ++ [s] ++ after := by simp
    rw [ih (hsites.trans hassoc) hbefore' hafter (hassoc ▸ hmem)]
    rw [List.forall_mem_append, List.forall_mem_cons] at hmem
    exact usesCallbacks_of_lower hf ((SameNames.refl d).lowerAll hmem.1 hbefore) hmem.2.1
      (fun hcalls => hc s ⟨before, after, d₁, hsites, hbefore, hcalls⟩) hlower

/-- A walk that writes no call of a callback leaves it as it was whether callbacks are used. -/
theorem usesCallbacks_of_not_emits {d d' : Document} (hc : ∀ s, ¬Emits functions d s)
    (h : (Walk.standard.run functions).outcome d = (d', .ok ())) :
    usesCallbacks d' = usesCallbacks d := by
  rw [outcome_run_sites] at h
  exact usesCallbacks_of_lowerAll hf hc (List.nil_append _).symm rfl h

end

end XslLowering.Stylesheet
