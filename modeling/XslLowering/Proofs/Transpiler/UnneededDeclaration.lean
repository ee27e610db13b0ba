import XslLowering.Proofs.Stylesheet.UnwrittenCalls
import XslLowering.Proofs.Transpiler.CallbackBinding
import XslLowering.Proofs.Transpiler.Dispatching

/-!
# Declarations of callbacks that are not called

Callbacks are declared for the text of their calls, wherever it comes from. The walk brings it in by
writing such calls; but it may also have been there before, in an attribute of any kind.

* `outcome_declareCallbacks_eq_self_iff`: when declaring callbacks leaves a document as it is;
* `declaration_left_out_iff`: when it does so after a walk that has written no call of a callback;
* `unwritten_call_is_declared`: a stylesheet with a function of its own whose name ends like that of
  the function for callbacks. It is declared, though no callback is called.
-/

namespace XslLowering.Stylesheet

open Expression

/-! ## Declaring what is declared -/

/-- If excluding the qualifier of callbacks changes nothing, it is excluded. -/
theorem excluded_of_exclude {d : Document} {root : NodeId} (he : d.isElement root = true)
    (h : (exclude root).outcome d = (d, .ok ())) {name : String}
    (hname : exclusionAttribute? d root = some name) :
    excludeCallbacks ((d.attribute? root name).getD "") = (d.attribute? root name).getD "" := by
  simp only [exclude, Edit.outcome_bind, Edit.outcome_get, Edit.andThen_ok, hname] at h
  split at h
  · rw [Document.outcome_assign he] at h
    -- The attribute that is set has the value that it is set to.
    have hset := congrArg (fun o => (o.1.attribute? root name).getD "") h
    simpa [Document.attribute?_setAttribute he] using hset
  · rename_i hsame
    simpa using hsame

/-- Declaring callbacks leaves a document as it is exactly if the text of a call of a callback is in
none of its attributes, or callbacks are declared already. -/
theorem outcome_declareCallbacks_eq_self_iff {d : Document} :
    declareCallbacks.outcome d = (d, .ok ()) ↔
      ∀ root, d.documentElement? = some root → usesCallbacks d = true → Declared d root := by
  cases hroot : d.documentElement? with
  | none =>
    have hnone : declareCallbacks.outcome d = (d, .ok ()) := by
      simp [declareCallbacks, hroot]
    simp [hnone]
  | some root =>
    have he : d.isElement root = true := List.find?_some hroot
    constructor
    · intro h other hother hu
      cases hother
      have hbound := (bindsOnlyAt_of_declareCallbacks hroot h).2 hu
      have hbind : (bindCallbacks root).outcome d = (d, .ok ()) := by
        simp [bindCallbacks, hbound]
      rw [outcome_declareCallbacks hroot, if_pos hu, hbind, Edit.andThen_ok] at h
      exact ⟨hbound, excluded_of_exclude he h⟩
    · intro h
      exact outcome_declareCallbacks_of_declared hroot (h root rfl)

/-! ## Expressions that name no callback -/

/-- Where a callback is called, it is named. -/
theorem exists_name_of_callsBack {registry : Callback.Registry} {functions : FunctionMap}
    (hf : functions.BuiltFrom registry) {place : Place} {source : String} {done ts : List Token}
    (h : CallsBack functions place (streamAt source done ts)) :
    ∃ t ∈ ts, registry.contains t.text = true := by
  generalize hs : streamAt source done ts = s at h
  induction h generalizing done ts with
  | here hcall =>
    subst hs
    cases ts with
    | nil => simp [FunctionMap.callAt?, TokenStream.current?, peek?_streamAt] at hcall
    | cons t ts =>
      rw [callAt?_streamAt] at hcall
      obtain ⟨_, _, rfl, -, -, hget⟩ := callee?_eq_some hcall
      rcases hf.get?_eq_some hget with ⟨-, hs⟩ | ⟨-, hs⟩ | ⟨hcontains, -⟩
      · cases hs
      · cases hs
      · exact ⟨t, List.mem_cons_self, hcontains⟩
  | skip ht hcall later ih =>
    subst hs
    cases ts with
    | nil => simp [TokenStream.current?, peek?_streamAt] at ht
    | cons t ts =>
      obtain ⟨u, hu, hcontains⟩ := ih (advance_streamAt source done ts t).symm
      exact ⟨u, List.mem_cons_of_mem _ hu, hcontains⟩
  | replace ht hcall hr later ih =>
    subst hs
    cases ts with
    | nil => simp [TokenStream.current?, peek?_streamAt] at ht
    | cons t ts =>
      rw [callAt?_streamAt] at hcall
      rcases replacesAlike_of_callee? hf.plain place source done hcall with
        ⟨e, hr', -⟩ | ⟨tokens, count, -, hle, hr', -⟩
      · cases hr.symm.trans hr'
      · cases hr.symm.trans hr'
        simp only [min_stop_streamAt source done hle, putTokens_streamAt source done (t :: ts) _ hle] at ih
        obtain ⟨u, hu, hcontains⟩ := ih rfl
        exact ⟨u, List.mem_of_mem_drop hu, hcontains⟩

theorem not_callsBackIn_of_tokenize {registry : Callback.Registry} {functions : FunctionMap}
    (hf : functions.BuiltFrom registry) {place : Place} {e : String} {ts : List Token}
    (hts : tokenize e = .ok ts) (h : ∀ t ∈ ts, registry.contains t.text = false) :
    ¬CallsBackIn functions place e := by
  rintro ⟨_, hts', hcalls⟩
  cases hts.symm.trans hts'
  obtain ⟨t, ht, hcontains⟩ := @exists_name_of_callsBack _ _ hf place e [] ts hcalls
  exact Bool.false_ne_true ((h t ht).symm.trans hcontains)

/-- In a document with one site, a call can be written only there. -/
theorem not_emits_of_sites {functions : FunctionMap} {d : Document} {site : Site}
    (hsites : sites d = [site]) (h : ¬site.CallsBack functions d) (s : Site) :
    ¬Emits functions d s := by
  rintro ⟨before, after, d₁, hsplit, hbefore, hcalls⟩
  rw [hsites] at hsplit
  cases before with
  | nil =>
    cases hsplit
    cases hbefore
    exact h hcalls
  | cons first before =>
    have hlength := congrArg List.length hsplit
    simp at hlength

end XslLowering.Stylesheet

namespace XslLowering.Transpiler

open Stylesheet Expression

/-- The functions of a transpiler to which none were added. -/
theorem builtFrom_of_build {ε : Type} {b : Builder} (hb : b.functions = []) {t : Transpiler}
    (ht : (b.build : Attempt ε Transpiler).result = .ok t) : t.functions.BuiltFrom b.registry := by
  obtain ⟨base, hbase, hbuild⟩ := @Builder.exists_build ε b
  cases ht.symm.trans hbuild
  rw [hb]
  exact hbase

/-- After a walk that has written no call of a callback, declaring callbacks leaves the document as it
is exactly if the text of such a call is in none of its attributes, or callbacks are declared already.
If no functions were added to those that every transpiler has, this text is in an attribute after the
walk exactly if it was in one before. -/
theorem declaration_left_out_iff {ε : Type} {b : Builder} (hb : b.settings.nativeCallbacks = true)
    {t : Transpiler} (ht : (b.build : Attempt ε Transpiler).result = .ok t) {d lowered : Document}
    (hwalk : (Walk.standard.run t.functions).outcome d = (lowered, .ok ()))
    (hs : ∀ s, ¬Emits t.functions d s) :
    t.passes = .lower t.functions .standard :: .declareCallbacks :: b.passes ∧
      (declareCallbacks.outcome lowered = (lowered, .ok ()) ↔
        ∀ root, lowered.documentElement? = some root → usesCallbacks lowered = true →
          Declared lowered root) ∧
      (b.functions = [] → usesCallbacks lowered = usesCallbacks d) :=
  ⟨passes_of_build hb ht, outcome_declareCallbacks_eq_self_iff, fun hfunctions =>
    usesCallbacks_of_not_emits (builtFrom_of_build hfunctions ht) hs hwalk⟩

/-- A stylesheet with one test, and with these attributes on its outermost element. -/
def testing (attributes : List Attribute) (test : String) : Document :=
  ⟨#[⟨.document, none, [1]⟩,
    ⟨.element ⟨"x:stylesheet", ⟨"xmlns:x", xslNamespace⟩ :: attributes⟩, some 0, [2]⟩,
    ⟨.element ⟨"x:if", [⟨"test", test⟩]⟩, some 1, []⟩], none⟩

/-- A test that names no callback. -/
theorem not_emits_testing {attributes : List Attribute} {test : String} {ts : List Token}
    (hsites : sites (testing attributes test) = [⟨2, "test", .expression⟩])
    (hts : tokenize test = .ok ts) (h : ∀ t ∈ ts, Callback.Registry.builtin.contains t.text = false) :
    ∀ s, ¬Emits standard.functions (testing attributes test) s := by
  refine not_emits_of_sites hsites ?_
  rintro ⟨value, hvalue, e, he, hcalls⟩
  obtain rfl : test = value := Option.some.inj hvalue
  obtain rfl : e = test := List.mem_singleton.1 he
  exact not_callsBackIn_of_tokenize builtFrom_standardFunctions hts h hcalls

/-- A call of a grouping function is replaced, and nothing is declared. -/
theorem declaration_left_out_for_grouping :
    ∃ t lowered, (Builder.standard.build : Attempt Error Transpiler).result = .ok t ∧
      (Walk.standard.run t.functions).outcome (testing [] "current-group()") = (lowered, .ok ()) ∧
      (∀ s, ¬Emits t.functions (testing [] "current-group()") s) ∧
      lowered.attribute? 2 "test" = some "/xs:sequence/*" ∧
      declareCallbacks.outcome lowered = (lowered, .ok ()) := by
  have ht : (Builder.standard.build : Attempt Error Transpiler).result = .ok standard :=
    result_build_standard
  have hwalk : (Walk.standard.run standard.functions).outcome (testing [] "current-group()") =
      (((Walk.standard.run standard.functions).outcome (testing [] "current-group()")).1, .ok ()) :=
    Prod.ext rfl (by decide +kernel)
  have hts : tokenize "current-group()" = .ok [⟨.name, "current-group", some 0, false⟩,
      ⟨.leftParen, "(", some 13, false⟩, ⟨.rightParen, ")", some 14, false⟩] := by decide +kernel
  have hs : ∀ s, ¬Emits standard.functions (testing [] "current-group()") s :=
    not_emits_testing (by decide +kernel) hts (by decide)
  obtain ⟨-, hiff, hsame⟩ := declaration_left_out_iff rfl ht hwalk hs
  refine ⟨standard, _, ht, hwalk, hs, by decide +kernel, hiff.2 fun root _ hused => ?_⟩
  rw [hsame rfl] at hused
  exact absurd hused (by decide +kernel)

/-- A function of the stylesheet's own, whose name ends like that of the function for callbacks: no
call of a callback is written, and callbacks are declared. -/
theorem unwritten_call_is_declared :
    ∃ t d lowered declared, (Builder.standard.build : Attempt Error Transpiler).result = .ok t ∧
      (Document.parse ("<x:stylesheet xmlns:x='http://www.w3.org/1999/XSL/Transform' " ++
        "xmlns:next='urn:mine' version='1.0'><x:if test='next:call(.)'/></x:stylesheet>")).result = .ok d ∧
      (Walk.standard.run t.functions).outcome d = (lowered, .ok ()) ∧
      (∀ s, ¬Emits t.functions d s) ∧
      declareCallbacks.outcome lowered = (declared, .ok ()) ∧
      lowered.attribute? 1 "xmlns:ext" = none ∧
      declared.attribute? 1 "xmlns:ext" = some callbackNamespace := by
  have hd : (Document.parse ("<x:stylesheet xmlns:x='http://www.w3.org/1999/XSL/Transform' " ++
      "xmlns:next='urn:mine' version='1.0'><x:if test='next:call(.)'/></x:stylesheet>")).result =
        .ok (testing [⟨"xmlns:next", "urn:mine"⟩, ⟨"version", "1.0"⟩] "next:call(.)") := by decide +kernel
  have hts : tokenize "next:call(.)" = .ok [⟨.name, "next:call", some 0, false⟩,
      ⟨.leftParen, "(", some 9, false⟩, ⟨.dot, ".", some 10, false⟩,
      ⟨.rightParen, ")", some 11, false⟩] := by decide +kernel
  refine ⟨standard, _, _, _, result_build_standard, hd, Prod.ext rfl ?_,
    not_emits_testing (by decide +kernel) hts (by decide), Prod.ext rfl ?_, ?_, ?_⟩
  all_goals decide +kernel

end XslLowering.Transpiler
