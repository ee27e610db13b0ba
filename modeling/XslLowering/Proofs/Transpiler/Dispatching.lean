import XslLowering.Proofs.Stylesheet.WrittenCalls
import XslLowering.Transpiler.Builder

/-!
# Calls that are written, and calls that are answered

Lowering writes calls of callbacks by name, and a registry answers them while the lowered stylesheet
is run. Both are made by one builder, to which settings, callbacks and functions are added in any
order.

* `Builder.Call`: what can be done to a builder; `Builder.after` is the builder after some calls;
* `Builder.exists_functionMap`: which strategy a function has after them;
* `Callback.outcome_within_dispatch`: a callback that is in a registry answers while this is active;
* `written_calls_are_answered`: the names in calls that lowering writes are those of callbacks that
  answer.
-/

namespace XslLowering

/-! ## Answers -/

namespace Callback

open Stylesheet (Error)

/-- What the code of a callback comes to while a registry is active. -/
def answerWithin (depth : Nat) (r : Registry) (callback : Callback) (args : List Value) :
    Except Abort Answer :=
  ((enter depth (callback args)).outcome (some r)).2

/-- A block in a scope sees the registry, and what was active before is active again. -/
theorem outcome_within {ε α : Type} (r : Registry) (block : Edit Active ε α) (previous : Active) :
    (within r block).outcome previous = (previous, (block.outcome (some r)).2) := by
  simp [within, activate, release]

/-- A callback that is in a registry answers, while this is active. -/
theorem outcome_within_dispatch {r : Registry} {name : String} {callback : Callback}
    (h : r.callbacks.get? name = some callback) (depth : Nat) (args : List Value)
    (previous : Active) :
    (within r (dispatch depth name args)).outcome previous =
      (previous, answerWithin depth r callback args) := by
  have hfind : answering (some r) name = .ok callback := by
    rw [answering, Registry.find, h]
  have hcall : ((dispatch depth name args).outcome (some r)).2 = answerWithin depth r callback args := by
    simp only [dispatch, dispatchWith, Edit.outcome_bind, Edit.outcome_get, Edit.andThen_ok, hfind,
      answerBy, Edit.outcome_note]
    rfl
  rw [outcome_within, hcall]

end Callback

namespace Transpiler

open Stylesheet Expression

/-! ## Functions of a builder -/

/-- What can be done to a builder. -/
inductive Builder.Call where
  | settings (settings : Settings)
  | disableEntities (disable : Bool)
  | targetVersion (version : String)
  | nativeCallbacks (enabled : Bool)
  | caching
  | callback (name : String) (callback : Callback)
  | function (name : String) (strategy : Strategy)

namespace Builder

/-- A call replaces what was set before, and adds to the callbacks and functions. -/
def Call.apply (b : Builder) : Call → Builder
  | .settings s => { b with settings := s }
  | .disableEntities disable => { b with settings := { b.settings with disableEntities := disable } }
  | .targetVersion version => { b with settings := { b.settings with targetVersion := version } }
  | .nativeCallbacks enabled => { b with settings := { b.settings with nativeCallbacks := enabled } }
  | .caching => { b with caching := true }
  | .callback name c => { b with callbacks := b.callbacks.register name c }
  | .function name strategy => { b with functions := b.functions ++ [(name, strategy)] }

/-- The builder after some calls. -/
def after (calls : List Call) : Builder := calls.foldl Call.apply standard

/-- A function that is added calls no callbacks itself. -/
def Call.Ordinary : Call → Prop
  | .function _ strategy => strategy.CallsOnly fun _ => False
  | _ => True

/-- The calls add functions and no passes. -/
theorem mem_functions_after (calls : List Call) :
    (after calls).passes = [] ∧
      ∀ n strategy, (n, strategy) ∈ (after calls).functions ↔ .function n strategy ∈ calls := by
  -- By induction on the calls to come, for all builders that they start from.
  have later (b : Builder) : (calls.foldl Call.apply b).passes = b.passes ∧
      ∀ n strategy, (n, strategy) ∈ (calls.foldl Call.apply b).functions ↔
        (n, strategy) ∈ b.functions ∨ .function n strategy ∈ calls := by
    induction calls generalizing b with
    | nil => exact ⟨rfl, by simp⟩
    | cons c calls ih =>
      obtain ⟨hpasses, hfunctions⟩ := ih (c.apply b)
      refine ⟨?_, fun n strategy => ?_⟩
      · rw [List.foldl_cons, hpasses]
        cases c <;> rfl
      · rw [List.foldl_cons, hfunctions, List.mem_cons]
        cases c <;> simp [Call.apply, or_assoc]
  obtain ⟨hpasses, hfunctions⟩ := later standard
  refine ⟨hpasses, fun n strategy => (hfunctions n strategy).trans ?_⟩
  exact ⟨fun h => h.resolve_left List.not_mem_nil, .inr⟩

/-- The registry of the transpiler to be built. -/
def registry (b : Builder) : Callback.Registry :=
  if b.settings.nativeCallbacks then b.callbacks else .empty

/-- Adds functions to a map, one after the other. -/
def addFunctions (m : FunctionMap) (fs : List (String × Strategy)) : FunctionMap :=
  fs.foldl (fun m f => ⟨m.strategies.insert f.1 f.2⟩) m

/-- The last strategy that was added for a function counts. -/
theorem get?_addFunctions (m : FunctionMap) (fs : List (String × Strategy)) (n : String) :
    (∃ strategy, (n, strategy) ∈ fs ∧ (addFunctions m fs).get? n = some strategy) ∨
    (∀ strategy, (n, strategy) ∉ fs) ∧ (addFunctions m fs).get? n = m.get? n := by
  induction fs generalizing m with
  | nil => exact .inr ⟨by simp, rfl⟩
  | cons f fs ih =>
    obtain ⟨name, strategy⟩ := f
    rcases ih ⟨m.strategies.insert name strategy⟩ with ⟨later, hmem, hget⟩ | ⟨hnone, hget⟩
    · exact .inl ⟨later, List.mem_cons_of_mem _ hmem, hget⟩
    · rw [FunctionMap.get?_insert] at hget
      by_cases hn : name = n
      · rw [if_pos (beq_iff_eq.2 hn)] at hget
        exact .inl ⟨strategy, hn ▸ List.mem_cons_self, hget⟩
      · rw [if_neg (mt beq_iff_eq.1 hn)] at hget
        refine .inr ⟨fun strategy' hmem => ?_, hget⟩
        rcases List.mem_cons.1 hmem with heq | hmem
        · exact hn (congrArg Prod.fst heq).symm
        · exact hnone strategy' hmem

/-- The functions of a transpiler: the callbacks of its registry and the grouping functions, and then
those that were added. -/
theorem exists_functionMap {ε : Type} (b : Builder) :
    ∃ base : FunctionMap, base.BuiltFrom b.registry ∧
      (b.functionMap : Attempt ε FunctionMap).result = .ok (addFunctions base b.functions) := by
  have hnames : (if b.settings.nativeCallbacks then b.callbacks.names else []) =
      b.registry.names := by
    rw [registry]
    split
    · rfl
    · exact (List.eq_nil_of_length_eq_zero (List.length_mergeSort _)).symm
  -- Nothing fails, so the maps are the same whatever an error would be.
  let callbacks := b.registry.names.foldl (fun m name => ⟨m.strategies.insert name (.callback name)⟩)
    FunctionMap.empty
  have hcallbacks {ε' : Type} : (FunctionMap.empty.registerCallbacks b.registry.names :
      Attempt ε' FunctionMap).result = .ok callbacks :=
    Attempt.result_foldlM (fun m name => FunctionMap.result_set m name _) _ _
  let base : FunctionMap := ⟨(callbacks.strategies.insert "current-group" .currentGroup).insert
    "current-grouping-key" .currentGroupingKey⟩
  have hgrouping {ε' : Type} : (callbacks.registerGrouping : Attempt ε' FunctionMap).result =
      .ok base := by
    rw [FunctionMap.registerGrouping, Attempt.result_bind, FunctionMap.result_set]
    exact FunctionMap.result_set ..
  refine ⟨base, ?_, ?_⟩
  · rw [FunctionMap.BuiltFrom, Attempt.result_bind, hcallbacks]
    exact hgrouping
  · rw [functionMap, hnames, Attempt.result_bind, hcallbacks]
    show Attempt.result (callbacks.registerGrouping >>= _) = _
    rw [Attempt.result_bind, hgrouping]
    exact Attempt.result_foldlM (fun m (f : String × Strategy) => FunctionMap.result_set m f.1 f.2) _ _

/-- A builder makes a transpiler of what it has collected. -/
theorem exists_build {ε : Type} (b : Builder) :
    ∃ base : FunctionMap, base.BuiltFrom b.registry ∧
      (b.build : Attempt ε Transpiler).result =
        .ok ⟨b.settings, addFunctions base b.functions, b.registry,
          standardPasses b.settings (addFunctions base b.functions) ++ b.passes, b.caching⟩ := by
  obtain ⟨base, hbase, hmap⟩ := @exists_functionMap ε b
  refine ⟨base, hbase, ?_⟩
  rw [build, Attempt.result_bind, hmap]
  rfl

theorem contains_registry (b : Builder) (n : String) :
    b.registry.contains n = true ↔
      b.settings.nativeCallbacks = true ∧ b.callbacks.contains n = true := by
  rw [registry]
  split
  · rename_i hon
    simp [hon]
  · rename_i hoff
    simp [hoff, Callback.Registry.contains, Callback.Registry.empty, Dictionary.contains]

section

variable {base : FunctionMap} {r : Callback.Registry} (hbase : base.BuiltFrom r)
  {fs : List (String × Strategy)}
  (hfs : ∀ n strategy, (n, strategy) ∈ fs → strategy.CallsOnly fun _ => False)

include hbase hfs

/-- A function stands for a callback of the registry, with the same name, unless the name is that of a
grouping function or of a function that was added. -/
theorem get?_eq_callback_iff (n m : String) :
    (addFunctions base fs).get? n = some (.callback m) ↔
      m = n ∧ r.contains n = true ∧ n ≠ "current-group" ∧ n ≠ "current-grouping-key" ∧
        ∀ strategy, (n, strategy) ∉ fs := by
  rcases get?_addFunctions base fs n with ⟨strategy, hmem, hget⟩ | ⟨hnone, hget⟩
  · refine ⟨fun h => ?_, fun h => absurd hmem (h.2.2.2.2 strategy)⟩
    cases hget.symm.trans h
    exact (hfs n _ hmem).elim
  · rw [hget, hbase.get?]
    split_ifs with hgroup hkey hcontains
    · exact ⟨nofun, fun h => absurd hgroup h.2.2.1⟩
    · exact ⟨nofun, fun h => absurd hkey h.2.2.2.1⟩
    · refine ⟨fun h => ?_, fun h => h.1 ▸ rfl⟩
      cases h
      exact ⟨rfl, hcontains, hgroup, hkey, hnone⟩
    · exact ⟨nofun, fun h => absurd h.2.1 hcontains⟩

/-- The strategies call callbacks of the registry. -/
theorem callsOnly_of_get? {n : String} (hn : QualifiedName n.toList) {strategy : Strategy}
    (h : (addFunctions base fs).get? n = some strategy) :
    strategy.CallsOnly fun n => r.contains n = true ∧ QualifiedName n.toList := by
  cases strategy with
  | callback m =>
    obtain ⟨rfl, hcontains, -⟩ := (get?_eq_callback_iff hbase hfs n m).1 h
    exact ⟨hcontains, hn⟩
  | currentGroup => trivial
  | currentGroupingKey => trivial
  | custom replace =>
    rcases get?_addFunctions base fs n with ⟨strategy, hmem, hget⟩ | ⟨-, hget⟩
    · cases hget.symm.trans h
      exact hfs n _ hmem
    · -- Without functions that are added, there are no others.
      rcases hbase.plain n _ (hget.symm.trans h) with hs | hs | hs <;> cases hs

end

end Builder

/-- Lowering calls what will answer. After any calls of a builder, a function is replaced by a call of
the callback with its name exactly if callbacks are on in the end, the callback is registered, and the
name is neither that of a grouping function nor that of a function that was added. Every call that
transpiling a document writes names a callback of the transpiler: where the transpiler's callbacks
answer, the call comes to what the code of this one comes to, whatever was active before. -/
theorem written_calls_are_answered {ε : Type} (calls : List Builder.Call)
    (h : ∀ c ∈ calls, c.Ordinary) :
    ∃ t, ((Builder.after calls).build : Attempt ε Transpiler).result = .ok t ∧
      t.passes = standardPasses t.settings t.functions ∧
      t.callbacks = (Builder.after calls).registry ∧
      (∀ n m, t.functions.get? n = some (.callback m) ↔
        m = n ∧ (Builder.after calls).settings.nativeCallbacks = true ∧
          (Builder.after calls).callbacks.contains n = true ∧
          n ≠ "current-group" ∧ n ≠ "current-grouping-key" ∧
          ∀ strategy, .function n strategy ∉ calls) ∧
      ∀ d after, WritesCall t.functions d after →
        ∃ n callback rest, after = .leftParen :: .ofString n :: rest ∧
          (Token.ofString n).text = "'" ++ n ++ "'" ∧
          t.callbacks.callbacks.get? n = some callback ∧
          ∀ depth args previous, (t.withCallbacks (Callback.dispatch depth n args)).outcome previous =
            (previous, Callback.answerWithin depth t.callbacks callback args) := by
  obtain ⟨hpasses, hfunctions⟩ := Builder.mem_functions_after calls
  obtain ⟨base, hbase, hbuild⟩ := @Builder.exists_build ε (Builder.after calls)
  have hordinary (n : String) (strategy : Strategy)
      (hmem : (n, strategy) ∈ (Builder.after calls).functions) :
      strategy.CallsOnly fun _ => False :=
    h _ ((hfunctions n strategy).1 hmem)
  refine ⟨_, hbuild, ?_, rfl, fun n m => ?_, fun d after hwrites => ?_⟩
  · simp only [hpasses, List.append_nil]
  · rw [Builder.get?_eq_callback_iff hbase hordinary, Builder.contains_registry, and_assoc]
    simp only [hfunctions]
  · obtain ⟨n, rest, hafter, hcontains, hname⟩ := name_of_writesCall
      (fun name hname strategy => Builder.callsOnly_of_get? hbase hordinary hname) hwrites
    obtain ⟨callback, hcallback⟩ := Option.isSome_iff_exists.1 hcontains
    exact ⟨n, callback, rest, hafter, text_ofString_of_qualifiedName hname, hcallback,
      Callback.outcome_within_dispatch hcallback⟩

/-- Callbacks are turned off, and then all settings are replaced. A callback has the name of a grouping
function, and a function is added with the name of a callback. -/
def mixedCalls : List Builder.Call :=
  [.nativeCallbacks false, .callback "f" (.native fun args => .ok (.boolean args.isEmpty)),
    .callback "current-group" (.redirect "f"), .function "upper-case" .currentGroupingKey,
    .settings .standard]

/-- A condition that calls a callback with an argument. -/
def nestedCall : Document :=
  ⟨#[⟨.document, none, [1]⟩, ⟨.element ⟨"x:if", [⟨"xmlns:x", xslNamespace⟩,
    ⟨"test", "f(upper-case())"⟩]⟩, some 0, []⟩], none⟩

/-- Of the names that are registered, only the one that is free is called, and its callback answers. -/
theorem written_calls_are_answered_mixed :
    (∀ c ∈ mixedCalls, c.Ordinary) ∧
    ∃ t, ((Builder.after mixedCalls).build : Attempt Error Transpiler).result = .ok t ∧
      t.functions.get? "f" = some (.callback "f") ∧
      t.functions.get? "current-group" ≠ some (.callback "current-group") ∧
      t.functions.get? "upper-case" ≠ some (.callback "upper-case") ∧
      WritesCall t.functions nestedCall [.leftParen, .ofString "f", .comma, .ofString "",
        ⟨.rightParen, ")", some 14, false⟩] ∧
      (t.withCallbacks (Callback.dispatch 1 "f" [.string ""])).outcome none =
        (none, .ok (.ok (.boolean false))) := by
  have hordinary : ∀ c ∈ mixedCalls, c.Ordinary := by
    simp [mixedCalls, Builder.Call.Ordinary, Strategy.CallsOnly]
  obtain ⟨t, ht, -, hcallbacks, hiff, hanswered⟩ :=
    @written_calls_are_answered Error mixedCalls hordinary
  have hwrites : WritesCall t.functions nestedCall [.leftParen, .ofString "f", .comma, .ofString "",
      ⟨.rightParen, ")", some 14, false⟩] := by
    have hnames : (Builder.after mixedCalls).callbacks.names = ["abs", "current-group", "ends-with",
        "f", "lower-case", "matches", "replace", "upper-case"] :=
      FunctionMap.names_eq_of_perm (by decide) (by decide)
    obtain ⟨functions, hfunctions, hbuild⟩ := Attempt.exists_of_result_bind ht
    rw [Builder.functionMap, hnames] at hfunctions
    obtain ⟨_, -, hbuild⟩ := Attempt.exists_of_result_bind hbuild
    cases hfunctions
    cases hbuild
    exact ⟨⟨1, "test", .expression⟩, nestedCall, "f(upper-case())", "f(upper-case())",
      [⟨.name, "f", some 0, false⟩, ⟨.leftParen, "(", some 1, false⟩,
        ⟨.name, "upper-case", some 2, false⟩, ⟨.leftParen, "(", some 12, false⟩,
        ⟨.rightParen, ")", some 13, false⟩, ⟨.rightParen, ")", some 14, false⟩],
      ⟨"f(upper-case())", _, 6⟩, 2, [], .ofName callName, ⟨[], [], by decide +kernel, rfl⟩, rfl,
      List.mem_singleton_self _, by decide +kernel, by decide +kernel, rfl, rfl, by decide⟩
  obtain ⟨n, callback, rest, hafter, hquoted, hget, hanswer⟩ := hanswered nestedCall _ hwrites
  refine ⟨hordinary, t, ht, ?_, ?_, ?_, hwrites, ?_⟩
  · refine (hiff "f" "f").2 ⟨rfl, rfl, rfl, by decide, by decide, fun strategy => ?_⟩
    simp [mixedCalls]
  · exact fun h => ((hiff _ _).1 h).2.2.2.1 rfl
  · refine fun h => ((hiff _ _).1 h).2.2.2.2.2 .currentGroupingKey ?_
    simp [mixedCalls]
  · have htext : (Token.ofString "f").text = (Token.ofString n).text :=
      congrArg Token.text (List.cons.inj (List.cons.inj hafter).2).1
    obtain rfl : "f" = n := by
      rw [hquoted, String.append_assoc] at htext
      exact (String.append_left_inj "'").1 ((String.append_right_inj "'").1 htext)
    rw [hcallbacks] at hget hanswer
    cases hget
    exact hanswer 1 [.string ""] none

end Transpiler

end XslLowering
