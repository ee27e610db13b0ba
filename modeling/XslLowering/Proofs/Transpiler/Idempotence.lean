import XslLowering.Proofs.Stylesheet.Declaring
import XslLowering.Transpiler.Builder

/-!
# Transpiling again

A transpiler with the standard passes finishes a document: the sites hold what is lowered to itself,
callbacks are declared if they are called, and the version is the one that the settings ask for
(`Finished`). The later steps do not undo what the earlier ones have done.

* `IsStandard.finished_of_steps`: what the steps leave behind is finished;
* `IsStandard.outcome_steps_of_finished`: they leave a finished document as it is;
* `transpile_idempotent`: so transpiling is idempotent, where no expression in a template starts with
  a brace and the stylesheet language has a legal qualifier;
* `transpile_not_idempotent_at_xml_qualifier`: it is not at a qualifier which cannot be bound.
-/

namespace XslLowering.Transpiler

open Stylesheet

/-! ## The version -/

/-- A document that declares a version declares this one. -/
def Versioned (version : String) (root : NodeId) (d : Document) : Prop :=
  ∀ name, versionAttribute? d root = some name → d.attribute? root name = some version

theorem isSelfDescription_of_versionAttribute? {d : Document} {root : NodeId} {name : String}
    (h : versionAttribute? d root = some name) : IsSelfDescription d root name := by
  rw [versionAttribute?] at h
  cases hi : isInstruction d root with
  | true =>
    simp only [hi, ↓reduceIte, Option.some.injEq] at h
    exact .inl ⟨hi, .inr h.symm⟩
  | false =>
    simp only [hi, Bool.false_eq_true, ↓reduceIte] at h
    have hfound := List.find?_some h
    rw [Bool.and_eq_true] at hfound
    exact .inr ⟨hi, hfound.2⟩

/-- The version is not declared where qualifiers are excluded. -/
theorem versionAttribute?_ne_exclusionAttribute? {d : Document} {root : NodeId} {name : String}
    (h : versionAttribute? d root = some name) : exclusionAttribute? d root ≠ some name := by
  intro hx
  rw [versionAttribute?] at h
  rw [exclusionAttribute?] at hx
  cases hi : isInstruction d root with
  | true =>
    simp only [hi, ↓reduceIte, Option.some.injEq] at h hx
    exact absurd (h.trans hx.symm) (by decide)
  | false =>
    simp only [hi, Bool.false_eq_true, ↓reduceIte] at h hx
    have hfound := List.find?_some h
    rw [Bool.and_eq_true] at hfound
    obtain ⟨lead, hlead⟩ := List.isSuffixOf_iff_suffix.1 hfound.1
    obtain ⟨q, -, rfl⟩ := Option.map_eq_some_iff.1 hx
    -- The two names end in different characters.
    have hlast := congrArg List.getLast? hlead
    simp at hlast

/-- There is nothing to set in a document that declares the version. -/
theorem outcome_setVersion_of_versioned {version : String} {root : NodeId} {d : Document}
    (h : Versioned version root d) : (setVersion version root).outcome d = (d, .ok ()) := by
  simp only [setVersion, Edit.outcome_bind, Edit.outcome_get, Edit.andThen_ok]
  cases hv : versionAttribute? d root with
  | none => rfl
  | some name => simp [h name hv]

theorem setVersion_cases {version : String} {root : NodeId} {d d' : Document}
    (he : d.isElement root = true) (h : (setVersion version root).outcome d = (d', .ok ())) :
    Versioned version root d ∧ d' = d ∨
      ∃ name, versionAttribute? d root = some name ∧ d' = d.setAttribute root name version := by
  simp only [setVersion, Edit.outcome_bind, Edit.outcome_get, Edit.andThen_ok] at h
  cases hv : versionAttribute? d root with
  | none =>
    simp only [hv, Edit.outcome_pure] at h
    cases h
    refine .inl ⟨fun name hname => ?_, rfl⟩
    rw [hv] at hname
    cases hname
  | some name =>
    simp only [hv] at h
    split at h
    · simp only [Edit.outcome_bind, Edit.outcome_note, Edit.andThen_ok,
        Document.outcome_assign he] at h
      exact .inr ⟨name, rfl, (congrArg Prod.fst h).symm⟩
    · rename_i hsame
      rw [Edit.outcome_pure] at h
      cases h
      refine .inl ⟨fun name' hname => ?_, rfl⟩
      rw [hv] at hname
      cases hname
      simpa using hsame

section

variable {version : String} {root : NodeId} {d : Document} {name : String}
  (he : d.isElement root = true) (h : versionAttribute? d root = some name)

include he h

theorem undisturbed_setVersion : Undisturbed root d (d.setAttribute root name version) :=
  (isSelfDescription_of_versionAttribute? h).undisturbed he version

/-- The version is still declared by the same attribute. -/
theorem versionAttribute?_setAttribute :
    versionAttribute? (d.setAttribute root name version) root = some name := by
  have hlanguage : SameLanguage d (d.setAttribute root name version) :=
    (undisturbed_setVersion he h).toSameLanguage
  rw [versionAttribute?] at h ⊢
  rw [hlanguage.isInstruction]
  split at h
  · rw [if_pos ‹_›, h]
  · rw [if_neg ‹_›]
    simp only [hlanguage.isXslAttribute]
    rw [Document.attributes_setAttribute he, if_pos rfl, Element.map_name_setIn,
      if_pos (List.mem_of_find?_eq_some h), h]

theorem versioned_setAttribute : Versioned version root (d.setAttribute root name version) := by
  intro name' hname
  rw [versionAttribute?_setAttribute he h] at hname
  cases hname
  rw [Document.attribute?_setAttribute he, if_pos ⟨rfl, rfl⟩]

/-- Callbacks stay declared. -/
theorem declared_setAttribute (hd : Declared d root) :
    Declared (d.setAttribute root name version) root := by
  have hscopes : Document.SameScopes d (d.setAttribute root name version) :=
    Document.sameScopes_setAttribute he (isSelfDescription_of_versionAttribute? h).not_declaration
  refine ⟨by rw [hscopes.lookupNamespace, hd.bound], fun {name'} hx => ?_⟩
  rw [(undisturbed_setVersion he h).exclusionAttribute?] at hx
  have hne : name ≠ name' := fun hname => versionAttribute?_ne_exclusionAttribute? h (hname ▸ hx)
  rw [Document.attribute?_setAttribute he, if_neg fun hk => hne hk.2]
  exact hd.excluded hx

omit h in
/-- A value that is no call brings in no calls. -/
theorem usesCallbacks_setAttribute
    (hcall : Text.containsSeq (callbackQualifier ++ ":call(").toList version.toList = false)
    (hu : usesCallbacks (d.setAttribute root name version) = true) : usesCallbacks d = true := by
  rw [usesCallbacks, (Document.sameTree_setAttribute d root name version).elements] at hu
  rw [usesCallbacks]
  obtain ⟨id, hid, hany⟩ := List.any_eq_true.1 hu
  obtain ⟨a, ha, hcontains⟩ := List.any_eq_true.1 hany
  refine List.any_eq_true.2 ⟨id, hid, List.any_eq_true.2 ?_⟩
  rw [Document.attributes_setAttribute he] at ha
  split at ha
  · rcases Element.mem_setIn ha with ha | rfl
    · exact ⟨a, ha, hcontains⟩
    · rw [hcall] at hcontains
      cases hcontains
  · exact ⟨a, ha, hcontains⟩

end

/-! ## Finished documents -/

/-- A document in which a transpiler has nothing left to do. -/
structure Finished (functions : FunctionMap) (version : String) (root : NodeId) (d : Document) :
    Prop where
  documentElement? : d.documentElement? = some root
  wellFormed : d.WellFormed
  lowered : Lowered functions d
  declared : usesCallbacks d = true → Declared d root
  versioned : Versioned version root d

/-- Setting the version of a document that is finished otherwise. -/
theorem finished_of_setVersion {functions : FunctionMap} {version : String} {root : NodeId}
    {d d' : Document} (hroot : d.documentElement? = some root) (hd : d.WellFormed)
    (hl : Lowered functions d) (hu : usesCallbacks d = true → Declared d root)
    (hcall : Text.containsSeq (callbackQualifier ++ ":call(").toList version.toList = false)
    (h : (setVersion version root).outcome d = (d', .ok ())) :
    Finished functions version root d' := by
  have he : d.isElement root = true := List.find?_some hroot
  rcases setVersion_cases he h with ⟨hv, rfl⟩ | ⟨name, hname, rfl⟩
  · exact ⟨hroot, hd, hl, hu, hv⟩
  · have hundisturbed : Undisturbed root d (d.setAttribute root name version) :=
      undisturbed_setVersion he hname
    exact ⟨hundisturbed.documentElement?.trans hroot, hundisturbed.wellFormed hd, hl.of_sameSites hundisturbed.toSameSites,
      fun hu' => declared_setAttribute he hname (hu (usesCallbacks_setAttribute he hcall hu')),
      versioned_setAttribute he hname⟩

/-- A transpiler with the standard passes. -/
structure IsStandard (t : Transpiler) (functions : FunctionMap) : Prop where
  passes : t.passes = [.lower functions .standard, .declareCallbacks]
  plain : functions.Plain
  /-- What lowering puts in is not lowered. -/
  get? : ∀ name ∈ loweredCallees, functions.get? name = none
  version : Text.containsSeq (callbackQualifier ++ ":call(").toList
    t.settings.targetVersion.toList = false

namespace IsStandard

variable {t : Transpiler} {functions : FunctionMap} (ht : IsStandard t functions)

include ht

theorem outcome_steps_eq_ok {root : NodeId} {d d' : Document} :
    (t.steps root).outcome d = (d', .ok ()) ↔
      ∃ lowered declared, (Walk.standard.run functions).outcome d = (lowered, .ok ()) ∧
        declareCallbacks.outcome lowered = (declared, .ok ()) ∧
        (setVersion t.settings.targetVersion root).outcome declared = (d', .ok ()) := by
  rw [steps, ht.passes, Edit.outcome_bind, Edit.outcome_forM_cons]
  constructor
  · intro h
    obtain ⟨declared, _, h, hversion⟩ := Edit.exists_of_andThen_eq_ok h
    obtain ⟨lowered, _, hwalk, h⟩ := Edit.exists_of_andThen_eq_ok h
    rw [Edit.outcome_forM_cons] at h
    obtain ⟨declared', _, hdeclare, h⟩ := Edit.exists_of_andThen_eq_ok h
    obtain rfl : declared' = declared := congrArg Prod.fst h
    exact ⟨lowered, declared', Edit.outcome_mapError_eq_ok.1 hwalk,
      Edit.outcome_mapError_eq_ok.1 hdeclare, hversion⟩
  · rintro ⟨lowered, declared, hwalk, hdeclare, hversion⟩
    rw [Pass.run, Edit.outcome_mapError_eq_ok.2 hwalk, Edit.andThen_ok, Edit.outcome_forM_cons,
      Pass.run, Edit.outcome_mapError_eq_ok.2 hdeclare]
    exact hversion

/-- A finished document stays as it is. -/
theorem outcome_steps_of_finished {root : NodeId} {d : Document}
    (h : Finished functions t.settings.targetVersion root d) :
    (t.steps root).outcome d = (d, .ok ()) :=
  ht.outcome_steps_eq_ok.2 ⟨d, d, outcome_run_of_lowered h.wellFormed ht.plain h.lowered,
    outcome_declareCallbacks_of_declared h.documentElement? h.declared,
    outcome_setVersion_of_versioned h.versioned⟩

/-- Transpiling a document finishes it. -/
theorem finished_of_steps {root : NodeId} {d d' : Document}
    (hroot : d.documentElement? = some root) (hd : d.WellFormed) (hb : BraceFree d)
    (hl : LegalQualifier d root) (h : (t.steps root).outcome d = (d', .ok ())) :
    Finished functions t.settings.targetVersion root d' := by
  obtain ⟨lowered, declared, hwalk, hdeclare, hversion⟩ := ht.outcome_steps_eq_ok.1 h
  -- The walk lowers the sites.
  rw [outcome_run_standard hd ht.plain] at hwalk
  have hsites := lowered_of_advance (congrArg Prod.snd hwalk)
  obtain rfl : lowered = lowerSites functions d (sites d) := advance_eq_ok hwalk
  have htree : Document.SameTree d (lowerSites functions d (sites d)) :=
    Document.sameTree_mapValues d _
  have hroot' : (lowerSites functions d (sites d)).documentElement? = some root :=
    htree.documentElement?.trans hroot
  have hd' : (lowerSites functions d (sites d)).WellFormed := hd.mapValues _
  -- The other steps leave the sites alone.
  obtain ⟨hundisturbed, hdeclared⟩ :=
    declared_of_declareCallbacks hroot' hd' (hl.lowerSites (distinct_sites hd).1) hdeclare
  have hlowered : Lowered functions declared :=
    (lowered_lowerSites ht.plain ht.get? hd hb hsites).of_sameSites hundisturbed.toSameSites
  exact finished_of_setVersion (hundisturbed.documentElement?.trans hroot')
    (hundisturbed.wellFormed hd') hlowered hdeclared ht.version hversion

end IsStandard

/-! ## The standard transpiler -/

theorem names_builtin : Callback.Registry.builtin.names =
    ["abs", "ends-with", "lower-case", "matches", "replace", "upper-case"] :=
  FunctionMap.names_eq_of_perm (by decide) (by decide)

/-- The built-in callbacks and the grouping functions. -/
def standardFunctions : FunctionMap :=
  ⟨⟨[("abs", .callback "abs"), ("ends-with", .callback "ends-with"),
    ("lower-case", .callback "lower-case"), ("matches", .callback "matches"),
    ("replace", .callback "replace"), ("upper-case", .callback "upper-case"),
    ("current-group", .currentGroup), ("current-grouping-key", .currentGroupingKey)]⟩⟩

theorem builtFrom_standardFunctions : standardFunctions.BuiltFrom .builtin := by
  rw [FunctionMap.BuiltFrom, names_builtin]
  rfl

/-- The transpiler with standard settings. -/
def standard : Transpiler :=
  ⟨.standard, standardFunctions, .builtin, standardPasses .standard standardFunctions, false⟩

theorem result_build_standard {ε : Type} :
    (Builder.standard.build : Attempt ε Transpiler).result = .ok standard := by
  have hfunctions : (Builder.standard.functionMap : Attempt ε FunctionMap).result =
      .ok standardFunctions := by
    rw [Builder.functionMap, show Builder.standard.callbacks.names = _ from names_builtin]
    rfl
  rw [Builder.build, Attempt.result_bind, hfunctions]
  rfl

theorem isStandard_standard : IsStandard standard standardFunctions :=
  ⟨rfl, builtFrom_standardFunctions.plain, by decide, by decide⟩

/-- Lowering a document is going through the steps. -/
theorem outcome_transpile_eq_ok {t : Transpiler} {root : NodeId} {d d' : Document}
    (hroot : d.documentElement? = some root) :
    t.transpile.outcome d = (d', .ok ()) ↔ (t.steps root).outcome d = (d', .ok ()) := by
  simp only [transpile, Edit.outcome_bind, Edit.outcome_get, Edit.andThen_ok, hroot,
    Edit.outcome_ofAttempt]
  have hexec : ((t.steps root).exec d).result =
      ((t.steps root).outcome d).2.map fun _ => ((t.steps root).outcome d).1 := rfl
  rw [hexec]
  obtain ⟨lowered, result⟩ := (t.steps root).outcome d
  cases result <;> simp [Except.map]

/-- Transpiling is idempotent: what has been transpiled stays as it is. This takes that no expression
in a template starts with a brace, and that the stylesheet language has a legal qualifier. -/
theorem transpile_idempotent {ε : Type} {t : Transpiler}
    (ht : (Builder.standard.build : Attempt ε Transpiler).result = .ok t) {source : String}
    {d d' : Document} (hd : (Document.parse source).result = .ok d) (hb : BraceFree d)
    (hl : ∀ root ∈ d.documentElement?, LegalQualifier d root)
    (h : t.transpile.outcome d = (d', .ok ())) : t.transpile.outcome d' = (d', .ok ()) := by
  obtain rfl : standard = t := Except.ok.inj (result_build_standard.symm.trans ht)
  cases hroot : d.documentElement? with
  | none =>
    have hsame : standard.transpile.outcome d = (d, .ok ()) := by
      simp [transpile, hroot]
    rw [hsame] at h
    cases h
    exact hsame
  | some root =>
    have hfinished := isStandard_standard.finished_of_steps hroot (Document.wellFormed_of_parse hd) hb
      (hl root hroot) ((outcome_transpile_eq_ok hroot).1 h)
    exact (outcome_transpile_eq_ok hfinished.documentElement?).2
      (isStandard_standard.outcome_steps_of_finished hfinished)

set_option maxRecDepth 4000 in
/-- A literal element that calls a callback and says the version of its stylesheet. -/
theorem transpile_idempotent_literal_element :
    ∃ t d d', (Builder.standard.build : Attempt Error Transpiler).result = .ok t ∧
      (Document.parse ("<r xmlns:x='http://www.w3.org/1999/XSL/Transform' x:version='2.0' " ++
        "t='a\x7bupper-case(.)\x7d'/>")).result = .ok d ∧
      BraceFree d ∧ (∀ root ∈ d.documentElement?, LegalQualifier d root) ∧
      t.transpile.outcome d = (d', .ok ()) ∧
      d'.attributes 1 = [⟨"xmlns:x", xslNamespace⟩, ⟨"x:version", "1.0"⟩,
        ⟨"t", "\x7bconcat('a', ext:call('upper-case',.))\x7d"⟩, ⟨"xmlns:ext", callbackNamespace⟩,
        ⟨"x:exclude-result-prefixes", "ext"⟩] ∧
      t.transpile.outcome d' = (d', .ok ()) := by
  have hd : (Document.parse ("<r xmlns:x='http://www.w3.org/1999/XSL/Transform' x:version='2.0' " ++
        "t='a\x7bupper-case(.)\x7d'/>")).result =
      .ok ⟨#[⟨.document, none, [1]⟩, ⟨.element ⟨"r", [⟨"xmlns:x", xslNamespace⟩,
        ⟨"x:version", "2.0"⟩, ⟨"t", "a\x7bupper-case(.)\x7d"⟩]⟩, some 0, []⟩], none⟩ := by decide +kernel
  have ht : (Builder.standard.build : Attempt Error Transpiler).result = .ok standard :=
    result_build_standard
  refine ⟨_, _, _, ht, hd, ?braces, ?qualifier, Prod.ext rfl ?first, ?attributes,
    transpile_idempotent ht hd ?braces ?qualifier (Prod.ext rfl ?first)⟩
  all_goals decide +kernel

set_option maxRecDepth 4000 in
/-- A qualifier that always stands for another namespace. The list of qualifiers on the element holds
a template then, and a second run lowers what the first one has added to it. -/
theorem transpile_not_idempotent_at_xml_qualifier :
    ∃ t d d', (Builder.standard.build : Attempt Error Transpiler).result = .ok t ∧
      (Document.parse ("<r xmlns:xml='http://www.w3.org/1999/XSL/Transform' " ++
        "xml:exclude-result-prefixes='\x7b$x\x7d' t='\x7bupper-case(.)\x7d'/>")).result = .ok d ∧
      BraceFree d ∧ t.transpile.outcome d = (d', .ok ()) ∧
      t.transpile.outcome d' ≠ (d', .ok ()) := by
  have hd : (Document.parse ("<r xmlns:xml='http://www.w3.org/1999/XSL/Transform' " ++
        "xml:exclude-result-prefixes='\x7b$x\x7d' t='\x7bupper-case(.)\x7d'/>")).result =
      .ok ⟨#[⟨.document, none, [1]⟩, ⟨.element ⟨"r", [⟨"xmlns:xml", xslNamespace⟩,
        ⟨"xml:exclude-result-prefixes", "\x7b$x\x7d"⟩, ⟨"t", "\x7bupper-case(.)\x7d"⟩]⟩,
        some 0, []⟩], none⟩ := by decide +kernel
  refine ⟨_, _, _, result_build_standard, hd, ?_, Prod.ext rfl ?_, ?_⟩
  all_goals decide +kernel

end XslLowering.Transpiler
