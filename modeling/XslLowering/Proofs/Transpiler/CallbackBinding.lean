import XslLowering.Proofs.Stylesheet.CallbackCalls
import XslLowering.Proofs.Transpiler.Idempotence

/-!
# What the qualifier of callbacks stands for

The qualifier of callbacks is bound on the outermost element. An element further in may declare it
again, and this is not looked at: calls there are calls of something else.

* `SameBindings`: the qualifier is declared alike in two documents, as before and after a walk
  (`sameBindings_of_walk`);
* `BindsOnlyAt`: it is declared alike below the outermost element, and what that binds to callbacks
  stays so; this is what all steps do (`Pass.bindsOnlyAt_of_run`, `bindsOnlyAt_of_steps`);
* `SeesRoot`: the elements at which the qualifier stands for what it stands for on the outermost one;
* `callbacks_resolve_iff_not_rebound`: at which elements the qualifier stands for callbacks after
  transpiling, and that the outermost one is among them if a callback is called;
* `callback_resolves_elsewhere`: a call at which it does not.
-/

namespace XslLowering.Stylesheet

open Document (declarationName)

/-! ## Declarations of the qualifier -/

/-- The attribute that declares the qualifier of callbacks. -/
def bindingName : String := declarationName (some callbackQualifier)

/-- The same tree, in which the same elements declare the qualifier of callbacks alike. -/
structure SameBindings (d d' : Document) : Prop extends Document.SameTree d d' where
  binding (id : NodeId) : d'.attribute? id bindingName = d.attribute? id bindingName

namespace SameBindings

variable {d d' d'' : Document}

theorem refl (d : Document) : SameBindings d d := ⟨.refl d, fun _ => rfl⟩

theorem trans (h : SameBindings d d') (h' : SameBindings d' d'') : SameBindings d d'' :=
  ⟨h.toSameTree.trans h'.toSameTree, fun id => (h'.binding id).trans (h.binding id)⟩

theorem lookupNamespace (h : SameBindings d d') (id : NodeId) :
    d'.lookupNamespace id (some callbackQualifier) =
      d.lookupNamespace id (some callbackQualifier) :=
  h.lookupNamespace_congr h.binding id

end SameBindings

theorem sameBindings_setAttribute {d : Document} {id : NodeId} {name : String}
    (he : d.isElement id = true) (hn : name ≠ bindingName) (value : String) :
    SameBindings d (d.setAttribute id name value) := by
  refine ⟨Document.sameTree_setAttribute d id name value, fun x => ?_⟩
  rw [Document.attribute?_setAttribute he, if_neg fun hx => hn hx.2]

/-! ## Passes -/

variable {functions : FunctionMap}

/-- Lowering an attribute leaves the others alone. -/
theorem sameBindings_of_lower {s : Site} (hn : s.name ≠ bindingName) {d d' : Document}
    (h : (s.lower functions).outcome d = (d', .ok ())) : SameBindings d d' := by
  cases ha : d.attribute? s.node s.name with
  | none =>
    have hsame : (s.lower functions).outcome d = (d, .ok ()) := by
      obtain ⟨node, name, kind⟩ := s
      cases kind with
      | expression => simp [Site.lower, lowerExpression, show d.attribute? node name = none from ha]
      | template => simp [Site.lower, lowerTemplate, show d.attribute? node name = none from ha]
    rw [hsame] at h
    cases h
    exact .refl d
  | some value =>
    obtain ⟨v, -, ⟨-, rfl⟩ | rfl⟩ := Site.lower_eq_ok ha h
    · exact .refl d'
    · exact sameBindings_setAttribute (Document.isElement_of_attribute? ha) hn v

/-- No namespace declaration holds a template. -/
theorem ne_bindingName_of_holdsTemplate {d : Document} {id : NodeId} {name : String}
    (h : holdsTemplate d id name = true) : name ≠ bindingName := by
  rintro rfl
  rw [holdsTemplate, if_pos (by decide)] at h
  cases h

theorem sameBindings_of_visitTemplate {id : NodeId} {name : String} {times : Nat}
    {d d' : Document}
    (h : (Walk.visitTemplate functions id name times).outcome d = (d', .ok ())) :
    SameBindings d d' := by
  induction times generalizing d with
  | zero =>
    cases h
    exact .refl d
  | succ times ih =>
    rw [Walk.visitTemplate, Edit.outcome_bind, outcome_runIf] at h
    obtain ⟨d₁, _, hfirst, h⟩ := Edit.exists_of_andThen_eq_ok h
    refine SameBindings.trans ?_ (ih h)
    split at hfirst
    · rename_i hholds
      exact sameBindings_of_lower (s := ⟨id, name, .template⟩)
        (ne_bindingName_of_holdsTemplate hholds) hfirst
    · cases hfirst
      exact .refl d

/-- A walk does not change the declarations of the qualifier, unless they are taken for
expressions. -/
theorem sameBindings_of_walk {w : Walk} (hw : bindingName ∉ w.expressions) {d d' : Document}
    (h : (w.run functions).outcome d = (d', .ok ())) : SameBindings d d' := by
  have hvisit (id : NodeId) {d₁ d₂ : Document}
      (h : (w.visit functions id).outcome d₁ = (d₂, .ok ())) : SameBindings d₁ d₂ := by
    rw [Walk.visit, Edit.outcome_bind] at h
    obtain ⟨d₃, _, hexpressions, h⟩ := Edit.exists_of_andThen_eq_ok h
    rw [Edit.outcome_bind, Edit.outcome_get, Edit.andThen_ok] at h
    have h₃ : SameBindings d₁ d₃ := by
      refine Edit.invariant_forM (fun name hname x y hx hl => hx.trans ?_) (.refl d₁) hexpressions
      rw [outcome_runIf] at hl
      split at hl
      · exact sameBindings_of_lower (s := ⟨id, name, .expression⟩)
          (fun hn : name = bindingName => hw (hn ▸ hname)) hl
      · cases hl
        exact .refl x
    exact Edit.invariant_forM (fun a _ x y hx hl => hx.trans (sameBindings_of_visitTemplate hl)) h₃ h
  simp only [Walk.run, Edit.outcome_bind, Edit.outcome_get, Edit.andThen_ok,
    Edit.outcome_note] at h
  exact Edit.invariant_forM (fun id _ x y hx hl => hx.trans (hvisit id hl)) (.refl d) h

theorem ne_bindingName_of_exclusionAttribute? {d : Document} {root : NodeId} {name : String}
    (h : exclusionAttribute? d root = some name) : name ≠ bindingName := by
  -- The two names end in different characters.
  rintro rfl
  rw [exclusionAttribute?] at h
  split at h
  · exact absurd (Option.some.inj h) (by decide)
  · obtain ⟨q, -, hq⟩ := Option.map_eq_some_iff.1 h
    have hlast := congrArg (fun name : String => name.toList.getLast?) hq
    simp [bindingName, declarationName, callbackQualifier] at hlast

theorem sameBindings_of_exclude {root : NodeId} {d d' : Document} (he : d.isElement root = true)
    (h : (exclude root).outcome d = (d', .ok ())) : SameBindings d d' := by
  simp only [exclude, Edit.outcome_bind, Edit.outcome_get, Edit.andThen_ok] at h
  split at h
  · cases h
    exact .refl d
  · rename_i name hx
    split at h
    · rw [Document.outcome_assign he] at h
      cases h
      exact sameBindings_setAttribute he (ne_bindingName_of_exclusionAttribute? hx) _
    · cases h
      exact .refl d

/-! ## Binding the qualifier on the outermost element -/

/-- The qualifier of callbacks is declared alike on all elements but `root`. If it stands for callbacks
there, it goes on to do so. -/
structure BindsOnlyAt (root : NodeId) (d d' : Document) : Prop extends Document.SameTree d d' where
  binding {id : NodeId} : id ≠ root → d'.attribute? id bindingName = d.attribute? id bindingName
  bound : d.lookupNamespace root (some callbackQualifier) = some callbackNamespace →
    d'.lookupNamespace root (some callbackQualifier) = some callbackNamespace

theorem BindsOnlyAt.trans {root : NodeId} {d d' d'' : Document} (h : BindsOnlyAt root d d')
    (h' : BindsOnlyAt root d' d'') : BindsOnlyAt root d d'' :=
  ⟨h.toSameTree.trans h'.toSameTree, fun hne => (h'.binding hne).trans (h.binding hne),
    h'.bound ∘ h.bound⟩

theorem SameBindings.bindsOnlyAt {d d' : Document} (h : SameBindings d d') (root : NodeId) :
    BindsOnlyAt root d d' :=
  ⟨h.toSameTree, fun {id} _ => h.binding id, (h.lookupNamespace root).trans⟩

/-- Callbacks are declared on the outermost element only, and there they are if they are called. -/
theorem bindsOnlyAt_of_declareCallbacks {root : NodeId} {d d' : Document}
    (hroot : d.documentElement? = some root) (h : declareCallbacks.outcome d = (d', .ok ())) :
    BindsOnlyAt root d d' ∧ (usesCallbacks d = true →
      d'.lookupNamespace root (some callbackQualifier) = some callbackNamespace) := by
  have he : d.isElement root = true := List.find?_some hroot
  rw [outcome_declareCallbacks hroot] at h
  split at h
  · obtain ⟨d₁, _, hbind, hexclude⟩ := Edit.exists_of_andThen_eq_ok h
    have h₁ : BindsOnlyAt root d d₁ ∧
        d₁.lookupNamespace root (some callbackQualifier) = some callbackNamespace := by
      rcases bindCallbacks_cases he hbind with ⟨hbound, rfl⟩ | ⟨-, rfl⟩
      · exact ⟨(SameBindings.refl d₁).bindsOnlyAt root, hbound⟩
      · have hself := Document.lookupNamespace_setAttribute_self he
          (show callbackQualifier ≠ "xml" by decide) (show callbackNamespace.isEmpty = false by decide)
        refine ⟨⟨Document.sameTree_setAttribute .., fun {id} hne => ?_, fun _ => hself⟩, hself⟩
        rw [Document.attribute?_setAttribute he, if_neg fun hx => hne hx.1.symm]
    have he₁ : d₁.isElement root = true := by
      rw [h₁.1.isElement, he]
    have hlast := (sameBindings_of_exclude he₁ hexclude).bindsOnlyAt root
    exact ⟨h₁.1.trans hlast, fun _ => hlast.bound h₁.2⟩
  · rename_i hu
    cases h
    exact ⟨(SameBindings.refl d).bindsOnlyAt root, fun hu' => absurd hu' hu⟩

/-- A pass that does not declare the qualifier of callbacks in its own way. -/
def Pass.KeepsBindings : Pass → Prop
  | .lower _ walk => bindingName ∉ walk.expressions
  | .declareCallbacks => True
  | .custom edit => ∀ d d', edit.outcome d = (d', .ok ()) → SameBindings d d'

theorem Pass.bindsOnlyAt_of_run {p : Pass} (hp : p.KeepsBindings) {root : NodeId}
    {d d' : Document} (hroot : d.documentElement? = some root)
    (h : p.run.outcome d = (d', .ok ())) : BindsOnlyAt root d d' := by
  cases p with
  | lower functions walk => exact (sameBindings_of_walk hp h).bindsOnlyAt root
  | declareCallbacks => exact (bindsOnlyAt_of_declareCallbacks hroot h).1
  | custom edit =>
    have hsame : SameBindings d d' := hp d d' h
    exact hsame.bindsOnlyAt root

/-! ## Elements that see the outermost one -/

/-- What the nearest declaration of the qualifier says that is on the way from `id` to `root`, but
not on `root` itself. -/
def nearestBelow? (d : Document) (root id : NodeId) : Option String :=
  ((id :: d.ancestors id).takeWhile (· ≠ root)).findSome? (d.attribute? · bindingName)

/-- The element `root` is around `id`, and the qualifier is not declared on the way there. -/
def SeesRoot (d : Document) (root id : NodeId) : Prop :=
  nearestBelow? d root id = none ∧ root ∈ id :: d.ancestors id

instance (d : Document) (root id : NodeId) : Decidable (SeesRoot d root id) :=
  inferInstanceAs (Decidable (nearestBelow? d root id = none ∧ root ∈ id :: d.ancestors id))

section

variable {d : Document} {root id : NodeId}

theorem nearestBelow?_self : nearestBelow? d root root = none := by
  simp [nearestBelow?]

theorem seesRoot_self : SeesRoot d root root := ⟨nearestBelow?_self, List.mem_cons_self⟩

theorem nearestBelow?_of_declared (hne : id ≠ root) {uri : String}
    (ha : d.attribute? id bindingName = some uri) : nearestBelow? d root id = some uri := by
  simp [nearestBelow?, hne, ha]

variable (hne : id ≠ root) (ha : d.attribute? id bindingName = none)

include hne ha

theorem nearestBelow?_of_parent {p : NodeId} (hp : d.parent? id = some p) (hlt : p < id) :
    nearestBelow? d root id = nearestBelow? d root p := by
  simp [nearestBelow?, hne, ha, Document.ancestors_eq_cons hp hlt]

theorem seesRoot_of_parent {p : NodeId} (hp : d.parent? id = some p) (hlt : p < id) :
    SeesRoot d root id ↔ SeesRoot d root p := by
  rw [SeesRoot, SeesRoot, nearestBelow?_of_parent hne ha hp hlt,
    Document.ancestors_eq_cons hp hlt, List.mem_cons (b := id)]
  simp [Ne.symm hne]

theorem nearestBelow?_of_top (htop : d.ancestors id = []) : nearestBelow? d root id = none := by
  simp [nearestBelow?, hne, ha, htop]

omit ha in
theorem not_seesRoot_of_top (htop : d.ancestors id = []) : ¬ SeesRoot d root id := by
  simp [SeesRoot, htop, Ne.symm hne]

end

/-- The qualifier stands for callbacks where it is declared so below the outermost element, and where
that is seen if it does so there. -/
theorem BindsOnlyAt.lookupNamespace_eq_iff {root : NodeId} {d d' : Document}
    (h : BindsOnlyAt root d d') (id : NodeId) :
    d'.lookupNamespace id (some callbackQualifier) = some callbackNamespace ↔
      nearestBelow? d root id = some callbackNamespace ∨ SeesRoot d root id ∧
        d'.lookupNamespace root (some callbackQualifier) = some callbackNamespace := by
  -- By induction on the way up from `id`, which gets to smaller numbers.
  induction id using Nat.strongRecOn with
  | ind id ih =>
  by_cases hne : id = root
  · subst hne
    simp [nearestBelow?_self, seesRoot_self]
  · have hbinding : d'.attribute? id (declarationName (some callbackQualifier)) =
        d.attribute? id bindingName := h.binding hne
    rw [Document.lookupNamespace_eq (by decide), hbinding, h.parent?]
    cases ha : d.attribute? id bindingName with
    | some uri =>
      have hnearest := nearestBelow?_of_declared hne ha
      show (some uri).filter (fun uri => !uri.isEmpty) = some callbackNamespace ↔ _
      rw [Option.filter_eq_some_iff, SeesRoot, hnearest, Option.some.injEq]
      simp only [reduceCtorEq, false_and, or_false]
      refine ⟨And.left, fun huri => ⟨huri, ?_⟩⟩
      decide
    | none =>
      have htop (hancestors : d.ancestors id = []) :
          ¬ (nearestBelow? d root id = some callbackNamespace ∨ SeesRoot d root id ∧
            d'.lookupNamespace root (some callbackQualifier) = some callbackNamespace) := by
        rw [nearestBelow?_of_top hne ha hancestors]
        simp [not_seesRoot_of_top hne hancestors]
      cases hp : d.parent? id with
      | none =>
        have hancestors : d.ancestors id = [] := by
          rw [Document.ancestors, hp]
        simpa using htop hancestors
      | some p =>
        by_cases hlt : p < id
        · simp only [hlt, ↓reduceIte]
          rw [ih p hlt, nearestBelow?_of_parent hne ha hp hlt, seesRoot_of_parent hne ha hp hlt]
        · have hancestors : d.ancestors id = [] := by
            rw [Document.ancestors, hp]
            simp [hlt]
          simpa [hlt] using htop hancestors

/-- Callbacks that are called cannot be declared where their qualifier stands for something else. -/
theorem declareCallbacks_of_conflict {root : NodeId} {d : Document}
    (hroot : d.documentElement? = some root) (hu : usesCallbacks d = true) {other : String}
    (hother : d.lookupNamespace root (some callbackQualifier) = some other)
    (hne : other ≠ callbackNamespace) :
    declareCallbacks.outcome d = (d, .error (.namespaceConflict callbackQualifier other)) := by
  have hbind : (bindCallbacks root).outcome d =
      (d, .error (.namespaceConflict callbackQualifier other)) := by
    simp [bindCallbacks, hother, hne]
  rw [outcome_declareCallbacks hroot, if_pos hu, hbind, Edit.andThen_error]

end XslLowering.Stylesheet

namespace XslLowering.Transpiler

open Stylesheet

/-! ## Transpiling -/

theorem sameBindings_of_setVersion {version : String} {root : NodeId} {d d' : Document}
    (he : d.isElement root = true) (h : (setVersion version root).outcome d = (d', .ok ())) :
    SameBindings d d' := by
  rcases setVersion_cases he h with ⟨-, rfl⟩ | ⟨name, hname, rfl⟩
  · exact .refl d'
  · refine sameBindings_setAttribute he (fun hn => ?_) version
    have hdeclaration := (isSelfDescription_of_versionAttribute? hname).not_declaration
    rw [hn] at hdeclaration
    exact absurd hdeclaration (by decide)

/-- The passes of a transpiler that has callbacks. -/
theorem passes_of_build {ε : Type} {b : Builder} (hb : b.settings.nativeCallbacks = true)
    {t : Transpiler} (ht : (b.build : Attempt ε Transpiler).result = .ok t) :
    t.passes = .lower t.functions .standard :: .declareCallbacks :: b.passes := by
  obtain ⟨functions, -, ht⟩ := Attempt.exists_of_result_bind ht
  obtain ⟨_, -, ht⟩ := Attempt.exists_of_result_bind ht
  cases ht
  simp [standardPasses, hb]

section

variable {t : Transpiler} {added : List Pass}
  (hp : t.passes = .lower t.functions .standard :: .declareCallbacks :: added) {root : NodeId}
  {d : Document}

include hp

theorem exists_of_steps {d' : Document} (h : (t.steps root).outcome d = (d', .ok ())) :
    ∃ lowered declared last,
      (Walk.standard.run t.functions).outcome d = (lowered, .ok ()) ∧
      declareCallbacks.outcome lowered = (declared, .ok ()) ∧
      (added.forM fun pass => pass.run.mapError Error.stylesheet).outcome declared =
        (last, .ok ()) ∧
      (setVersion t.settings.targetVersion root).outcome last = (d', .ok ()) := by
  rw [steps, hp, Edit.outcome_bind, Edit.outcome_forM_cons] at h
  obtain ⟨last, _, h, hversion⟩ := Edit.exists_of_andThen_eq_ok h
  obtain ⟨lowered, _, hwalk, h⟩ := Edit.exists_of_andThen_eq_ok h
  rw [Edit.outcome_forM_cons] at h
  obtain ⟨declared, _, hdeclare, hadded⟩ := Edit.exists_of_andThen_eq_ok h
  exact ⟨lowered, declared, last, Edit.outcome_mapError_eq_ok.1 hwalk,
    Edit.outcome_mapError_eq_ok.1 hdeclare, hadded, hversion⟩

/-- The steps end where callbacks cannot be declared. -/
theorem outcome_steps_of_conflict {lowered : Document} {e : Stylesheet.Error}
    (hwalk : (Walk.standard.run t.functions).outcome d = (lowered, .ok ()))
    (hdeclare : declareCallbacks.outcome lowered = (lowered, .error e)) :
    (t.steps root).outcome d = (lowered, .error (.stylesheet e)) := by
  have hdeclare' : (Pass.declareCallbacks.run.mapError Error.stylesheet).outcome lowered =
      (lowered, .error (.stylesheet e)) := by
    have hmap : (Pass.declareCallbacks.run.mapError Error.stylesheet).outcome lowered =
        ((declareCallbacks.outcome lowered).1,
          (declareCallbacks.outcome lowered).2.mapError Error.stylesheet) := rfl
    rw [hmap, hdeclare, mapError_error]
  rw [steps, hp, Edit.outcome_bind, Edit.outcome_forM_cons, Pass.run,
    Edit.outcome_mapError_eq_ok.2 hwalk, Edit.andThen_ok, Edit.outcome_forM_cons, hdeclare',
    Edit.andThen_error, Edit.andThen_error]

/-- The steps declare the qualifier of callbacks on the outermost element only, and there they do if
the walk puts a call of a callback into an attribute. -/
theorem bindsOnlyAt_of_steps (hadded : ∀ p ∈ added, p.KeepsBindings)
    (hroot : d.documentElement? = some root) (hd : d.WellFormed) {d' : Document}
    (h : (t.steps root).outcome d = (d', .ok ())) :
    BindsOnlyAt root d d' ∧ ∀ s, Emits t.functions d s →
      d'.lookupNamespace root (some callbackQualifier) = some callbackNamespace := by
  obtain ⟨lowered, declared, last, hwalk, hdeclare, hloop, hversion⟩ := exists_of_steps hp h
  have hlowered : BindsOnlyAt root d lowered :=
    (sameBindings_of_walk (by decide) hwalk).bindsOnlyAt root
  have hroot₁ : lowered.documentElement? = some root := hlowered.documentElement?.trans hroot
  obtain ⟨hdeclared, hcalled⟩ := bindsOnlyAt_of_declareCallbacks hroot₁ hdeclare
  have hroot₂ : declared.documentElement? = some root := hdeclared.documentElement?.trans hroot₁
  -- What comes after the declaration of callbacks.
  have hlast : BindsOnlyAt root declared last := by
    refine Edit.invariant_forM (fun p hm x y hx hl => ?_)
      ((SameBindings.refl declared).bindsOnlyAt root) hloop
    have hrun : p.run.outcome x = (y, .ok ()) := Edit.outcome_mapError_eq_ok.1 hl
    exact hx.trans (Pass.bindsOnlyAt_of_run (hadded p hm) (hx.documentElement?.trans hroot₂) hrun)
  have he : last.isElement root = true := by
    rw [hlast.isElement]
    exact List.find?_some hroot₂
  have hafter : BindsOnlyAt root declared d' :=
    hlast.trans ((sameBindings_of_setVersion he hversion).bindsOnlyAt root)
  exact ⟨hlowered.trans (hdeclared.trans hafter), fun s hs =>
    hafter.bound (hcalled (usesCallbacks_of_emits hd hs hwalk))⟩

end

/-- A failure of the steps leaves the document as it was. -/
theorem outcome_transpile_of_error {t : Transpiler} {root : NodeId} {d last : Document}
    {e : Error} (hroot : d.documentElement? = some root)
    (h : (t.steps root).outcome d = (last, .error e)) : t.transpile.outcome d = (d, .error e) := by
  have hexec : ((t.steps root).exec d).result =
      ((t.steps root).outcome d).2.map fun _ => ((t.steps root).outcome d).1 := rfl
  simp only [transpile, Edit.outcome_bind, Edit.outcome_get, Edit.andThen_ok, hroot,
    Edit.outcome_ofAttempt, hexec, h]
  rfl

/-- After transpiling, the qualifier of callbacks stands for them at exactly those elements that see a
declaration for callbacks before any other one of the qualifier, be it on the outermost element or
below. If a callback is called, the outermost element has such a declaration; transpiling fails if
the qualifier stands for something else there. -/
theorem callbacks_resolve_iff_not_rebound {ε : Type} {b : Builder}
    (hb : b.settings.nativeCallbacks = true) (hadded : ∀ p ∈ b.passes, p.KeepsBindings)
    {t : Transpiler} (ht : (b.build : Attempt ε Transpiler).result = .ok t) {source : String}
    {d : Document} (hd : (Document.parse source).result = .ok d) {root : NodeId}
    (hroot : d.documentElement? = some root) :
    (∀ d', t.transpile.outcome d = (d', .ok ()) →
      (∀ s, Emits t.functions d s →
        d'.lookupNamespace root (some callbackQualifier) = some callbackNamespace) ∧
      ∀ id, d'.lookupNamespace id (some callbackQualifier) = some callbackNamespace ↔
        nearestBelow? d root id = some callbackNamespace ∨ SeesRoot d root id ∧
          d'.lookupNamespace root (some callbackQualifier) = some callbackNamespace) ∧
    ∀ s lowered other, Emits t.functions d s →
      (Walk.standard.run t.functions).outcome d = (lowered, .ok ()) →
      d.lookupNamespace root (some callbackQualifier) = some other → other ≠ callbackNamespace →
      t.transpile.outcome d =
        (d, .error (.stylesheet (.namespaceConflict callbackQualifier other))) := by
  have hwf := Document.wellFormed_of_parse hd
  have hp := passes_of_build hb ht
  refine ⟨fun d' h => ?_, fun s lowered other hs hwalk hother hne => ?_⟩
  · obtain ⟨hbinds, hcalled⟩ :=
      bindsOnlyAt_of_steps hp hadded hroot hwf ((outcome_transpile_eq_ok hroot).1 h)
    exact ⟨hcalled, hbinds.lookupNamespace_eq_iff⟩
  · have hlowered : SameBindings d lowered := sameBindings_of_walk (by decide) hwalk
    have hdeclare := declareCallbacks_of_conflict (hlowered.documentElement?.trans hroot)
      (usesCallbacks_of_emits hwf hs hwalk) ((hlowered.lookupNamespace root).trans hother) hne
    exact outcome_transpile_of_error hroot (outcome_steps_of_conflict hp hwalk hdeclare)

theorem callsBackIn_upperCase (place : Expression.Place) :
    CallsBackIn standardFunctions place "upper-case(.)" :=
  ⟨[⟨.name, "upper-case", some 0, false⟩, ⟨.leftParen, "(", some 10, false⟩,
    ⟨.dot, ".", some 11, false⟩, ⟨.rightParen, ")", some 12, false⟩], by decide +kernel,
    CallsBack.here (show standardFunctions.callAt? _ = some (.callback "upper-case") from rfl)⟩

/-- A stylesheet in which the qualifier is bound to something else, and further in to callbacks. -/
def boundTwice : Document :=
  ⟨#[⟨.document, none, [1]⟩,
    ⟨.element ⟨"x:stylesheet", [⟨"xmlns:x", xslNamespace⟩]⟩, some 0, [2, 4]⟩,
    ⟨.element ⟨"a", [⟨"xmlns:ext", "urn:else"⟩]⟩, some 1, [3]⟩,
    ⟨.element ⟨"b", [⟨"xmlns:ext", callbackNamespace⟩, ⟨"t", "\x7bupper-case(.)\x7d"⟩]⟩, some 2, []⟩,
    ⟨.element ⟨"c", []⟩, some 1, []⟩], none⟩

/-- A call on an outermost element that binds the qualifier to something else. -/
def boundElsewhere : Document :=
  ⟨#[⟨.document, none, [1]⟩, ⟨.element ⟨"x:if", [⟨"xmlns:x", xslNamespace⟩,
    ⟨"xmlns:ext", "urn:else"⟩, ⟨"test", "upper-case(.)"⟩]⟩, some 0, []⟩], none⟩

set_option maxRecDepth 4000 in
/-- The qualifier stands for callbacks next to an element that binds it to something else, and further
in again. Bound to something else on the outermost element, it is refused. -/
theorem callbacks_resolve_around_rebinding :
    ∃ t, (Builder.standard.build : Attempt Error Transpiler).result = .ok t ∧
      (Document.parse ("<x:stylesheet xmlns:x='http://www.w3.org/1999/XSL/Transform'>" ++
        "<a xmlns:ext='urn:else'><b xmlns:ext='urn:downlevel:callback' t='\x7bupper-case(.)\x7d'/>" ++
        "</a><c/></x:stylesheet>")).result = .ok boundTwice ∧
      Emits t.functions boundTwice ⟨3, "t", .template⟩ ∧
      (∃ d', t.transpile.outcome boundTwice = (d', .ok ()) ∧
        d'.lookupNamespace 1 (some callbackQualifier) = some callbackNamespace ∧
        d'.lookupNamespace 2 (some callbackQualifier) ≠ some callbackNamespace ∧
        d'.lookupNamespace 3 (some callbackQualifier) = some callbackNamespace ∧
        d'.lookupNamespace 4 (some callbackQualifier) = some callbackNamespace) ∧
      (Document.parse ("<x:if xmlns:x='http://www.w3.org/1999/XSL/Transform' " ++
        "xmlns:ext='urn:else' test='upper-case(.)'/>")).result = .ok boundElsewhere ∧
      Emits t.functions boundElsewhere ⟨1, "test", .expression⟩ ∧
      t.transpile.outcome boundElsewhere =
        (boundElsewhere, .error (.stylesheet (.namespaceConflict "ext" "urn:else"))) := by
  have ht : (Builder.standard.build : Attempt Error Transpiler).result = .ok standard :=
    result_build_standard
  have hadded : ∀ p ∈ Builder.standard.passes, p.KeepsBindings := by
    intro p hp
    cases hp
  have hd : (Document.parse ("<x:stylesheet xmlns:x='http://www.w3.org/1999/XSL/Transform'>" ++
      "<a xmlns:ext='urn:else'><b xmlns:ext='urn:downlevel:callback' t='\x7bupper-case(.)\x7d'/>" ++
      "</a><c/></x:stylesheet>")).result = .ok boundTwice := by decide +kernel
  have hroot : boundTwice.documentElement? = some 1 := by decide +kernel
  have hemits : Emits standard.functions boundTwice ⟨3, "t", .template⟩ :=
    ⟨[], [], boundTwice, by decide +kernel, rfl, "\x7bupper-case(.)\x7d", by decide +kernel,
      "upper-case(.)", by decide +kernel, callsBackIn_upperCase _⟩
  have hd₂ : (Document.parse ("<x:if xmlns:x='http://www.w3.org/1999/XSL/Transform' " ++
      "xmlns:ext='urn:else' test='upper-case(.)'/>")).result = .ok boundElsewhere := by decide +kernel
  have hroot₂ : boundElsewhere.documentElement? = some 1 := by decide +kernel
  have hemits₂ : Emits standard.functions boundElsewhere ⟨1, "test", .expression⟩ :=
    ⟨[], [], boundElsewhere, by decide +kernel, rfl, "upper-case(.)", by decide +kernel,
      "upper-case(.)", by decide +kernel, callsBackIn_upperCase _⟩
  have hok : standard.transpile.outcome boundTwice =
      ((standard.transpile.outcome boundTwice).1, .ok ()) := Prod.ext rfl (by decide +kernel)
  obtain ⟨hbound, hresolve⟩ := (callbacks_resolve_iff_not_rebound rfl hadded ht hd hroot).1 _ hok
  refine ⟨standard, ht, hd, hemits, ⟨_, hok, hbound _ hemits, ?_, ?_, ?_⟩, hd₂, hemits₂, ?_⟩
  · rw [Ne, hresolve 2]
    decide +kernel
  · rw [hresolve 3]
    exact .inl (by decide +kernel)
  · rw [hresolve 4]
    exact .inr ⟨by decide +kernel, hbound _ hemits⟩
  · exact (callbacks_resolve_iff_not_rebound rfl hadded ht hd₂ hroot₂).2 _
      ((Walk.standard.run standard.functions).outcome boundElsewhere).1 "urn:else" hemits₂
      (Prod.ext rfl (by decide +kernel)) (by decide +kernel) (by decide)

set_option maxRecDepth 4000 in
/-- Below an element that binds the qualifier to something else, a callback is called and transpiling
succeeds: the call is one of something else. -/
theorem callback_resolves_elsewhere :
    ∃ t d d', (Builder.standard.build : Attempt Error Transpiler).result = .ok t ∧
      (Document.parse ("<x:stylesheet xmlns:x='http://www.w3.org/1999/XSL/Transform'>" ++
        "<a xmlns:ext='urn:else'><x:if test='upper-case(.)'/></a></x:stylesheet>")).result = .ok d ∧
      Emits t.functions d ⟨3, "test", .expression⟩ ∧ t.transpile.outcome d = (d', .ok ()) ∧
      d'.attribute? 3 "test" = some "ext:call('upper-case',.)" ∧
      d'.lookupNamespace 3 (some callbackQualifier) = some "urn:else" := by
  have hd : (Document.parse ("<x:stylesheet xmlns:x='http://www.w3.org/1999/XSL/Transform'>" ++
        "<a xmlns:ext='urn:else'><x:if test='upper-case(.)'/></a></x:stylesheet>")).result =
      .ok ⟨#[⟨.document, none, [1]⟩,
        ⟨.element ⟨"x:stylesheet", [⟨"xmlns:x", xslNamespace⟩]⟩, some 0, [2]⟩,
        ⟨.element ⟨"a", [⟨"xmlns:ext", "urn:else"⟩]⟩, some 1, [3]⟩,
        ⟨.element ⟨"x:if", [⟨"test", "upper-case(.)"⟩]⟩, some 2, []⟩], none⟩ := by decide +kernel
  refine ⟨standard, _, _, result_build_standard, hd, ⟨[], [], _, ?_, rfl, "upper-case(.)", ?_,
    "upper-case(.)", ?_, callsBackIn_upperCase _⟩, Prod.ext rfl ?_, ?_, ?_⟩
  all_goals decide +kernel

end XslLowering.Transpiler
