import XslLowering.Proofs.Transpiler.CallbackBinding

/-!
# What transpiling leaves alone

* `Document.bare`: a document without its attributes, which no step changes;
* `Footprint`: two documents differ only in attributes that may be touched, and new attributes stand
  last on one element. Each step has one, and they are put together by `Footprint.trans`;
* `transpile_footprint`: the attributes that transpiling may change, and those it may add;
* `exclusion_list_declares_namespace`: where the stylesheet language has a qualifier which cannot be
  bound, the list of excluded qualifiers is itself a namespace declaration.
-/

namespace XslLowering

namespace Document

/-- The document without its attributes. -/
def bare (d : Document) : Document := d.mapElements fun _ e => { e with attributes := [] }

theorem bare_setAttribute (d : Document) (id : NodeId) (name value : String) :
    (d.setAttribute id name value).bare = d.bare := by
  rw [bare, bare, setAttribute_eq_mapElements, mapElements_mapElements]
  refine mapElements_congr fun x e _ => ?_
  split <;> rfl

theorem sameTree_of_bare {d d' : Document} (h : d'.bare = d.bare) : SameTree d d' := by
  have hold : SameTree d d.bare := sameTree_mapElements d _ fun _ _ => rfl
  have hnew : SameTree d' d'.bare := sameTree_mapElements d' _ fun _ _ => rfl
  rw [h] at hnew
  exact ⟨hnew.size.symm.trans hold.size, fun id => (hnew.parent? id).symm.trans (hold.parent? id),
    fun id => (hnew.children id).symm.trans (hold.children id),
    fun id => (hnew.name? id).symm.trans (hold.name? id)⟩

end Document

namespace Stylesheet

/-! ## Names that are added -/

/-- Some of the candidates that were missing stand at the end, in their order. -/
def Appends (candidates old new : List String) : Prop :=
  ∃ added, new = old ++ added ∧ added.Sublist (candidates.filter (· ∉ old))

namespace Appends

theorem refl (candidates names : List String) : Appends candidates names names :=
  ⟨[], (List.append_nil names).symm, List.nil_sublist _⟩

theorem trans {first second old mid new : List String} (h : Appends first old mid)
    (h' : Appends second mid new) : Appends (first ++ second) old new := by
  obtain ⟨added, rfl, hadded⟩ := h
  obtain ⟨added', rfl, hadded'⟩ := h'
  refine ⟨added ++ added', List.append_assoc .., ?_⟩
  rw [List.filter_append]
  refine hadded.append (hadded'.trans (List.monotone_filter_right second fun name hname => ?_))
  simp only [List.mem_append, not_or, decide_eq_true_eq] at hname ⊢
  exact hname.1

theorem setIn (name value : String) (as : List Attribute) :
    Appends [name] (as.map (·.name)) ((Element.setIn name value as).map (·.name)) := by
  rw [Element.map_name_setIn]
  split
  · exact refl ..
  · rename_i hname
    exact ⟨[name], rfl, by simpa using hname⟩

end Appends

/-! ## Footprints -/

/-- The two documents differ only in attributes that are touched. New ones are on the element `root`
and stand last. -/
structure Footprint (touched : NodeId → String → Prop) (root : NodeId) (candidates : List String)
    (d d' : Document) : Prop where
  bare : d'.bare = d.bare
  names {id : NodeId} : id ≠ root →
    (d'.attributes id).map (·.name) = (d.attributes id).map (·.name)
  rootNames : Appends candidates ((d.attributes root).map (·.name))
    ((d'.attributes root).map (·.name))
  untouched {id : NodeId} {name : String} : ¬touched id name →
    d'.attribute? id name = d.attribute? id name

namespace Footprint

variable {touched : NodeId → String → Prop} {root : NodeId} {first second : List String}
  {d d' d'' : Document}

theorem refl (touched : NodeId → String → Prop) (root : NodeId) (candidates : List String)
    (d : Document) : Footprint touched root candidates d d :=
  ⟨rfl, fun _ => rfl, .refl .., fun _ => rfl⟩

theorem trans (h : Footprint touched root first d d') (h' : Footprint touched root second d' d'') :
    Footprint touched root (first ++ second) d d'' :=
  ⟨h'.bare.trans h.bare, fun hne => (h'.names hne).trans (h.names hne),
    h.rootNames.trans h'.rootNames, fun hn => (h'.untouched hn).trans (h.untouched hn)⟩

/-- Setting an attribute of the element. -/
theorem setAttribute (he : d.isElement root = true) {name : String} (ht : touched root name)
    (value : String) : Footprint touched root [name] d (d.setAttribute root name value) := by
  refine ⟨Document.bare_setAttribute .., fun hne => ?_, ?_, fun {x n} hn => ?_⟩
  · rw [Document.attributes_setAttribute he, if_neg (Ne.symm hne)]
  · rw [Document.attributes_setAttribute he, if_pos rfl]
    exact .setIn ..
  · rw [Document.attribute?_setAttribute he, if_neg]
    rintro ⟨rfl, rfl⟩
    exact hn ht

/-- Setting an attribute that is there. -/
theorem setValue {id : NodeId} {name : String}
    (hname : name ∈ (d.attributes id).map (·.name)) (ht : touched id name) (value : String) :
    Footprint touched root [] d (d.setAttribute id name value) := by
  obtain ⟨old, ha⟩ := Option.isSome_iff_exists.1 (hasAttribute_iff.2 hname)
  have he : d.isElement id = true := Document.isElement_of_attribute? ha
  have hnames (x : NodeId) : ((d.setAttribute id name value).attributes x).map (·.name) =
      (d.attributes x).map (·.name) := by
    rw [Document.attributes_setAttribute he]
    split
    · rename_i hx
      rw [Element.map_name_setIn, if_pos (hx ▸ hname)]
    · rfl
  refine ⟨Document.bare_setAttribute .., fun _ => hnames _, ?_, fun {x n} hn => ?_⟩
  · rw [hnames]
    exact .refl ..
  · rw [Document.attribute?_setAttribute he, if_neg]
    rintro ⟨rfl, rfl⟩
    exact hn ht

end Footprint

/-! ## The passes -/

section

variable {touched : NodeId → String → Prop} {root : NodeId} {d d' : Document}

/-- A walk touches the sites, and adds nothing. -/
theorem footprint_of_walk {functions : FunctionMap} (root : NodeId)
    (ht : ∀ s, s ∈ sitesOf d s.node → touched s.node s.name)
    (h : (Walk.standard.run functions).outcome d = (d', .ok ())) :
    SameNames d d' ∧ exclusionAttribute? d' root = exclusionAttribute? d root ∧
      Footprint touched root [] d d' := by
  rw [outcome_run_sites] at h
  have hwalk : SameNames d d' ∧ xslQualifier? d' root = xslQualifier? d root ∧
      Footprint touched root [] d d' := by
    refine Edit.invariant_forM (I := fun x => SameNames d x ∧
        xslQualifier? x root = xslQualifier? d root ∧ Footprint touched root [] d x)
      (fun s hs x y hx hl => ?_) ⟨.refl d, rfl, .refl ..⟩ h
    have hs : s ∈ sitesOf d s.node := by
      obtain ⟨id, -, hs⟩ := List.mem_flatMap.1 hs
      rwa [(mem_sitesOf.1 hs).1]
    obtain ⟨hsame, hqualifier, hfootprint⟩ := hx
    refine ⟨hsame.lower hs hl, ?_⟩
    obtain ⟨value, ha⟩ := hsame.exists_value hs
    obtain ⟨v, -, ⟨-, rfl⟩ | rfl⟩ := Site.lower_eq_ok ha hl
    · exact ⟨hqualifier, hfootprint⟩
    · refine ⟨?_, hfootprint.trans (.setValue ?_ (ht s hs) v)⟩
      · rw [xslQualifier?_setAttribute (Document.isElement_of_attribute? ha)
          (not_declaration_of_site hs), hqualifier]
      · rw [hsame.names]
        exact mem_names_of_site hs
  obtain ⟨hsame, hqualifier, hfootprint⟩ := hwalk
  refine ⟨hsame, ?_, hfootprint⟩
  rw [exclusionAttribute?, exclusionAttribute?, hqualifier,
    (sameLanguage_of_sameScopes hsame.toSameScopes).isInstruction]

/-- What is written to exclude the qualifier of callbacks is not the name of the stylesheet
language. -/
theorem excludeCallbacks_ne_xslNamespace {listed : String} (h : excludeCallbacks listed ≠ listed) :
    excludeCallbacks listed ≠ xslNamespace := by
  intro hxsl
  simp only [excludeCallbacks] at h hxsl
  split at hxsl
  · rename_i hlisted
    exact h (if_pos hlisted)
  · split at hxsl
    · exact absurd hxsl (by decide)
    · -- It has a blank in it.
      have hblank : ' ' ∈ xslNamespace.toList := by
        rw [← hxsl]
        simp
      exact absurd hblank (by decide)

theorem isInstruction_of_setAttribute {id x : NodeId} {name value : String}
    (he : d.isElement id = true) (hv : value ≠ xslNamespace)
    (h : isInstruction (d.setAttribute id name value) x = true) : isInstruction d x = true := by
  have htree := Document.sameTree_setAttribute d id name value
  rw [isInstruction, beq_iff_eq] at h ⊢
  rcases htree.element?_cases x with ⟨-, hnone⟩ | ⟨e, e', hold, hnew, hname⟩
  · rw [Document.namespaceOf?, hnone] at h
    cases h
  · rw [Document.namespaceOf?, hnew, Option.bind_some, Element.qualifier?, hname] at h
    rw [Document.namespaceOf?, hold, Option.bind_some, Element.qualifier?, ← h]
    rcases Document.lookupNamespace_setAttribute_cases he x _ with hsame | ⟨-, -, hvalue⟩
    · exact hsame.symm
    · rw [hvalue, Option.filter_eq_some_iff] at h
      exact absurd (Option.some.inj h.1) hv

/-- Excluding the qualifier of callbacks touches the list of qualifiers. An element does not become
an instruction by it, or cease to be one. -/
theorem footprint_of_exclude (he : d.isElement root = true)
    (ht : ∀ name, exclusionAttribute? d root = some name → touched root name)
    (h : (exclude root).outcome d = (d', .ok ())) :
    isInstruction d' root = isInstruction d root ∧
      Footprint touched root (exclusionAttribute? d root).toList d d' := by
  simp only [exclude, Edit.outcome_bind, Edit.outcome_get, Edit.andThen_ok] at h
  cases hx : exclusionAttribute? d root with
  | none =>
    simp only [hx, Edit.outcome_pure] at h
    cases h
    exact ⟨rfl, .refl ..⟩
  | some name =>
    simp only [hx] at h
    split at h
    · rename_i hchanged
      rw [Document.outcome_assign he] at h
      cases h
      refine ⟨?_, .setAttribute he (ht name hx) _⟩
      cases hi : isInstruction d root with
      | true =>
        rw [exclusionAttribute?, if_pos hi] at hx
        cases hx
        have hlanguage (value : String) :
            SameLanguage d (d.setAttribute root "exclude-result-prefixes" value) :=
          sameLanguage_of_sameScopes (Document.sameScopes_setAttribute he (by decide))
        rw [(hlanguage _).isInstruction, hi]
      | false =>
        refine Bool.eq_false_iff.2 fun hi' => ?_
        have hvalue := excludeCallbacks_ne_xslNamespace (bne_iff_ne.1 hchanged)
        rw [isInstruction_of_setAttribute he hvalue hi'] at hi
        cases hi
    · rw [Edit.outcome_pure] at h
      cases h
      exact ⟨rfl, .refl ..⟩

/-- Declaring callbacks touches their binding and the list of qualifiers. -/
theorem footprint_of_declareCallbacks (hroot : d.documentElement? = some root)
    (hd : d.WellFormed) (hbinding : touched root bindingName)
    (ht : ∀ name, exclusionAttribute? d root = some name → touched root name)
    (h : declareCallbacks.outcome d = (d', .ok ())) :
    isInstruction d' root = isInstruction d root ∧
      Footprint touched root (bindingName :: (exclusionAttribute? d root).toList) d d' := by
  have he : d.isElement root = true := List.find?_some hroot
  rw [outcome_declareCallbacks hroot] at h
  split at h
  · obtain ⟨b, _, hbind, hexclude⟩ := Edit.exists_of_andThen_eq_ok h
    obtain ⟨hub, -⟩ := undisturbed_of_bindCallbacks hd he hbind
    have hfirst : Footprint touched root [bindingName] d b := by
      rcases bindCallbacks_cases he hbind with ⟨-, rfl⟩ | ⟨-, rfl⟩
      · exact .refl ..
      · exact .setAttribute he hbinding _
    rw [← hub.exclusionAttribute?] at ht ⊢
    obtain ⟨hi, hsecond⟩ := footprint_of_exclude (by rw [hub.isElement, he]) ht hexclude
    exact ⟨hi.trans (hub.isInstruction root), hfirst.trans hsecond⟩
  · cases h
    exact ⟨rfl, .refl ..⟩

end

end Stylesheet

namespace Transpiler

open Stylesheet

/-! ## Transpiling -/

/-- Setting the version touches the attribute that declares it. This is new on an instruction at
most. -/
theorem footprint_of_setVersion {touched : NodeId → String → Prop} {version : String}
    {root : NodeId} {d d' : Document} (he : d.isElement root = true)
    (ht : ∀ name, versionAttribute? d' root = some name → touched root name)
    (h : (setVersion version root).outcome d = (d', .ok ())) :
    isInstruction d' root = isInstruction d root ∧ Versioned version root d' ∧
      Footprint touched root (if isInstruction d root then ["version"] else []) d d' := by
  rcases setVersion_cases he h with ⟨hv, rfl⟩ | ⟨name, hname, rfl⟩
  · exact ⟨rfl, hv, .refl ..⟩
  · have htouched : touched root name := ht name (versionAttribute?_setAttribute he hname)
    refine ⟨(undisturbed_setVersion he hname).isInstruction root,
      versioned_setAttribute he hname, ?_⟩
    rw [versionAttribute?] at hname
    split at hname
    · rename_i hi
      cases hname
      rw [if_pos hi]
      exact .setAttribute he htouched version
    · rename_i hi
      rw [if_neg hi]
      exact .setValue (List.mem_of_find?_eq_some hname) htouched version

/-- The steps with the standard passes: callbacks are declared or not. -/
theorem exists_of_standard_steps {t : Transpiler}
    (ht : t.passes = standardPasses t.settings t.functions) {root : NodeId} {d d' : Document}
    (h : (t.steps root).outcome d = (d', .ok ())) :
    ∃ lowered declared,
      (Walk.standard.run t.functions).outcome d = (lowered, .ok ()) ∧
      (declareCallbacks.outcome lowered = (declared, .ok ()) ∨ declared = lowered) ∧
      (setVersion t.settings.targetVersion root).outcome declared = (d', .ok ()) := by
  rw [standardPasses] at ht
  split at ht
  · obtain ⟨lowered, declared, last, hwalk, hdeclare, hadded, hversion⟩ := exists_of_steps ht h
    obtain rfl : declared = last := congrArg Prod.fst hadded
    exact ⟨lowered, declared, hwalk, .inl hdeclare, hversion⟩
  · rw [steps, ht, Edit.outcome_bind, Edit.outcome_forM_cons] at h
    obtain ⟨declared, _, h, hversion⟩ := Edit.exists_of_andThen_eq_ok h
    obtain ⟨lowered, _, hwalk, h⟩ := Edit.exists_of_andThen_eq_ok h
    obtain rfl : lowered = declared := congrArg Prod.fst h
    exact ⟨lowered, lowered, Edit.outcome_mapError_eq_ok.1 hwalk, .inr rfl, hversion⟩

/-- The attributes that transpiling `d` to `d'` may change: tests and selections of instructions,
value templates, and on the outermost element the binding of callbacks, the list of excluded
qualifiers and the version. -/
def MayChange (d d' : Document) (root id : NodeId) (name : String) : Prop :=
  isInstruction d id = true ∧ name ∈ ["test", "select"] ∨ holdsTemplate d id name = true ∨
    id = root ∧ (name = bindingName ∨ exclusionAttribute? d root = some name ∨
      versionAttribute? d' root = some name)

instance (d d' : Document) (root id : NodeId) (name : String) :
    Decidable (MayChange d d' root id name) :=
  inferInstanceAs (Decidable (isInstruction d id = true ∧ name ∈ ["test", "select"] ∨
    holdsTemplate d id name = true ∨ id = root ∧ (name = bindingName ∨
      exclusionAttribute? d root = some name ∨ versionAttribute? d' root = some name)))

theorem mayChange_of_site {d : Document} {s : Site} (hs : s ∈ sitesOf d s.node) (d' : Document)
    (root : NodeId) : MayChange d d' root s.node s.name := by
  rcases (mem_sitesOf.1 hs).2 with ⟨-, hname, hholds⟩ | ⟨-, -, hholds⟩
  · rw [holdsExpression, Bool.and_eq_true] at hholds
    exact .inl ⟨hholds.2, hname⟩
  · exact .inr (.inl hholds)

/-- Of namespace declarations, only those of callbacks may change. -/
theorem MayChange.of_declaration {d d' : Document} {root id : NodeId} {name : String}
    (h : MayChange d d' root id name) (hname : isNamespaceDeclaration name = true) :
    id = root ∧ (name = bindingName ∨ exclusionAttribute? d root = some name) := by
  rcases h with ⟨-, h⟩ | h | ⟨hid, h | h | h⟩
  · simp only [List.mem_cons, List.not_mem_nil, or_false] at h
    rcases h with rfl | rfl
    · exact absurd hname (by decide)
    · exact absurd hname (by decide)
  · rw [holdsTemplate, if_pos hname] at h
    cases h
  · exact ⟨hid, .inl h⟩
  · exact ⟨hid, .inr h⟩
  · rw [(isSelfDescription_of_versionAttribute? h).not_declaration] at hname
    cases hname

/-- The names that transpiling may add to the outermost element. -/
def addable (d : Document) (root : NodeId) : List String :=
  bindingName :: (exclusionAttribute? d root).toList ++
    if isInstruction d root then ["version"] else []

theorem footprint_of_steps {t : Transpiler} (ht : t.passes = standardPasses t.settings t.functions)
    {root : NodeId} {d d' : Document} (hroot : d.documentElement? = some root)
    (hd : d.WellFormed) (h : (t.steps root).outcome d = (d', .ok ())) :
    isInstruction d' root = isInstruction d root ∧
      Versioned t.settings.targetVersion root d' ∧
      Footprint (MayChange d d' root) root (addable d root) d d' := by
  obtain ⟨lowered, declared, hwalk, hdeclare, hversion⟩ := exists_of_standard_steps ht h
  obtain ⟨hsame, hexclusion, hfirst⟩ :=
    footprint_of_walk root (fun s hs => mayChange_of_site hs d' root) hwalk
  have hlanguage : isInstruction lowered root = isInstruction d root :=
    (sameLanguage_of_sameScopes hsame.toSameScopes).isInstruction root
  have hroot₁ : lowered.documentElement? = some root := hsame.documentElement?.trans hroot
  have hd₁ : lowered.WellFormed := by
    refine hd.of_sameTree hsame.toSameTree fun id => ?_
    rw [hsame.names]
    exact hd.nodup_attributes id
  have hsecond : isInstruction declared root = isInstruction lowered root ∧
      Footprint (MayChange d d' root) root (bindingName :: (exclusionAttribute? d root).toList)
        lowered declared := by
    rcases hdeclare with hdeclare | rfl
    · rw [← hexclusion]
      refine footprint_of_declareCallbacks hroot₁ hd₁ (.inr (.inr ⟨rfl, .inl rfl⟩)) ?_ hdeclare
      intro name hname
      exact .inr (.inr ⟨rfl, .inr (.inl (hexclusion ▸ hname))⟩)
    · exact ⟨rfl, .refl ..⟩
  obtain ⟨hi, hsecond⟩ := hsecond
  have he : declared.isElement root = true := by
    rw [(Document.sameTree_of_bare hsecond.bare).isElement]
    exact List.find?_some hroot₁
  have htouched (name : String) (hname : versionAttribute? d' root = some name) :
      MayChange d d' root root name := .inr (.inr ⟨rfl, .inr (.inr hname)⟩)
  obtain ⟨hi', hversioned, hthird⟩ := footprint_of_setVersion he htouched hversion
  rw [hi, hlanguage] at hi' hthird
  exact ⟨hi', hversioned, (hfirst.trans hsecond).trans hthird⟩

/-- Transpiling with the standard passes changes nothing but attributes. Elements keep the names of
theirs, and the outermost element gets at most the missing ones of `addable`, at the end. Only the
attributes of `MayChange` get other values; of namespace declarations these are the binding of
callbacks on the outermost element, and the list of excluded qualifiers if it is one. So qualifiers
stand for what they stood for, except that of callbacks and the one that the list declares then.
An outermost instruction declares the version that was asked for. -/
theorem transpile_footprint {t : Transpiler}
    (ht : t.passes = standardPasses t.settings t.functions) {source : String} {d d' : Document}
    (hd : (Document.parse source).result = .ok d) {root : NodeId}
    (hroot : d.documentElement? = some root) (h : t.transpile.outcome d = (d', .ok ())) :
    d'.bare = d.bare ∧
    (∀ id, id ≠ root → (d'.attributes id).map (·.name) = (d.attributes id).map (·.name)) ∧
    Appends (addable d root) ((d.attributes root).map (·.name))
      ((d'.attributes root).map (·.name)) ∧
    (∀ id name, d'.attribute? id name ≠ d.attribute? id name → MayChange d d' root id name) ∧
    (∀ id name, isNamespaceDeclaration name = true →
      d'.attribute? id name ≠ d.attribute? id name →
      id = root ∧ (name = bindingName ∨ exclusionAttribute? d root = some name)) ∧
    (∀ id qualifier, qualifier ≠ some callbackQualifier →
      exclusionAttribute? d root ≠ some (Document.declarationName qualifier) →
      d'.lookupNamespace id qualifier = d.lookupNamespace id qualifier) ∧
    isInstruction d' root = isInstruction d root ∧
    (isInstruction d root = true →
      d'.attribute? root "version" = some t.settings.targetVersion) := by
  obtain ⟨hi, hversioned, hfootprint⟩ := footprint_of_steps ht hroot
    (Document.wellFormed_of_parse hd) ((outcome_transpile_eq_ok hroot).1 h)
  have hchanged (id : NodeId) (name : String) (hne : d'.attribute? id name ≠ d.attribute? id name) :
      MayChange d d' root id name := by
    refine Decidable.byContradiction fun hnot => ?_
    exact hne (hfootprint.untouched hnot)
  have hdeclaration (id : NodeId) (name : String) (hname : isNamespaceDeclaration name = true)
      (hne : d'.attribute? id name ≠ d.attribute? id name) :
      id = root ∧ (name = bindingName ∨ exclusionAttribute? d root = some name) :=
    (hchanged id name hne).of_declaration hname
  refine ⟨hfootprint.bare, fun id => hfootprint.names, hfootprint.rootNames, hchanged, hdeclaration,
    ?_, hi, ?_⟩
  · intro id qualifier hq hx
    refine (Document.sameTree_of_bare hfootprint.bare).lookupNamespace_congr (fun x => ?_) id
    refine Decidable.byContradiction fun hne => ?_
    rcases hdeclaration x _ (Document.isNamespaceDeclaration_declarationName qualifier) hne with
      ⟨-, hname | hname⟩
    · exact hq (Document.declarationName_inj hname)
    · exact hx hname
  · intro hinstruction
    refine hversioned "version" ?_
    rw [versionAttribute?, hi, if_pos hinstruction]

/-- A stylesheet without a version, with a call of a callback in a test and one elsewhere. -/
def calledTwice : Document :=
  ⟨#[⟨.document, none, [1]⟩,
    ⟨.element ⟨"x:stylesheet", [⟨"xmlns:x", xslNamespace⟩]⟩, some 0, [2]⟩,
    ⟨.element ⟨"x:if", [⟨"test", "upper-case(.)"⟩, ⟨"match", "upper-case(.)"⟩]⟩, some 1, []⟩], none⟩

set_option maxRecDepth 4000 in
/-- The test is lowered, and callbacks and the version are declared. What is no test stays. -/
theorem transpile_footprint_called_twice :
    ∃ d', (Document.parse ("<x:stylesheet xmlns:x='http://www.w3.org/1999/XSL/Transform'>" ++
        "<x:if test='upper-case(.)' match='upper-case(.)'/></x:stylesheet>")).result =
          .ok calledTwice ∧
      calledTwice.documentElement? = some 1 ∧
      standard.transpile.outcome calledTwice = (d', .ok ()) ∧
      d'.attribute? 2 "test" = some "ext:call('upper-case',.)" ∧
      d'.bare = calledTwice.bare ∧
      Appends ["xmlns:ext", "exclude-result-prefixes", "version"] ["xmlns:x"]
        ((d'.attributes 1).map (·.name)) ∧
      d'.attribute? 2 "match" = calledTwice.attribute? 2 "match" ∧
      d'.lookupNamespace 2 (some "x") = calledTwice.lookupNamespace 2 (some "x") ∧
      d'.attribute? 1 "version" = some "1.0" := by
  have hd : (Document.parse ("<x:stylesheet xmlns:x='http://www.w3.org/1999/XSL/Transform'>" ++
      "<x:if test='upper-case(.)' match='upper-case(.)'/></x:stylesheet>")).result =
        .ok calledTwice := by decide +kernel
  have hroot : calledTwice.documentElement? = some 1 := by decide +kernel
  have hok : standard.transpile.outcome calledTwice =
      ((standard.transpile.outcome calledTwice).1, .ok ()) := Prod.ext rfl (by decide +kernel)
  have hadds : addable calledTwice 1 = ["xmlns:ext", "exclude-result-prefixes", "version"] := by
    decide +kernel
  obtain ⟨hbare, -, hnames, hchanged, -, hlookup, -, hversion⟩ :=
    transpile_footprint rfl hd hroot hok
  refine ⟨_, hd, hroot, hok, by decide +kernel, hbare, ?_, ?_, hlookup 2 (some "x") (by decide) ?_,
    hversion (by decide +kernel)⟩
  · rw [← hadds]
    exact hnames
  · refine Decidable.byContradiction fun hne => ?_
    exact absurd (hchanged 2 "match" hne) (by decide +kernel)
  · decide +kernel

set_option maxRecDepth 4000 in
/-- A qualifier for the stylesheet language by which the list of excluded qualifiers is written as a
namespace declaration: this changes, and what it declares does. -/
theorem exclusion_list_declares_namespace :
    ∃ d d', (Document.parse ("<r xmlns:xmlns='http://www.w3.org/1999/XSL/Transform' " ++
        "xmlns:exclude-result-prefixes='urn:x' t='\x7bupper-case(.)\x7d'/>")).result = .ok d ∧
      standard.transpile.outcome d = (d', .ok ()) ∧
      isNamespaceDeclaration "xmlns:exclude-result-prefixes" = true ∧
      d'.attribute? 1 "xmlns:exclude-result-prefixes" ≠
        d.attribute? 1 "xmlns:exclude-result-prefixes" ∧
      d'.lookupNamespace 1 (some "exclude-result-prefixes") ≠
        d.lookupNamespace 1 (some "exclude-result-prefixes") := by
  have hd : (Document.parse ("<r xmlns:xmlns='http://www.w3.org/1999/XSL/Transform' " ++
        "xmlns:exclude-result-prefixes='urn:x' t='\x7bupper-case(.)\x7d'/>")).result =
      .ok ⟨#[⟨.document, none, [1]⟩, ⟨.element ⟨"r", [⟨"xmlns:xmlns", xslNamespace⟩,
        ⟨"xmlns:exclude-result-prefixes", "urn:x"⟩, ⟨"t", "\x7bupper-case(.)\x7d"⟩]⟩,
        some 0, []⟩], none⟩ := by decide +kernel
  refine ⟨_, _, hd, Prod.ext rfl ?_, ?_, ?_, ?_⟩
  all_goals decide +kernel

end Transpiler

end XslLowering
