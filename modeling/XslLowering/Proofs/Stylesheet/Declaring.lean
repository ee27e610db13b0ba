import XslLowering.Proofs.Stylesheet.SecondWalk
import XslLowering.Stylesheet.Pass

/-!
# Declaring callbacks

Where callbacks are called, the outermost element binds their qualifier and lists it among those to
keep out of the result. This changes attributes by which a stylesheet describes itself
(`IsSelfDescription`), and these are no sites (`Undisturbed`). It takes that the qualifier which the
element binds to the stylesheet language can stand before a name (`LegalQualifier`).

* `excludeCallbacks_excludeCallbacks`: what has been listed is not listed again;
* `declared_of_declareCallbacks`: callbacks are declared afterwards (`Declared`), if they are called;
* `outcome_declareCallbacks_of_declared`: then there is nothing left to declare.
-/

namespace XslLowering.Stylesheet

open Text

/-! ## Lists of qualifiers -/

theorem wordsOf_cons_break {c : Char} (h : isWordBreak c = true) (cs : List Char) :
    wordsOf (c :: cs) = wordsOf cs := by
  rw [wordsOf.eq_def]
  simp [h]

theorem wordsOf_ne_nil {c : Char} (h : isWordBreak c = false) (cs : List Char) :
    wordsOf (c :: cs) ≠ [] := by
  rw [wordsOf.eq_def]
  simp only [h, Bool.false_eq_true, ↓reduceIte]
  split
  · simp
  · split
    · simp
    · split <;> simp

/-- The words before a blank are not changed by what follows it. -/
theorem wordsOf_append (cs ws : List Char) :
    wordsOf (cs ++ ' ' :: ws) = wordsOf cs ++ wordsOf ws := by
  have hbreak : isWordBreak ' ' = true := rfl
  have hblank : wordsOf (' ' :: ws) = wordsOf ws := wordsOf_cons_break hbreak ws
  fun_induction wordsOf cs with
  | case1 => exact hblank
  | case2 c cs hc ih => rw [List.cons_append, wordsOf_cons_break hc, ih]
  | case3 c hc =>
    rw [List.cons_append, wordsOf.eq_def]
    simp [hc, hbreak, hblank]
  | case4 c hc d cs hd ih =>
    rw [List.cons_append] at ih
    rw [List.cons_append, List.cons_append, wordsOf.eq_def]
    simp [hc, hd, ih]
  | case5 c hc d cs hd hnil ih => exact absurd hnil (wordsOf_ne_nil (by simpa using hd) cs)
  | case6 c hc d cs hd word words hwords ih =>
    rw [List.cons_append] at ih
    rw [List.cons_append, List.cons_append, wordsOf.eq_def]
    simp [hc, hd, ih, hwords]

/-- The qualifier is listed once it has been excluded. -/
theorem excludeCallbacks_excludeCallbacks (listed : String) :
    excludeCallbacks (excludeCallbacks listed) = excludeCallbacks listed := by
  have hlisted {s : String} (h : callbackQualifier.toList ∈ wordsOf s.toList) :
      excludeCallbacks s = s := by
    simp [excludeCallbacks, h]
  cases h : (wordsOf listed.toList).contains callbackQualifier.toList ||
      (wordsOf listed.toList).contains "#all".toList with
  | true =>
    have hself : excludeCallbacks listed = listed := by
      simp only [excludeCallbacks, h, ↓reduceIte]
    rw [hself, hself]
  | false =>
    refine hlisted ?_
    simp only [excludeCallbacks, h, Bool.false_eq_true, ↓reduceIte]
    split
    · decide
    · rw [String.append_assoc, String.toList_append, String.toList_append]
      show _ ∈ wordsOf (_ ++ ' ' :: callbackQualifier.toList)
      rw [wordsOf_append]
      exact List.mem_append_right _ (by decide)

/-! ## Names that belong to the stylesheet language -/

/-- A name with a qualifier is cut at the colon after it. -/
theorem cutAt_of_not_mem {name : String} {q rest : List Char} (hq : ':' ∉ q)
    (hn : name.toList = q ++ ':' :: rest) :
    cutAt ':' name = some (String.ofList q, String.ofList rest) := by
  have hp : ∀ c ∈ q, (c != ':') = true := fun c hc => by
    simpa using fun he : c = ':' => hq (he ▸ hc)
  have hr : ∀ c ∈ (':' :: rest).head?, (c != ':') = false := by simp
  rw [cutAt, hn, dropWhile_append hp hr, takeWhile_append hp hr]

/-- A name of the stylesheet language declares no namespace. -/
theorem not_declaration_of_isXslAttribute {d : Document} {id : NodeId} {name : String}
    (h : isXslAttribute d id name = true) : isNamespaceDeclaration name = false := by
  refine Bool.eq_false_iff.2 fun hd => ?_
  rw [isNamespaceDeclaration, Bool.or_eq_true, beq_iff_eq] at hd
  rcases hd with rfl | hd
  · cases h
  · obtain ⟨rest, hrest⟩ := List.isPrefixOf_iff_prefix.1 hd
    have hcut : cutAt ':' name = some ("xmlns", String.ofList rest) :=
      cutAt_of_not_mem (q := ['x', 'm', 'l', 'n', 's']) (by decide) hrest.symm
    rw [isXslAttribute, hcut] at h
    cases h

/-- An attribute by which a stylesheet says something about itself: it stands on an instruction, or
its name says that it belongs to the stylesheet language. -/
def IsSelfDescription (d : Document) (id : NodeId) (name : String) : Prop :=
  isInstruction d id = true ∧ (name = "exclude-result-prefixes" ∨ name = "version") ∨
    isInstruction d id = false ∧ isXslAttribute d id name = true

theorem IsSelfDescription.not_declaration {d : Document} {id : NodeId} {name : String}
    (h : IsSelfDescription d id name) : isNamespaceDeclaration name = false := by
  rcases h with ⟨-, rfl | rfl⟩ | ⟨-, h⟩
  · decide
  · decide
  · exact not_declaration_of_isXslAttribute h

theorem IsSelfDescription.not_site {d : Document} {id : NodeId} {name : String}
    (h : IsSelfDescription d id name) : isSiteName d id name = false := by
  rw [isSiteName, Bool.or_eq_false_iff]
  rcases h with ⟨hi, hname⟩ | ⟨hi, hx⟩
  · refine ⟨by rcases hname with rfl | rfl <;> rfl, ?_⟩
    refine holdsTemplate_of_isInstruction hi fun instruction => ?_
    rcases hname with rfl | rfl <;> simp [templateAttributes]
  · rw [holdsTemplate, hi, hx]
    simp

/-! ## Changes of the outermost element -/

theorem stripLead_of_not_declaration {name : String} (h : isNamespaceDeclaration name = false) :
    stripLead "xmlns:".toList name.toList = none := by
  rw [isNamespaceDeclaration, Bool.or_eq_false_iff] at h
  rw [stripLead]
  exact if_neg (Bool.eq_false_iff.1 h.2)

/-- A change of attributes that leaves alone the sites, and the qualifier that the outermost element
binds to the stylesheet language. -/
structure Undisturbed (root : NodeId) (d d' : Document) : Prop extends SameSites d d' where
  xslQualifier? : xslQualifier? d' root = xslQualifier? d root
  wellFormed : d.WellFormed → d'.WellFormed

namespace Undisturbed

variable {root : NodeId} {d d' d'' : Document}

theorem refl (root : NodeId) (d : Document) : Undisturbed root d d := ⟨.refl d, rfl, id⟩

theorem trans (h : Undisturbed root d d') (h' : Undisturbed root d' d'') : Undisturbed root d d'' :=
  ⟨h.toSameSites.trans h'.toSameSites, h'.xslQualifier?.trans h.xslQualifier?,
    h'.wellFormed ∘ h.wellFormed⟩

theorem exclusionAttribute? (h : Undisturbed root d d') :
    Stylesheet.exclusionAttribute? d' root = Stylesheet.exclusionAttribute? d root := by
  rw [Stylesheet.exclusionAttribute?, Stylesheet.exclusionAttribute?, h.isInstruction,
    h.xslQualifier?]

end Undisturbed

section

variable {root : NodeId} {d : Document} (he : d.isElement root = true)

include he

/-- An attribute that declares no namespace is no qualifier. -/
theorem xslQualifier?_setAttribute {name : String} (hn : isNamespaceDeclaration name = false)
    (value : String) (id : NodeId) :
    xslQualifier? (d.setAttribute root name value) id = xslQualifier? d id := by
  have hlead := stripLead_of_not_declaration hn
  rw [xslQualifier?, xslQualifier?, Document.attributes_setAttribute he]
  split
  · refine Element.findSome?_setIn ?_ fun a _ hname => ?_
    · rw [hlead]
      simp
    · rw [hname, hlead]
      simp
  · rfl

/-- Setting an attribute by which a stylesheet describes itself. -/
theorem IsSelfDescription.undisturbed {name : String} (h : IsSelfDescription d root name)
    (value : String) : Undisturbed root d (d.setAttribute root name value) := by
  have hscopes : Document.SameScopes d (d.setAttribute root name value) :=
    Document.sameScopes_setAttribute he h.not_declaration
  exact ⟨sameSites_setAttribute he (sameLanguage_of_sameScopes hscopes) h.not_site,
    xslQualifier?_setAttribute he h.not_declaration value root, fun hd => hd.setAttribute he⟩

/-- Binding the qualifier of callbacks where it is not bound. -/
theorem undisturbed_bind (hd : d.WellFormed)
    (hnone : d.lookupNamespace root (some callbackQualifier) = none) :
    Undisturbed root d (d.setAttribute root ("xmlns:" ++ callbackQualifier) callbackNamespace) := by
  have hlanguage : SameLanguage d
      (d.setAttribute root ("xmlns:" ++ callbackQualifier) callbackNamespace) := by
    refine ⟨Document.sameTree_setAttribute .., fun id q => ?_⟩
    rcases Document.lookupNamespace_setAttribute he (show callbackNamespace.isEmpty = false by decide)
      hnone id q with h | ⟨h, h'⟩
    · rw [h]
    · rw [h, h']
      decide
  refine ⟨sameSites_setAttribute he hlanguage ?_, ?_, fun hd => hd.setAttribute he⟩
  · rw [isSiteName, holdsTemplate, if_pos (by decide)]
    rfl
  · rw [xslQualifier?, xslQualifier?, Document.attributes_setAttribute he, if_pos rfl]
    refine Element.findSome?_setIn (by decide) fun a ha hname => if_neg fun hvalue => ?_
    have hxsl : d.attribute? root (Document.declarationName (some callbackQualifier)) =
        some xslNamespace := by
      rw [← eq_of_beq hvalue, ← hd.attribute?_of_mem ha, hname]
      rfl
    rw [Document.lookupNamespace_eq (by decide), hxsl] at hnone
    have hempty : (some xslNamespace).filter (fun uri => !uri.isEmpty) = none := hnone
    exact absurd hempty (by decide)

end

/-! ## Declaring callbacks on an element -/

/-- The qualifier that the element binds to the stylesheet language can stand before a name, unless
the element needs none. -/
def LegalQualifier (d : Document) (root : NodeId) : Prop :=
  isInstruction d root = false → ∀ q ∈ xslQualifier? d root,
    q ≠ "xml" ∧ q ≠ "xmlns" ∧ ':' ∉ q.toList

instance (d : Document) (root : NodeId) : Decidable (LegalQualifier d root) :=
  inferInstanceAs (Decidable (isInstruction d root = false → ∀ q ∈ xslQualifier? d root,
    q ≠ "xml" ∧ q ≠ "xmlns" ∧ ':' ∉ q.toList))

theorem LegalQualifier.of_undisturbed {d d' : Document} {root : NodeId} (h : LegalQualifier d root)
    (hu : Undisturbed root d d') : LegalQualifier d' root := by
  rw [LegalQualifier, hu.isInstruction, hu.xslQualifier?]
  exact h

/-- No site is about a qualifier. -/
theorem xslQualifier?_lowerSites {functions : FunctionMap} {d : Document} {ss : List Site}
    (h : ∀ s ∈ ss, s ∈ sitesOf d s.node) (id : NodeId) :
    xslQualifier? (lowerSites functions d ss) id = xslQualifier? d id := by
  rw [xslQualifier?, xslQualifier?, lowerSites, Document.attributes_mapValues, List.findSome?_map]
  congr 1
  funext a
  cases hfind : ss.find? (·.key = (id, a.name)) with
  | none => simp only [Function.comp_apply, hfind]
  | some s =>
    have hname : s.name = a.name := by
      have hkey : s.key = (id, a.name) := by simpa using List.find?_some hfind
      exact congrArg Prod.snd hkey
    have hdeclaration := not_declaration_of_site (h s (List.mem_of_find?_eq_some hfind))
    rw [hname] at hdeclaration
    simp only [Function.comp_apply, stripLead_of_not_declaration hdeclaration, Option.map_none,
      ite_self]

theorem LegalQualifier.lowerSites {functions : FunctionMap} {d : Document} {root : NodeId}
    (h : LegalQualifier d root) {ss : List Site} (hs : ∀ s ∈ ss, s ∈ sitesOf d s.node) :
    LegalQualifier (lowerSites functions d ss) root := by
  rw [LegalQualifier, (sameLanguage_lowerSites hs).isInstruction, xslQualifier?_lowerSites hs]
  exact h

/-- The qualifier that an element binds itself stands for what it is bound to. -/
theorem lookupNamespace_of_xslQualifier? {d : Document} {root : NodeId} (hd : d.WellFormed)
    {q : String} (hxml : q ≠ "xml") (h : xslQualifier? d root = some q) :
    d.lookupNamespace root (some q) = some xslNamespace := by
  obtain ⟨a, ha, hq⟩ := List.exists_of_findSome?_eq_some h
  split at hq
  · rename_i hvalue
    obtain ⟨cs, hcs, rfl⟩ := Option.map_eq_some_iff.1 hq
    have hname : a.name = Document.declarationName (some (String.ofList cs)) := by
      refine String.toList_inj.1 ?_
      simp [stripLead_eq_some hcs, Document.declarationName]
    rw [Document.lookupNamespace_eq (by simpa using hxml), ← hname, hd.attribute?_of_mem ha,
      eq_of_beq hvalue]
    show (some xslNamespace).filter (fun uri => !uri.isEmpty) = some xslNamespace
    decide
  · cases hq

theorem isSelfDescription_of_exclusionAttribute? {d : Document} {root : NodeId}
    (hd : d.WellFormed) (hl : LegalQualifier d root) {name : String}
    (h : exclusionAttribute? d root = some name) : IsSelfDescription d root name := by
  rw [exclusionAttribute?] at h
  cases hi : isInstruction d root with
  | true =>
    simp only [hi, ↓reduceIte, Option.some.injEq] at h
    exact .inl ⟨hi, .inl h.symm⟩
  | false =>
    simp only [hi, Bool.false_eq_true, ↓reduceIte] at h
    obtain ⟨q, hq, rfl⟩ := Option.map_eq_some_iff.1 h
    obtain ⟨hxml, hxmlns, hcolon⟩ := hl hi q hq
    refine .inr ⟨hi, ?_⟩
    have hcut : cutAt ':' (q ++ ":exclude-result-prefixes") =
        some (String.ofList q.toList, String.ofList "exclude-result-prefixes".toList) :=
      cutAt_of_not_mem hcolon (by simp)
    rw [isXslAttribute, hcut]
    simp [hxmlns, lookupNamespace_of_xslQualifier? hd hxml hq]

/-- The qualifier of callbacks is bound, and kept out of the result. -/
structure Declared (d : Document) (root : NodeId) : Prop where
  bound : d.lookupNamespace root (some callbackQualifier) = some callbackNamespace
  excluded {name : String} : exclusionAttribute? d root = some name →
    excludeCallbacks ((d.attribute? root name).getD "") = (d.attribute? root name).getD ""

/-- Keeps the qualifier of callbacks out of the result. -/
def exclude (root : NodeId) : Edit Document Error Unit := do
  let d ← Edit.get
  match exclusionAttribute? d root with
  | none => return
  | some name =>
    let current := (d.attribute? root name).getD ""
    let updated := excludeCallbacks current
    if updated != current then Document.assign root name updated

/-- Callbacks are declared where they are called: their qualifier is bound, and then excluded. -/
theorem outcome_declareCallbacks {d : Document} {root : NodeId}
    (hroot : d.documentElement? = some root) :
    declareCallbacks.outcome d =
      if usesCallbacks d then
        Edit.andThen ((bindCallbacks root).outcome d) fun _ => (exclude root).outcome
      else (d, .ok ()) := by
  simp only [declareCallbacks, Edit.outcome_bind, Edit.outcome_get, Edit.andThen_ok, hroot]
  split
  · rw [Edit.outcome_bind]
    rfl
  · rfl

/-- Where callbacks are declared if they are called, there is nothing to declare. -/
theorem outcome_declareCallbacks_of_declared {d : Document} {root : NodeId}
    (hroot : d.documentElement? = some root) (h : usesCallbacks d = true → Declared d root) :
    declareCallbacks.outcome d = (d, .ok ()) := by
  rw [outcome_declareCallbacks hroot]
  split
  · rename_i hu
    obtain ⟨hbound, hexcluded⟩ := h hu
    have hbind : (bindCallbacks root).outcome d = (d, .ok ()) := by
      simp [bindCallbacks, hbound]
    rw [hbind, Edit.andThen_ok]
    simp only [exclude, Edit.outcome_bind, Edit.outcome_get, Edit.andThen_ok]
    cases hx : exclusionAttribute? d root with
    | none => rfl
    | some name => simp [hexcluded hx]
  · rfl

theorem bindCallbacks_cases {d d' : Document} {root : NodeId} (he : d.isElement root = true)
    (h : (bindCallbacks root).outcome d = (d', .ok ())) :
    d.lookupNamespace root (some callbackQualifier) = some callbackNamespace ∧ d' = d ∨
      d.lookupNamespace root (some callbackQualifier) = none ∧
        d' = d.setAttribute root ("xmlns:" ++ callbackQualifier) callbackNamespace := by
  simp only [bindCallbacks, Edit.outcome_bind, Edit.outcome_get, Edit.andThen_ok] at h
  cases hl : d.lookupNamespace root (some callbackQualifier) with
  | none =>
    simp only [hl, Document.outcome_assign he] at h
    exact .inr ⟨rfl, (congrArg Prod.fst h).symm⟩
  | some bound =>
    simp only [hl] at h
    split at h
    · cases h
    · rename_i hb
      cases h
      exact .inl ⟨by simpa using hb, rfl⟩

/-- Binding the qualifier of callbacks. -/
theorem undisturbed_of_bindCallbacks {d d' : Document} {root : NodeId} (hd : d.WellFormed)
    (he : d.isElement root = true) (h : (bindCallbacks root).outcome d = (d', .ok ())) :
    Undisturbed root d d' ∧
      d'.lookupNamespace root (some callbackQualifier) = some callbackNamespace := by
  rcases bindCallbacks_cases he h with ⟨hbound, rfl⟩ | ⟨hnone, rfl⟩
  · exact ⟨.refl root d', hbound⟩
  · exact ⟨undisturbed_bind he hd hnone,
      Document.lookupNamespace_setAttribute_self he (by decide) (by decide)⟩

/-- Excluding the qualifier of callbacks. -/
theorem undisturbed_of_exclude {d d' : Document} {root : NodeId} (hd : d.WellFormed)
    (he : d.isElement root = true) (hl : LegalQualifier d root)
    (hbound : d.lookupNamespace root (some callbackQualifier) = some callbackNamespace)
    (h : (exclude root).outcome d = (d', .ok ())) : Undisturbed root d d' ∧ Declared d' root := by
  simp only [exclude, Edit.outcome_bind, Edit.outcome_get, Edit.andThen_ok] at h
  cases hx : exclusionAttribute? d root with
  | none =>
    simp only [hx, Edit.outcome_pure] at h
    cases h
    refine ⟨.refl root d, hbound, fun hx' => ?_⟩
    rw [hx] at hx'
    cases hx'
  | some name =>
    have hname : IsSelfDescription d root name :=
      isSelfDescription_of_exclusionAttribute? hd hl hx
    simp only [hx] at h
    split at h
    · rw [Document.outcome_assign he] at h
      cases h
      have hundisturbed := hname.undisturbed he (excludeCallbacks ((d.attribute? root name).getD ""))
      refine ⟨hundisturbed, ?_, fun {name'} hx' => ?_⟩
      · rw [(Document.sameScopes_setAttribute he hname.not_declaration).lookupNamespace, hbound]
      · rw [hundisturbed.exclusionAttribute?, hx] at hx'
        cases hx'
        rw [Document.attribute?_setAttribute he, if_pos ⟨rfl, rfl⟩, Option.getD_some,
          excludeCallbacks_excludeCallbacks]
    · rename_i hsame
      rw [Edit.outcome_pure] at h
      cases h
      refine ⟨.refl root d, hbound, fun hx' => ?_⟩
      rw [hx] at hx'
      cases hx'
      simpa using hsame

/-- Declaring callbacks leaves them declared, and the sites alone. -/
theorem declared_of_declareCallbacks {d d' : Document} {root : NodeId}
    (hroot : d.documentElement? = some root) (hd : d.WellFormed) (hl : LegalQualifier d root)
    (h : declareCallbacks.outcome d = (d', .ok ())) :
    Undisturbed root d d' ∧ (usesCallbacks d' = true → Declared d' root) := by
  have he : d.isElement root = true := List.find?_some hroot
  rw [outcome_declareCallbacks hroot] at h
  split at h
  · obtain ⟨b, _, hbind, h⟩ := Edit.exists_of_andThen_eq_ok h
    obtain ⟨hub, hbound⟩ := undisturbed_of_bindCallbacks hd he hbind
    obtain ⟨hue, hdeclared⟩ := undisturbed_of_exclude (hub.wellFormed hd)
      (by rw [hub.isElement, he]) (hl.of_undisturbed hub) hbound h
    exact ⟨hub.trans hue, fun _ => hdeclared⟩
  · rename_i hu
    cases h
    exact ⟨.refl root d, fun hu' => absurd hu' hu⟩

end XslLowering.Stylesheet
