import XslLowering.Proofs.Attempt
import XslLowering.Proofs.Document.Frame
import XslLowering.Stylesheet.Walk

/-!
# The sites of a walk

A walk looks for attributes to lower while it changes the document. What it looks at to find them, the
names of attributes and the namespaces in scope, it does not change. So the attributes that it lowers
are those of the original document, whatever functions there are.

* `Site`: an attribute that is lowered, and how; `sites d` lists those of a document in the order of
  the walk;
* `Site.lower_cases`: lowering a site sets its attribute, or leaves it, or fails;
* `SameNames`: what lowering leaves alone;
* `outcome_run_sites`: the walk is a loop over the sites of the original document.
-/

namespace XslLowering.Stylesheet

open Expression (Place)

/-! ## Sites -/

/-- How an attribute is lowered. -/
inductive SiteKind where
  | expression
  | template
deriving DecidableEq

/-- An attribute of an element that is lowered. -/
structure Site where
  node : NodeId
  name : String
  kind : SiteKind
deriving DecidableEq

/-- The attribute that a site is about. -/
def Site.key (s : Site) : NodeId × String := (s.node, s.name)

/-- The sites of an element: tests and selections, then the templates among its attributes. -/
def sitesOf (d : Document) (id : NodeId) : List Site :=
  (["test", "select"].filter (holdsExpression d id)).map (⟨id, ·, .expression⟩) ++
    (((d.attributes id).map (·.name)).filter (holdsTemplate d id)).map (⟨id, ·, .template⟩)

/-- The sites of all elements, in document order. -/
def sites (d : Document) : List Site := d.elements.flatMap (sitesOf d)

theorem mem_sitesOf {d : Document} {id : NodeId} {s : Site} :
    s ∈ sitesOf d id ↔ s.node = id ∧
      (s.kind = .expression ∧ s.name ∈ ["test", "select"] ∧ holdsExpression d id s.name = true ∨
        s.kind = .template ∧ s.name ∈ (d.attributes id).map (·.name) ∧
          holdsTemplate d id s.name = true) := by
  obtain ⟨node, name, kind⟩ := s
  simp only [sitesOf, List.mem_append, List.mem_map (f := fun name => Site.mk id name _),
    List.mem_filter, Site.mk.injEq]
  constructor
  · rintro (⟨_, ⟨hm, hh⟩, rfl, rfl, rfl⟩ | ⟨_, ⟨hm, hh⟩, rfl, rfl, rfl⟩)
    · exact ⟨rfl, .inl ⟨rfl, hm, hh⟩⟩
    · exact ⟨rfl, .inr ⟨rfl, hm, hh⟩⟩
  · rintro ⟨rfl, ⟨rfl, hm, hh⟩ | ⟨rfl, hm, hh⟩⟩
    · exact .inl ⟨_, ⟨hm, hh⟩, rfl, rfl, rfl⟩
    · exact .inr ⟨_, ⟨hm, hh⟩, rfl, rfl, rfl⟩

theorem mem_names_of_hasAttribute {d : Document} {id : NodeId} {name : String}
    (h : d.hasAttribute id name = true) : name ∈ (d.attributes id).map (·.name) := by
  rw [Document.hasAttribute, Document.attribute?_eq, Option.isSome_map, List.find?_isSome] at h
  obtain ⟨a, ha, hn⟩ := h
  exact List.mem_map.2 ⟨a, ha, by simpa using hn⟩

/-- The attribute of a site is there. -/
theorem mem_names_of_site {d : Document} {s : Site} (h : s ∈ sitesOf d s.node) :
    s.name ∈ (d.attributes s.node).map (·.name) := by
  rcases (mem_sitesOf.1 h).2 with ⟨-, -, hh⟩ | ⟨-, hm, -⟩
  · rw [holdsExpression, Bool.and_eq_true] at hh
    exact mem_names_of_hasAttribute hh.1
  · exact hm

/-- No namespace declaration is lowered. -/
theorem not_declaration_of_site {d : Document} {s : Site} (h : s ∈ sitesOf d s.node) :
    isNamespaceDeclaration s.name = false := by
  rcases (mem_sitesOf.1 h).2 with ⟨-, hm, -⟩ | ⟨-, -, hh⟩
  · simp only [List.mem_cons, List.not_mem_nil, or_false] at hm
    rcases hm with hm | hm <;> rw [hm] <;> decide
  · rw [holdsTemplate] at hh
    split at hh
    · cases hh
    · rename_i hn
      exact Bool.eq_false_iff.2 hn

/-! ## What keeps the sites -/

/-- The same tree, in which the same names belong to the stylesheet language. -/
structure SameLanguage (d d' : Document) : Prop extends Document.SameTree d d' where
  lookup (id : NodeId) (qualifier : Option String) :
    d'.lookupNamespace id qualifier = some xslNamespace ↔
      d.lookupNamespace id qualifier = some xslNamespace

namespace SameLanguage

variable {d d' d'' : Document}

theorem refl (d : Document) : SameLanguage d d := ⟨.refl d, fun _ _ => .rfl⟩

theorem trans (h : SameLanguage d d') (h' : SameLanguage d' d'') : SameLanguage d d'' :=
  ⟨h.toSameTree.trans h'.toSameTree, fun id q => (h'.lookup id q).trans (h.lookup id q)⟩

theorem isInstruction (h : SameLanguage d d') (id : NodeId) :
    Stylesheet.isInstruction d' id = Stylesheet.isInstruction d id := by
  rw [Bool.eq_iff_iff, Stylesheet.isInstruction, Stylesheet.isInstruction, beq_iff_eq, beq_iff_eq]
  rcases h.element?_cases id with ⟨he, he'⟩ | ⟨e, e', he, he', hn⟩
  · simp [Document.namespaceOf?, he, he']
  · simp only [Document.namespaceOf?, he, he', Option.bind_some, Element.qualifier?, hn, h.lookup]

theorem isXslAttribute (h : SameLanguage d d') (id : NodeId) (name : String) :
    Stylesheet.isXslAttribute d' id name = Stylesheet.isXslAttribute d id name := by
  rw [Bool.eq_iff_iff, Stylesheet.isXslAttribute, Stylesheet.isXslAttribute]
  cases Text.cutAt ':' name with
  | none => rfl
  | some parts => simp [h.lookup]

theorem holdsTemplate (h : SameLanguage d d') (id : NodeId) (name : String) :
    Stylesheet.holdsTemplate d' id name = Stylesheet.holdsTemplate d id name := by
  simp only [Stylesheet.holdsTemplate, h.isInstruction, h.isXslAttribute, h.localName?]

end SameLanguage

theorem sameLanguage_of_sameScopes {d d' : Document} (h : Document.SameScopes d d') :
    SameLanguage d d' :=
  ⟨h.toSameTree, fun id q => by rw [h.lookupNamespace]⟩

/-- The two documents differ in nothing but values of attributes that declare no namespaces. -/
structure SameNames (d d' : Document) : Prop extends Document.SameScopes d d' where
  names (id : NodeId) : (d'.attributes id).map (·.name) = (d.attributes id).map (·.name)

theorem hasAttribute_iff {d : Document} {id : NodeId} {name : String} :
    d.hasAttribute id name = true ↔ name ∈ (d.attributes id).map (·.name) := by
  refine ⟨mem_names_of_hasAttribute, fun h => ?_⟩
  obtain ⟨a, ha, hname⟩ := List.mem_map.1 h
  rw [Document.hasAttribute, Document.attribute?_eq, Option.isSome_map, List.find?_isSome]
  exact ⟨a, ha, by simpa using hname⟩

namespace SameNames

variable {d d' d'' : Document}

theorem refl (d : Document) : SameNames d d := ⟨.refl d, fun _ => rfl⟩

theorem trans (h : SameNames d d') (h' : SameNames d' d'') : SameNames d d'' :=
  ⟨h.toSameScopes.trans h'.toSameScopes, fun id => (h'.names id).trans (h.names id)⟩

theorem hasAttribute (h : SameNames d d') (id : NodeId) (name : String) :
    d'.hasAttribute id name = d.hasAttribute id name := by
  rw [Bool.eq_iff_iff, hasAttribute_iff, hasAttribute_iff, h.names]

theorem holdsExpression (h : SameNames d d') (id : NodeId) (name : String) :
    Stylesheet.holdsExpression d' id name = Stylesheet.holdsExpression d id name := by
  rw [Stylesheet.holdsExpression, Stylesheet.holdsExpression, h.hasAttribute,
    (sameLanguage_of_sameScopes h.toSameScopes).isInstruction]

theorem holdsTemplate (h : SameNames d d') (id : NodeId) (name : String) :
    Stylesheet.holdsTemplate d' id name = Stylesheet.holdsTemplate d id name :=
  (sameLanguage_of_sameScopes h.toSameScopes).holdsTemplate id name

/-- The attribute at a site of the original document is still there. -/
theorem exists_value (h : SameNames d d') {s : Site} (hs : s ∈ sitesOf d s.node) :
    ∃ value, d'.attribute? s.node s.name = some value := by
  have hattribute : d'.hasAttribute s.node s.name = true := by
    rw [h.hasAttribute, hasAttribute_iff]
    exact mem_names_of_site hs
  exact Option.isSome_iff_exists.1 hattribute

end SameNames

theorem sameNames_setAttribute {d : Document} {id : NodeId} {name value : String}
    (hattribute : d.hasAttribute id name = true) (hn : isNamespaceDeclaration name = false) :
    SameNames d (d.setAttribute id name value) := by
  obtain ⟨old, ha⟩ := Option.isSome_iff_exists.1 hattribute
  have he : d.isElement id = true := Document.isElement_of_attribute? ha
  refine ⟨Document.sameScopes_setAttribute he hn, fun x => ?_⟩
  rw [Document.attributes_setAttribute he]
  split
  · rename_i hx
    subst hx
    rw [Element.map_name_setIn, if_pos (hasAttribute_iff.1 hattribute)]
  · rfl

/-! ## One site -/

variable (functions : FunctionMap)

/-- What the attribute at a site becomes. -/
def Site.lowered (d : Document) (s : Site) : Except Error String :=
  let value := (d.attribute? s.node s.name).getD ""
  match s.kind with
  | .expression => (compile functions ⟨d, s.node, none⟩ value).result.mapError .expression
  | .template =>
    (expandTemplate functions ⟨d, s.node, some s.name⟩ s.name value).result.map (·.getD value)

/-- Lowers the attribute at a site. -/
def Site.lower (s : Site) : Edit Document Error Unit :=
  match s.kind with
  | .expression => lowerExpression functions s.name s.node
  | .template => lowerTemplate functions s.name s.node

variable {functions}

/-- Lowering a site fails as working out its new value does, or sets its attribute to that value, or
leaves the attribute if it has the value. -/
theorem Site.lower_cases {s : Site} {d : Document} {value : String}
    (ha : d.attribute? s.node s.name = some value) :
    (∃ e, s.lowered functions d = .error e ∧ (s.lower functions).outcome d = (d, .error e)) ∨
    ∃ v, s.lowered functions d = .ok v ∧
      (v = value ∧ (s.lower functions).outcome d = (d, .ok ()) ∨
        (s.lower functions).outcome d = (d.setAttribute s.node s.name v, .ok ())) := by
  have he : d.isElement s.node = true := Document.isElement_of_attribute? ha
  obtain ⟨node, name, kind⟩ := s
  have ha : d.attribute? node name = some value := ha
  cases kind with
  | expression =>
    simp only [lower, lowerExpression, lowered, ha, Option.getD_some, Edit.outcome_bind,
      Edit.outcome_get, Edit.andThen_ok, Edit.outcome_ofAttempt, Attempt.result_mapError]
    cases (compile functions ⟨d, node, none⟩ value).result with
    | error e => exact .inl ⟨_, rfl, rfl⟩
    | ok compiled =>
      refine .inr ⟨compiled, rfl, ?_⟩
      rw [mapError_ok, Edit.andThen_ok]
      split
      · exact .inr (Document.outcome_assign he)
      · rename_i hsame
        exact .inl ⟨by simpa using hsame, rfl⟩
  | template =>
    simp only [lower, lowerTemplate, lowered, ha, Option.getD_some, Edit.outcome_bind,
      Edit.outcome_get, Edit.andThen_ok, Edit.outcome_ofAttempt]
    cases (expandTemplate functions ⟨d, node, some name⟩ name value).result with
    | error e => exact .inl ⟨_, rfl, rfl⟩
    | ok expanded =>
      refine .inr ⟨expanded.getD value, rfl, ?_⟩
      cases expanded with
      | none => exact .inl ⟨rfl, rfl⟩
      | some rendered => exact .inr (Document.outcome_assign he)

theorem Site.lower_eq_ok {s : Site} {d d' : Document} {value : String}
    (ha : d.attribute? s.node s.name = some value)
    (h : (s.lower functions).outcome d = (d', .ok ())) :
    ∃ v, s.lowered functions d = .ok v ∧
      (v = value ∧ d' = d ∨ d' = d.setAttribute s.node s.name v) := by
  rcases lower_cases ha with ⟨e, -, houtcome⟩ | ⟨v, hv, ⟨hsame, houtcome⟩ | houtcome⟩
  · cases houtcome.symm.trans h
  · exact ⟨v, hv, .inl ⟨hsame, (congrArg Prod.fst (houtcome.symm.trans h)).symm⟩⟩
  · exact ⟨v, hv, .inr (congrArg Prod.fst (houtcome.symm.trans h)).symm⟩

/-- Lowering a site of the original document. -/
theorem SameNames.lower {d d₁ d₂ : Document} (h : SameNames d d₁) {s : Site}
    (hs : s ∈ sitesOf d s.node) (hl : (s.lower functions).outcome d₁ = (d₂, .ok ())) :
    SameNames d d₂ := by
  obtain ⟨value, ha⟩ := h.exists_value hs
  obtain ⟨v, -, ⟨-, rfl⟩ | rfl⟩ := Site.lower_eq_ok ha hl
  · exact h
  · exact h.trans (sameNames_setAttribute (by rw [Document.hasAttribute, ha]; rfl)
      (not_declaration_of_site hs))

theorem SameNames.lowerAll {d d₁ d₂ : Document} (h : SameNames d d₁) {ss : List Site}
    (hs : ∀ s ∈ ss, s ∈ sitesOf d s.node)
    (hl : (ss.forM (Site.lower functions)).outcome d₁ = (d₂, .ok ())) : SameNames d d₂ :=
  Edit.invariant_forM (fun s hm _ _ h hl => h.lower (hs s hm) hl) h hl

/-! ## The walk as a loop over the sites -/

theorem map_filter_eq_flatMap {α β : Type} (p : α → Bool) (f : α → β) (as : List α) :
    (as.filter p).map f = as.flatMap fun a => if p a then [f a] else [] := by
  induction as with
  | nil => rfl
  | cons a as ih =>
    rw [List.flatMap_cons, ← ih]
    cases hp : p a <;> simp [hp]

theorem outcome_runIf (condition : Document → Bool) (edit : Edit Document Error Unit)
    (d : Document) : (Walk.runIf condition edit).outcome d =
      if condition d then edit.outcome d else (d, .ok ()) := by
  simp only [Walk.runIf, Edit.outcome_bind, Edit.outcome_get, Edit.andThen_ok]
  split <;> rfl

section Loop

variable {d d₁ : Document} (h : SameNames d d₁) (id : NodeId)

include h

/-- Tests and selections of an element. -/
theorem outcome_expressions_sites :
    (["test", "select"].forM fun name =>
        Walk.runIf (holdsExpression · id name) (lowerExpression functions name id)).outcome d₁ =
      (((["test", "select"].filter (holdsExpression d id)).map (⟨id, ·, .expression⟩)).forM
        (Site.lower functions)).outcome d₁ := by
  rw [map_filter_eq_flatMap]
  refine Edit.outcome_forM_flatMap (I := SameNames d) (fun name _ d₂ h₂ => ?_)
    (fun name hname s hs d₂ d₃ h₂ hl => h₂.lower ?_ hl) h
  · rw [outcome_runIf, h₂.holdsExpression]
    split
    · rw [Edit.outcome_forM_cons]
      exact (Edit.andThen_return _).symm
    · rfl
  · split at hs
    · rename_i hholds
      obtain rfl := List.mem_singleton.1 hs
      exact mem_sitesOf.2 ⟨rfl, .inl ⟨rfl, hname, hholds⟩⟩
    · cases hs

/-- Templates among the attributes of an element. -/
theorem outcome_templates_sites :
    ((d₁.attributes id).forM fun a => Walk.visitTemplate functions id a.name 1).outcome d₁ =
      (((((d.attributes id).map (·.name)).filter (holdsTemplate d id)).map
        (⟨id, ·, .template⟩)).forM (Site.lower functions)).outcome d₁ := by
  rw [map_filter_eq_flatMap, ← h.names, List.flatMap_map]
  refine Edit.outcome_forM_flatMap (I := SameNames d) (fun a _ d₂ h₂ => ?_)
    (fun a ha s hs d₂ d₃ h₂ hl => h₂.lower ?_ hl) h
  · rw [Walk.visitTemplate, Edit.outcome_bind, outcome_runIf, h₂.holdsTemplate]
    split
    · rw [Edit.outcome_forM_cons]
      rfl
    · rfl
  · split at hs
    · rename_i hholds
      obtain rfl := List.mem_singleton.1 hs
      have hname : a.name ∈ (d.attributes id).map (·.name) :=
        h.names id ▸ List.mem_map.2 ⟨a, ha, rfl⟩
      exact mem_sitesOf.2 ⟨rfl, .inr ⟨rfl, hname, hholds⟩⟩
    · cases hs

/-- A visit of an element lowers its sites, one after the other. -/
theorem outcome_visit_sites :
    (Walk.standard.visit functions id).outcome d₁ =
      ((sitesOf d id).forM (Site.lower functions)).outcome d₁ := by
  rw [sitesOf, Edit.outcome_forM_append, Walk.visit, Edit.outcome_bind]
  simp only [Walk.standard]
  rw [outcome_expressions_sites h]
  cases hloop : (((["test", "select"].filter (holdsExpression d id)).map (⟨id, ·, .expression⟩)).forM
      (Site.lower functions)).outcome d₁ with
  | mk d₂ result =>
    cases result with
    | error e => rfl
    | ok u =>
      have h₂ : SameNames d d₂ := by
        refine h.lowerAll (fun s hs => ?_) hloop
        have hs : s ∈ sitesOf d id := List.mem_append_left _ hs
        rwa [(mem_sitesOf.1 hs).1]
      rw [Edit.andThen_ok, Edit.andThen_ok, Edit.outcome_bind, Edit.outcome_get, Edit.andThen_ok]
      exact outcome_templates_sites h₂ id

end Loop

/-- The walk lowers the sites of the original document, one after the other. -/
theorem outcome_run_sites (d : Document) : (Walk.standard.run functions).outcome d =
    ((sites d).forM (Site.lower functions)).outcome d := by
  have hloop : (d.elements.forM (Walk.standard.visit functions)).outcome d =
      ((sites d).forM (Site.lower functions)).outcome d := by
    refine Edit.outcome_forM_flatMap (I := SameNames d)
      (fun id _ d₁ h => outcome_visit_sites h id) (fun id _ s hs d₁ d₂ h hl => h.lower ?_ hl) (.refl d)
    rwa [(mem_sitesOf.1 hs).1]
  simp only [Walk.run, Edit.outcome_bind, Edit.outcome_get, Edit.andThen_ok, Edit.outcome_note, hloop]

end XslLowering.Stylesheet
