import XslLowering.Proofs.Stylesheet.PointwiseWalk

/-!
# Walking again

Once a document has been walked, what its sites hold stays as it is (`Lowered`), and another walk
changes nothing:

* `lowered_lowerSites`: a walk that succeeds leaves a lowered document behind, unless an expression in
  a template starts with a brace (`BraceFree`);
* `SameSites`: another document has the same sites with the same values, so it is lowered as well;
  setting an attribute that can be no site gives such a document (`sameSites_setAttribute`);
* `outcome_run_of_lowered`: a walk leaves a lowered document as it is.
-/

namespace XslLowering.Stylesheet

open Expression (Place)

/-! ## Documents with the same sites -/

/-- Whether an attribute of this name would be a site. -/
def isSiteName (d : Document) (id : NodeId) (name : String) : Bool :=
  ["test", "select"].contains name && isInstruction d id || holdsTemplate d id name

theorem isSiteName_of_site {d : Document} {s : Site} (h : s ∈ sitesOf d s.node) :
    isSiteName d s.node s.name = true := by
  rw [isSiteName, Bool.or_eq_true, Bool.and_eq_true]
  rcases (mem_sitesOf.1 h).2 with ⟨-, hm, hh⟩ | ⟨-, -, hh⟩
  · rw [holdsExpression, Bool.and_eq_true] at hh
    exact .inl ⟨by simpa using hm, hh.2⟩
  · exact .inr hh

theorem sites_congr {d d' : Document} (ht : Document.SameTree d d')
    (h : ∀ id, sitesOf d' id = sitesOf d id) : sites d' = sites d := by
  rw [sites, sites, ht.elements]
  congr 1
  exact funext h

/-- The same sites with the same values. -/
structure SameSites (d d' : Document) : Prop extends SameLanguage d d' where
  sitesOf (id : NodeId) : sitesOf d' id = sitesOf d id
  value {s : Site} : s ∈ Stylesheet.sitesOf d s.node →
    d'.attribute? s.node s.name = d.attribute? s.node s.name

namespace SameSites

variable {d d' d'' : Document}

theorem refl (d : Document) : SameSites d d := ⟨.refl d, fun _ => rfl, fun _ => rfl⟩

theorem trans (h : SameSites d d') (h' : SameSites d' d'') : SameSites d d'' := by
  refine ⟨h.toSameLanguage.trans h'.toSameLanguage, fun id => (h'.sitesOf id).trans (h.sitesOf id),
    fun {s} hs => ?_⟩
  rw [h'.value (by rwa [h.sitesOf]), h.value hs]

theorem sites (h : SameSites d d') : Stylesheet.sites d' = Stylesheet.sites d :=
  sites_congr h.toSameTree h.sitesOf

end SameSites

/-- Sites are made out by the language, the attributes that hold expressions and the names of the
attributes that hold templates. -/
theorem sitesOf_congr {d d' : Document} (hl : SameLanguage d d') {id : NodeId}
    (he : ∀ name ∈ ["test", "select"], holdsExpression d' id name = holdsExpression d id name)
    (ht : ((d'.attributes id).map (·.name)).filter (holdsTemplate d id) =
      ((d.attributes id).map (·.name)).filter (holdsTemplate d id)) :
    sitesOf d' id = sitesOf d id := by
  have htemplate : holdsTemplate d' id = holdsTemplate d id := funext (hl.holdsTemplate id)
  rw [sitesOf, sitesOf, List.filter_congr he, htemplate, ht]

/-- Setting an attribute that can be no site. -/
theorem sameSites_setAttribute {d : Document} {id : NodeId} {name value : String}
    (he : d.isElement id = true) (hl : SameLanguage d (d.setAttribute id name value))
    (hn : isSiteName d id name = false) : SameSites d (d.setAttribute id name value) := by
  refine ⟨hl, fun x => sitesOf_congr hl (fun n hm => ?_) ?_, fun {s} hs => ?_⟩
  · rw [holdsExpression, holdsExpression, Document.hasAttribute, Document.hasAttribute,
      Document.attribute?_setAttribute he, hl.isInstruction]
    by_cases hx : id = x ∧ name = n
    · obtain ⟨rfl, rfl⟩ := hx
      have hcontains : ["test", "select"].contains name = true := by simpa using hm
      rw [isSiteName, hcontains, Bool.true_and, Bool.or_eq_false_iff] at hn
      rw [hn.1, Bool.and_false, Bool.and_false]
    · rw [if_neg hx]
  · rw [Document.attributes_setAttribute he]
    split
    · rename_i hx
      subst hx
      rw [isSiteName, Bool.or_eq_false_iff] at hn
      rw [Element.map_name_setIn]
      split
      · rfl
      · simp [hn.2]
    · rfl
  · rw [Document.attribute?_setAttribute he, if_neg]
    rintro ⟨rfl, rfl⟩
    rw [isSiteName_of_site hs] at hn
    cases hn

/-! ## Values that stay as they are -/

/-- Whether a part of a template is an expression that starts with a brace. -/
def startsWithBrace : TemplatePart → Bool
  | .literal _ => false
  | .expression text => (text.dropWhile Text.isSpace).head? == some '\x7b'

/-- No expression in a template starts with a brace. -/
def BraceFree (d : Document) : Prop :=
  ∀ s ∈ sites d, s.kind = .template → ∀ value ∈ d.attribute? s.node s.name,
    ∀ t ∈ (ValueTemplate.parse value).toOption, ∀ part ∈ t.parts, startsWithBrace part = false

instance (d : Document) : Decidable (BraceFree d) :=
  inferInstanceAs (Decidable (∀ s ∈ sites d, s.kind = .template →
    ∀ value ∈ d.attribute? s.node s.name, ∀ t ∈ (ValueTemplate.parse value).toOption,
      ∀ part ∈ t.parts, startsWithBrace part = false))

variable (functions : FunctionMap)

/-- Every site holds a value that is lowered to itself, wherever it stands. -/
def Lowered (d : Document) : Prop :=
  ∀ s ∈ sites d, ∃ v, d.attribute? s.node s.name = some v ∧
    ∀ d' : Document, d'.attribute? s.node s.name = some v → s.lowered functions d' = .ok v

variable {functions}

theorem Lowered.of_sameSites {d d' : Document} (h : Lowered functions d) (hs : SameSites d d') :
    Lowered functions d' := by
  intro s hm
  rw [hs.sites] at hm
  obtain ⟨v, hv, hlowered⟩ := h s hm
  obtain ⟨id, -, hsite⟩ := List.mem_flatMap.1 hm
  refine ⟨v, ?_, hlowered⟩
  rw [hs.value (by rwa [(mem_sitesOf.1 hsite).1]), hv]

/-- A walk leaves a lowered document as it is. -/
theorem outcome_run_of_lowered {d : Document} (hd : d.WellFormed) (hf : functions.Plain)
    (h : Lowered functions d) : (Walk.standard.run functions).outcome d = (d, .ok ()) := by
  have hsites : ∀ s ∈ sites d, ∃ v, s.lowered functions d = .ok v := fun s hs => by
    obtain ⟨v, hv, hlowered⟩ := h s hs
    exact ⟨v, hlowered d hv⟩
  have hself : lowerSites functions d (sites d) = d := by
    refine Document.mapValues_eq_self fun id a ha => ?_
    cases hfind : (sites d).find? (·.key = (id, a.name)) with
    | none => rfl
    | some s =>
      obtain ⟨rfl, hname⟩ : s.node = id ∧ s.name = a.name := by
        simpa [Site.key] using List.find?_some hfind
      obtain ⟨v, hv, hlowered⟩ := h s (List.mem_of_find?_eq_some hfind)
      have hvalue : some a.value = some v := by rw [← hd.attribute?_of_mem ha, ← hname, hv]
      cases hvalue
      simp [hlowered d hv, Except.toOption]
  rw [outcome_run_standard hd hf, advance_of_lowered hsites, List.nil_append, hself]

/-- The attribute of a site that is lowered. -/
theorem attribute?_lowerSites_of_mem {d : Document} {ss : List Site} (h : Distinct d ss) {s : Site}
    (hs : s ∈ ss) {v : String} (hv : s.lowered functions d = .ok v) :
    (lowerSites functions d ss).attribute? s.node s.name = some v := by
  obtain ⟨a, ha, hname⟩ := List.mem_map.1 (mem_names_of_site (h.1 s hs))
  obtain ⟨b, hb⟩ : ∃ b, (d.attributes s.node).find? (·.name == s.name) = some b := by
    rw [← Option.isSome_iff_exists, List.find?_isSome]
    exact ⟨a, ha, by simpa using hname⟩
  have hbname : b.name = s.name := by simpa using List.find?_some hb
  obtain ⟨t, ht⟩ : ∃ t, ss.find? (·.key = (s.node, b.name)) = some t := by
    rw [← Option.isSome_iff_exists, List.find?_isSome]
    exact ⟨s, hs, by simp [Site.key, hbname]⟩
  have hkey : t.key = s.key := by simpa [Site.key, hbname] using List.find?_some ht
  have hst : t = s := List.inj_on_of_nodup_map h.2 (List.mem_of_find?_eq_some ht) hs hkey
  rw [lowerSites, Document.attribute?_mapValues, hb]
  simp [ht, hst, hv, Except.toOption]

section

variable (hf : functions.Plain) (hn : ∀ name ∈ loweredCallees, functions.get? name = none)

include hf hn

/-- What a site becomes is lowered to itself. -/
theorem lowered_of_lowered {d d' : Document} {s : Site} {value v : String}
    (hvalue : d.attribute? s.node s.name = some value)
    (hlead : s.kind = .template → ∀ t ∈ (ValueTemplate.parse value).toOption,
      ∀ part ∈ t.parts, startsWithBrace part = false)
    (h : s.lowered functions d = .ok v) (hv : d'.attribute? s.node s.name = some v) :
    s.lowered functions d' = .ok v := by
  obtain ⟨node, name, kind⟩ := s
  simp only [Site.lowered] at hvalue hv h ⊢
  rw [hvalue, Option.getD_some] at h
  rw [hv, Option.getD_some]
  cases kind with
  | expression =>
    simp only [] at h ⊢
    cases hc : (compile functions ⟨d, node, none⟩ value).result with
    | error e =>
      rw [hc] at h
      cases h
    | ok compiled =>
      rw [hc] at h
      cases h
      rw [compile_compile (get?_replacementCallees hn) hf hc]
      rfl
  | template =>
    obtain ⟨expanded, he, rfl⟩ := exists_of_map_eq_ok h
    have hbrace : ∀ t, ValueTemplate.parse value = .ok t → ∀ text, .expression text ∈ t.parts →
        (text.dropWhile Text.isSpace).head? ≠ some '\x7b' := fun t ht text hm => by
      have hpart := hlead rfl t (by rw [ht]; rfl) _ hm
      simpa [startsWithBrace] using hpart
    rw [expandTemplate_expandTemplate hf hn hbrace he]
    cases expanded <;> rfl

/-- A walk that succeeds leaves a lowered document behind. -/
theorem lowered_lowerSites {d : Document} (hd : d.WellFormed) (hb : BraceFree d)
    (h : ∀ s ∈ sites d, ∃ v, s.lowered functions d = .ok v) :
    Lowered functions (lowerSites functions d (sites d)) := by
  have hdistinct := distinct_sites hd
  have hsites : sites (lowerSites functions d (sites d)) = sites d := by
    have hl : SameLanguage d (lowerSites functions d (sites d)) :=
      sameLanguage_lowerSites hdistinct.1
    refine sites_congr hl.toSameTree fun id => ?_
    refine sitesOf_congr hl (fun name _ => holdsExpression_lowerSites hdistinct.1 id name) ?_
    rw [lowerSites, Document.map_name_mapValues]
  intro s hs
  rw [hsites] at hs
  obtain ⟨v, hv⟩ := h s hs
  refine ⟨v, attribute?_lowerSites_of_mem hdistinct hs hv, fun d' hd' => ?_⟩
  obtain ⟨value, hvalue⟩ := exists_value_of_site hd (hdistinct.1 s hs)
  exact lowered_of_lowered hf hn hvalue (fun hk => hb s hs hk value hvalue) hv hd'

end

end XslLowering.Stylesheet
