import XslLowering.Proofs.Document.DocumentOrder
import XslLowering.Proofs.Stylesheet.Lowering
import XslLowering.Proofs.Stylesheet.Sites
import XslLowering.Proofs.Stylesheet.Templates

/-!
# The walk as a pointwise change

A walk changes a document while it reads it. What it reads to lower one attribute, it has not changed
before: the tree, the namespaces in scope and the names of groupings. So every attribute gets the
value that it would get in the original document.

* `lowerSites d ss`: the original document with the attributes at some sites lowered;
* `outcome_lower`: lowering one more site, as it is in the original document;
* `outcome_run_standard`: so the walk, which is a loop over the sites, lowers them one after the other;
* `standard_walk_is_pointwise`: what that means for documents that were read.
-/

namespace XslLowering.Stylesheet

open Expression (Place)

/-! ## Documents with lowered sites -/

variable (functions : FunctionMap)

/-- The document with the attributes at some sites lowered, all as they are in the document. -/
def lowerSites (d : Document) (ss : List Site) : Document :=
  d.mapValues fun id a =>
    match ss.find? (·.key = (id, a.name)) with
    | none => a.value
    | some s => (s.lowered functions d).toOption.getD a.value

/-- Lowers the sites `ss` after the sites `done`, up to the first one that fails. -/
def advance (d : Document) (done : List Site) : List Site → Document × Except Error Unit
  | [] => (lowerSites functions d done, .ok ())
  | s :: ss =>
    match s.lowered functions d with
    | .error e => (lowerSites functions d done, .error e)
    | .ok _ => advance d (done ++ [s]) ss

/-- Lowering some sites and then others. -/
theorem advance_append (d : Document) (done ss ts : List Site) :
    advance functions d done (ss ++ ts) =
      Edit.andThen (advance functions d done ss) fun _ _ => advance functions d (done ++ ss) ts := by
  induction ss generalizing done with
  | nil => simp [advance]
  | cons s ss ih =>
    simp only [List.cons_append, advance]
    cases s.lowered functions d with
    | error e => rfl
    | ok v => simp [ih]

variable {functions}

theorem advance_of_lowered {d : Document} {done ss : List Site}
    (h : ∀ s ∈ ss, ∃ v, s.lowered functions d = .ok v) :
    advance functions d done ss = (lowerSites functions d (done ++ ss), .ok ()) := by
  induction ss generalizing done with
  | nil => simp [advance]
  | cons s ss ih =>
    rw [List.forall_mem_cons] at h
    obtain ⟨⟨v, hv⟩, hss⟩ := h
    simp [advance, hv, ih hss]

theorem advance_of_first_error {d : Document} {before after : List Site} {s : Site} {e : Error}
    (hb : ∀ t ∈ before, ∃ v, t.lowered functions d = .ok v) (hs : s.lowered functions d = .error e) :
    advance functions d [] (before ++ s :: after) = (lowerSites functions d before, .error e) := by
  rw [advance_append, advance_of_lowered hb]
  simp [advance, hs]

theorem lowered_of_advance {d : Document} {done ss : List Site}
    (h : (advance functions d done ss).2 = .ok ()) : ∀ s ∈ ss, ∃ v, s.lowered functions d = .ok v := by
  induction ss generalizing done with
  | nil => simp
  | cons s ss ih =>
    rw [advance] at h
    cases hs : s.lowered functions d with
    | error e =>
      rw [hs] at h
      cases h
    | ok v =>
      rw [hs] at h
      exact List.forall_mem_cons.2 ⟨⟨v, hs⟩, ih h⟩

theorem advance_eq_ok {d d' : Document} {done ss : List Site}
    (h : advance functions d done ss = (d', .ok ())) :
    d' = lowerSites functions d (done ++ ss) := by
  have hlowered := lowered_of_advance (congrArg Prod.snd h)
  rw [advance_of_lowered hlowered] at h
  exact (congrArg Prod.fst h).symm

/-- On instructions, other attributes than those of `templateAttributes` hold no templates. -/
theorem holdsTemplate_of_isInstruction {d : Document} {id : NodeId} {name : String}
    (hi : isInstruction d id = true)
    (h : ∀ instruction, templateAttributes.contains (instruction, name) = false) :
    holdsTemplate d id name = false := by
  rw [holdsTemplate, hi]
  split
  · rfl
  · simp only [↓reduceIte]
    split
    · rfl
    · exact h _

/-- What an instruction names its grouping by is not lowered. -/
theorem ne_group_id_of_site {d : Document} {s : Site} (h : s ∈ sitesOf d s.node)
    (hi : isInstruction d s.node = true) : s.name ≠ "group-id" := by
  intro hn
  rcases (mem_sitesOf.1 h).2 with ⟨-, hm, -⟩ | ⟨-, -, hh⟩
  · rw [hn] at hm
    exact absurd hm (by decide)
  · rw [hn, holdsTemplate_of_isInstruction hi (by simp [templateAttributes])] at hh
    cases hh

/-! ## What the sites leave alone -/

theorem find?_key_eq_none {ss : List Site} {key : NodeId × String} (h : key ∉ ss.map Site.key) :
    ss.find? (·.key = key) = none := by
  rw [List.find?_eq_none]
  intro s hs hk
  exact h (List.mem_map.2 ⟨s, hs, by simpa using hk⟩)

/-- Attributes that no site is about keep their values. -/
theorem attribute?_lowerSites {d : Document} {ss : List Site} {id : NodeId} {name : String}
    (h : (id, name) ∉ ss.map Site.key) :
    (lowerSites functions d ss).attribute? id name = d.attribute? id name := by
  rw [lowerSites, Document.attribute?_mapValues, Document.attribute?_eq]
  cases hf : (d.attributes id).find? (·.name == name) with
  | none => rfl
  | some a =>
    have ha : a.name = name := by simpa using List.find?_some hf
    have hnone : ss.find? (·.key = (id, a.name)) = none := find?_key_eq_none (by rwa [ha])
    simp [hnone]

theorem groupingAncestor_congr {d d' : Document} (h : SameLanguage d d')
    (hg : ∀ id, isInstruction d id = true →
      d'.attribute? id "group-id" = d.attribute? id "group-id")
    (id : NodeId) (name : Option String) :
    groupingAncestor ⟨d', id, name⟩ = groupingAncestor ⟨d, id, name⟩ := by
  have henclosing : (Place.mk d' id name).enclosing = (Place.mk d id name).enclosing := by
    simp only [Place.enclosing, h.ancestors]
  rw [groupingAncestor, groupingAncestor, henclosing]
  congr 1
  funext node
  simp only [h.localName?, h.isInstruction]
  cases hi : isInstruction d node with
  | false => simp
  | true => simp only [hg node hi]

theorem sameLanguage_lowerSites {d : Document} {ss : List Site}
    (h : ∀ s ∈ ss, s ∈ sitesOf d s.node) : SameLanguage d (lowerSites functions d ss) := by
  refine sameLanguage_of_sameScopes ⟨Document.sameTree_mapValues d _, fun id name hn => ?_⟩
  refine attribute?_lowerSites fun hm => ?_
  obtain ⟨s, hs, hk⟩ := List.mem_map.1 hm
  cases hk
  rw [not_declaration_of_site (h s hs)] at hn
  cases hn

theorem holdsExpression_lowerSites {d : Document} {ss : List Site}
    (h : ∀ s ∈ ss, s ∈ sitesOf d s.node) (id : NodeId) (name : String) :
    holdsExpression (lowerSites functions d ss) id name = holdsExpression d id name := by
  have hattribute : (lowerSites functions d ss).hasAttribute id name = d.hasAttribute id name := by
    rw [Document.hasAttribute, Document.hasAttribute, lowerSites, Document.attribute?_mapValues,
      Document.attribute?_eq, Option.isSome_map, Option.isSome_map]
  rw [holdsExpression, holdsExpression, hattribute, (sameLanguage_lowerSites h).isInstruction]

theorem groupingAncestor_lowerSites {d : Document} {ss : List Site}
    (h : ∀ s ∈ ss, s ∈ sitesOf d s.node) (id : NodeId) (name : Option String) :
    groupingAncestor ⟨lowerSites functions d ss, id, name⟩ = groupingAncestor ⟨d, id, name⟩ := by
  refine groupingAncestor_congr (sameLanguage_lowerSites h) (fun x hx => ?_) id name
  refine attribute?_lowerSites fun hm => ?_
  obtain ⟨s, hs, hk⟩ := List.mem_map.1 hm
  have hnode : s.node = x := congrArg Prod.fst hk
  have hname : s.name = "group-id" := congrArg Prod.snd hk
  exact ne_group_id_of_site (h s hs) (hnode ▸ hx) hname

theorem expandTemplate_congr {place place' : Place}
    (h : groupingAncestor place = groupingAncestor place') (hf : functions.Plain)
    (name value : String) :
    (expandTemplate functions place name value).result =
      (expandTemplate functions place' name value).result := by
  simp only [result_expandTemplate, compile_congr h hf]

/-! ## One site -/

/-- A site becomes what it becomes in the original document, as long as its attribute is not lowered. -/
theorem lowered_of_not_mem {d : Document} (hf : functions.Plain) {done : List Site}
    (hdone : ∀ s ∈ done, s ∈ sitesOf d s.node) {s : Site} (hnew : s.key ∉ done.map Site.key) :
    s.lowered functions (lowerSites functions d done) = s.lowered functions d := by
  obtain ⟨node, name, kind⟩ := s
  have hvalue : (lowerSites functions d done).attribute? node name = d.attribute? node name :=
    attribute?_lowerSites hnew
  cases kind with
  | expression =>
    simp only [Site.lowered, hvalue, compile_congr (groupingAncestor_lowerSites hdone node none) hf]
  | template =>
    simp only [Site.lowered, hvalue,
      expandTemplate_congr (groupingAncestor_lowerSites hdone node (some name)) hf]

section Step

variable {d : Document} (hd : d.WellFormed) (hf : functions.Plain) {done : List Site}
  (hdone : ∀ s ∈ done, s ∈ sitesOf d s.node)

include hd

/-- Another site that is lowered sets its attribute. -/
theorem lowerSites_append {s : Site} {v : String} (hs : s ∈ sitesOf d s.node)
    (hnew : s.key ∉ done.map Site.key) (hv : s.lowered functions d = .ok v) :
    lowerSites functions d (done ++ [s]) =
      (lowerSites functions d done).setAttribute s.node s.name v := by
  rw [lowerSites, lowerSites, Document.setAttribute_mapValues (hd.nodup_attributes s.node)
    (mem_names_of_site hs)]
  refine Document.mapValues_congr fun id a _ => ?_
  by_cases hk : s.node = id ∧ a.name = s.name
  · have hkey : s.key = (id, a.name) := Prod.ext hk.1 hk.2.symm
    have hnone : done.find? (·.key = (id, a.name)) = none := find?_key_eq_none (hkey ▸ hnew)
    rw [if_pos hk]
    simp [List.find?_append, hnone, hkey, hv, Except.toOption]
  · have hkey : s.key ≠ (id, a.name) := fun he =>
      hk ⟨congrArg Prod.fst he, (congrArg Prod.snd he).symm⟩
    rw [if_neg hk]
    simp [List.find?_append, hkey]

/-- A site whose attribute stays as it is changes nothing. -/
theorem lowerSites_append_self {s : Site} {v : String} (hnew : s.key ∉ done.map Site.key)
    (hv : s.lowered functions d = .ok v) (ha : d.attribute? s.node s.name = some v) :
    lowerSites functions d (done ++ [s]) = lowerSites functions d done := by
  refine Document.mapValues_congr fun id a hm => ?_
  by_cases hkey : s.key = (id, a.name)
  · have hnone : done.find? (·.key = (id, a.name)) = none := find?_key_eq_none (hkey ▸ hnew)
    have hvalue : a.value = v := by
      obtain ⟨hnode, hname⟩ : s.node = id ∧ s.name = a.name :=
        ⟨congrArg Prod.fst hkey, congrArg Prod.snd hkey⟩
      rw [hnode, hname, hd.attribute?_of_mem hm] at ha
      exact Option.some.inj ha
    simp [List.find?_append, hnone, hkey, hv, Except.toOption, hvalue]
  · simp [List.find?_append, hkey]

/-- The value of the attribute of a site. -/
theorem exists_value_of_site {s : Site} (hs : s ∈ sitesOf d s.node) :
    ∃ value, d.attribute? s.node s.name = some value := by
  obtain ⟨a, ha, hname⟩ := List.mem_map.1 (mem_names_of_site hs)
  exact ⟨a.value, hname ▸ hd.attribute?_of_mem ha⟩

include hf hdone

/-- Lowering one more site of a document. -/
theorem outcome_lower {s : Site} (hs : s ∈ sitesOf d s.node) (hnew : s.key ∉ done.map Site.key) :
    (s.lower functions).outcome (lowerSites functions d done) = advance functions d done [s] := by
  obtain ⟨value, hvalue⟩ := exists_value_of_site hd hs
  have hlowered := lowered_of_not_mem hf hdone hnew
  have ha : (lowerSites functions d done).attribute? s.node s.name = some value :=
    (attribute?_lowerSites hnew).trans hvalue
  rw [advance]
  rcases Site.lower_cases ha with ⟨e, he, houtcome⟩ | ⟨v, hv, ⟨rfl, houtcome⟩ | houtcome⟩
  · rw [← hlowered, he, houtcome]
  · rw [hlowered] at hv
    rw [houtcome, hv, ← lowerSites_append_self hd hnew hv hvalue]
    rfl
  · rw [hlowered] at hv
    rw [houtcome, hv, ← lowerSites_append hd hs hnew hv]
    rfl

end Step

/-! ## The walk -/

/-- Sites of a document, each attribute at most once. -/
def Distinct (d : Document) (ss : List Site) : Prop :=
  (∀ s ∈ ss, s ∈ sitesOf d s.node) ∧ (ss.map Site.key).Nodup

theorem Distinct.left {d : Document} {ss ts : List Site} (h : Distinct d (ss ++ ts)) :
    Distinct d ss := by
  obtain ⟨hs, hn⟩ := h
  rw [List.map_append] at hn
  exact ⟨fun s hm => hs s (List.mem_append_left _ hm), (List.nodup_append.1 hn).1⟩

theorem Distinct.not_mem {d : Document} {ss : List Site} {s : Site} (h : Distinct d (ss ++ [s])) :
    s.key ∉ ss.map Site.key := by
  have hn := h.2
  rw [List.map_append, List.nodup_append] at hn
  exact fun hm => hn.2.2 _ hm _ (by simp) rfl

/-- A loop over sites lowers them one after the other. -/
theorem outcome_forM_lower {d : Document} (hd : d.WellFormed) (hf : functions.Plain)
    {done ss : List Site} (h : Distinct d (done ++ ss)) :
    (ss.forM (Site.lower functions)).outcome (lowerSites functions d done) =
      advance functions d done ss := by
  induction ss generalizing done with
  | nil => rfl
  | cons s ss ih =>
    rw [← List.singleton_append, ← List.append_assoc] at h
    have hs := h.left.1 s (List.mem_append_right _ (List.mem_singleton_self s))
    rw [← List.singleton_append, advance_append, List.singleton_append, Edit.outcome_forM_cons,
      outcome_lower hd hf h.left.left.1 hs h.left.not_mem]
    cases hadvance : advance functions d done [s] with
    | mk d' result =>
      cases result with
      | error e => rfl
      | ok u => rw [Edit.andThen_ok, Edit.andThen_ok, advance_eq_ok hadvance, ih h]

theorem lowerSites_nil (d : Document) : lowerSites functions d [] = d :=
  Document.mapValues_eq_self fun _ _ _ => rfl

/-- Attributes of instructions that hold templates hold no expressions. -/
theorem holdsTemplate_eq_false {d : Document} {id : NodeId} {name : String}
    (hname : name ∈ ["test", "select"]) (hi : isInstruction d id = true) :
    holdsTemplate d id name = false := by
  refine holdsTemplate_of_isInstruction hi fun instruction => ?_
  simp only [List.mem_cons, List.not_mem_nil, or_false] at hname
  rcases hname with rfl | rfl <;> simp [templateAttributes]

theorem map_key_sitesOf (d : Document) (id : NodeId) :
    (sitesOf d id).map Site.key = (["test", "select"].filter (holdsExpression d id) ++
      ((d.attributes id).map (·.name)).filter (holdsTemplate d id)).map fun name => (id, name) := by
  rw [sitesOf, List.map_append, List.map_append, List.map_map, List.map_map]
  rfl

/-- An attribute of an element is lowered in one way only. -/
theorem nodup_sitesOf {d : Document} (hd : d.WellFormed) (id : NodeId) :
    ((sitesOf d id).map Site.key).Nodup := by
  rw [map_key_sitesOf]
  refine List.Nodup.map (fun a b h => (Prod.mk.inj h).2) ?_
  rw [List.nodup_append]
  refine ⟨List.Nodup.filter _ (by decide), (hd.nodup_attributes id).filter _, ?_⟩
  rintro name hexpression _ htemplate rfl
  obtain ⟨hname, hholds⟩ := List.mem_filter.1 hexpression
  rw [holdsExpression, Bool.and_eq_true] at hholds
  have := (List.mem_filter.1 htemplate).2
  rw [holdsTemplate_eq_false hname hholds.2] at this
  cases this

theorem distinct_sites {d : Document} (hd : d.WellFormed) : Distinct d (sites d) := by
  refine ⟨fun s hs => ?_, ?_⟩
  · obtain ⟨id, -, hs⟩ := List.mem_flatMap.1 hs
    rwa [(mem_sitesOf.1 hs).1]
  · rw [sites, List.map_flatMap, List.nodup_flatMap]
    refine ⟨fun id _ => nodup_sitesOf hd id, hd.nodup_elements.imp fun {a b} hne => ?_⟩
    -- Sites of different elements are about different elements.
    have hnode {id : NodeId} {key : NodeId × String} (h : key ∈ (sitesOf d id).map Site.key) :
        key.1 = id := by
      obtain ⟨s, hs, rfl⟩ := List.mem_map.1 h
      exact (mem_sitesOf.1 hs).1
    exact fun key ha hb => hne ((hnode ha).symm.trans (hnode hb))

/-- The walk goes through the sites, up to the first one that fails. -/
theorem outcome_run_standard {d : Document} (hd : d.WellFormed) (hf : functions.Plain) :
    (Walk.standard.run functions).outcome d = advance functions d [] (sites d) := by
  have h := @outcome_forM_lower functions d hd hf [] (sites d) (distinct_sites hd)
  rwa [lowerSites_nil, ← outcome_run_sites] at h

/-- The walk lowers every site once and as it is in the original document. It succeeds exactly if
every site can be lowered there; otherwise it fails as the first of the others does, and leaves the
sites before that one lowered. -/
theorem standard_walk_is_pointwise {registry : Callback.Registry}
    (hf : functions.BuiltFrom registry) {source : String} {d : Document}
    (hd : (Document.parse source).result = .ok d) :
    ((sites d).map Site.key).Nodup ∧
      (((Walk.standard.run functions).outcome d).2 = .ok () ↔
        ∀ s ∈ sites d, ∃ v, s.lowered functions d = .ok v) ∧
      (((Walk.standard.run functions).outcome d).2 = .ok () →
        ((Walk.standard.run functions).outcome d).1 = lowerSites functions d (sites d)) ∧
      ∀ before s after e, sites d = before ++ s :: after →
        (∀ t ∈ before, ∃ v, t.lowered functions d = .ok v) → s.lowered functions d = .error e →
        (Walk.standard.run functions).outcome d = (lowerSites functions d before, .error e) := by
  have hwf := Document.wellFormed_of_parse hd
  rw [outcome_run_standard hwf hf.plain]
  refine ⟨(distinct_sites hwf).2, ⟨lowered_of_advance, fun h => ?_⟩, fun h => ?_, ?_⟩
  · rw [advance_of_lowered h]
  · rw [advance_of_lowered (lowered_of_advance h)]
    rfl
  · intro before s after e hsites hb hs
    rw [hsites, advance_of_first_error hb hs]

/-- Inside a grouping, a template that can be lowered before one that cannot. -/
theorem walk_stops_at_open_brace :
    ∃ functions d,
      FunctionMap.BuiltFrom Callback.Registry.empty functions ∧
      (Document.parse ("<x:for-each xmlns:x='http://www.w3.org/1999/XSL/Transform' group-id='g'>" ++
        "<a b='\x7bcurrent-grouping-key()\x7d' c='\x7b'/></x:for-each>")).result = .ok d ∧
      (Walk.standard.run functions).outcome d =
        (lowerSites functions d [⟨2, "b", .template⟩],
          .error (.template "c" "\x7b" .unclosedBrace)) ∧
      (lowerSites functions d [⟨2, "b", .template⟩]).attributes 2 =
        [⟨"b", "\x7bstring($current-group-g/@key)\x7d"⟩, ⟨"c", "\x7b"⟩] := by
  have hf : FunctionMap.BuiltFrom Callback.Registry.empty
      ⟨⟨[("current-group", .currentGroup), ("current-grouping-key", .currentGroupingKey)]⟩⟩ := by
    rw [FunctionMap.BuiltFrom, show Callback.Registry.empty.names = [] from List.mergeSort_nil]
    rfl
  have hd : (Document.parse
        ("<x:for-each xmlns:x='http://www.w3.org/1999/XSL/Transform' group-id='g'>" ++
          "<a b='\x7bcurrent-grouping-key()\x7d' c='\x7b'/></x:for-each>")).result =
      .ok ⟨#[⟨.document, none, [1]⟩,
        ⟨.element ⟨"x:for-each", [⟨"xmlns:x", xslNamespace⟩, ⟨"group-id", "g"⟩]⟩, some 0, [2]⟩,
        ⟨.element ⟨"a", [⟨"b", "\x7bcurrent-grouping-key()\x7d"⟩, ⟨"c", "\x7b"⟩]⟩, some 1, []⟩],
        none⟩ := by decide +kernel
  refine ⟨_, _, hf, hd, ?_, by decide +kernel⟩
  exact (standard_walk_is_pointwise hf hd).2.2.2 [⟨2, "b", .template⟩] ⟨2, "c", .template⟩ []
    (.template "c" "\x7b" .unclosedBrace) (by decide +kernel)
    (by
      intro t ht
      obtain rfl := List.mem_singleton.1 ht
      exact ⟨"\x7bstring($current-group-g/@key)\x7d", by decide +kernel⟩) (by decide +kernel)

end XslLowering.Stylesheet
