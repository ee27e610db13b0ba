import XslLowering.Document.Namespace
import XslLowering.Proofs.Document.Arena

/-!
# What a change of attributes leaves alone

* `SameTree`: two documents have the same elements in the same places, so walks through them visit
  the same nodes;
* `SameScopes`: they also declare the same namespaces, so names in them mean the same;
* `mapValues`: a document with new values for its attributes, which is the same tree
  (`sameTree_mapValues`); setting an attribute that an element has is such a change
  (`setAttribute_mapValues`);
* `attribute?_setAttribute`: what an element's attributes are once one of them is set;
* `lookupNamespace_setAttribute`: declaring a qualifier that is not bound changes what it stands for
  at most where it stood for nothing.
-/

namespace XslLowering

/-! ## The same tree -/

namespace Document

/-- The two documents differ in nothing but attributes and what is no element. -/
structure SameTree (d d' : Document) : Prop where
  size : d'.nodes.size = d.nodes.size
  parent? (id : NodeId) : d'.parent? id = d.parent? id
  children (id : NodeId) : d'.children id = d.children id
  name? (id : NodeId) : d'.name? id = d.name? id

namespace SameTree

variable {d d' d'' : Document}

theorem refl (d : Document) : SameTree d d := ⟨rfl, fun _ => rfl, fun _ => rfl, fun _ => rfl⟩

theorem trans (h : SameTree d d') (h' : SameTree d' d'') : SameTree d d'' :=
  ⟨h'.size.trans h.size, fun id => (h'.parent? id).trans (h.parent? id),
    fun id => (h'.children id).trans (h.children id), fun id => (h'.name? id).trans (h.name? id)⟩

theorem ancestors (h : SameTree d d') (id : NodeId) : d'.ancestors id = d.ancestors id := by
  induction id using Nat.strongRecOn with
  | ind id ih =>
  rw [Document.ancestors, Document.ancestors, h.parent?]
  cases d.parent? id with
  | none => rfl
  | some p =>
    by_cases hp : p < id
    · simp [hp, ih p hp]
    · simp [hp]

theorem subtree (h : SameTree d d') (id : NodeId) : d'.subtree id = d.subtree id := by
  induction hn : d.nodes.size - id using Nat.strongRecOn generalizing id with
  | ind n ih =>
  rw [Document.subtree, Document.subtree, h.children, h.size]
  congr 2
  funext child
  split
  · rename_i hc
    exact ih _ (hn ▸ Nat.sub_lt_sub_left (Nat.lt_trans hc.1 hc.2) hc.1) child rfl
  · rfl

/-- A node is an element in both documents, with the same name, or in none. -/
theorem element?_cases (h : SameTree d d') (id : NodeId) :
    d.element? id = none ∧ d'.element? id = none ∨
      ∃ e e', d.element? id = some e ∧ d'.element? id = some e' ∧ e'.name = e.name := by
  have hn := h.name? id
  rw [Document.name?, Document.name?] at hn
  cases he : d.element? id with
  | none =>
    rw [he] at hn
    exact .inl ⟨rfl, Option.map_eq_none_iff.1 hn⟩
  | some e =>
    rw [he] at hn
    obtain ⟨e', he', hname⟩ := Option.map_eq_some_iff.1 hn
    exact .inr ⟨e, e', rfl, he', hname⟩

theorem isElement (h : SameTree d d') (id : NodeId) : d'.isElement id = d.isElement id := by
  rcases h.element?_cases id with ⟨he, he'⟩ | ⟨e, e', he, he', -⟩
  · rw [Document.isElement, Document.isElement, he, he']
  · simp [Document.isElement, he, he']

theorem localName? (h : SameTree d d') (id : NodeId) : d'.localName? id = d.localName? id := by
  rcases h.element?_cases id with ⟨he, he'⟩ | ⟨e, e', he, he', hn⟩
  · rw [Document.localName?, Document.localName?, he, he']
  · simp [Document.localName?, he, he', Element.localName, hn]

theorem elements (h : SameTree d d') : d'.elements = d.elements := by
  rw [Document.elements, Document.elements, h.subtree]
  congr 1
  funext id
  exact h.isElement id

theorem documentElement? (h : SameTree d d') : d'.documentElement? = d.documentElement? := by
  rw [Document.documentElement?, Document.documentElement?, h.children]
  congr 1
  funext id
  exact h.isElement id

end SameTree

theorem WellFormed.of_sameTree {d d' : Document} (h : d.WellFormed) (ht : SameTree d d')
    (hn : ∀ id, ((d'.attributes id).map (·.name)).Nodup) : d'.WellFormed := by
  refine ⟨⟨fun {id child} hc => ?_, fun id => ?_⟩, hn⟩
  · rw [ht.children] at hc
    rw [ht.parent?]
    exact h.parent_child hc
  · rw [ht.children]
    exact h.nodup_children id

/-! ## The same namespaces -/

/-- The two documents are the same tree with the same namespace declarations. -/
structure SameScopes (d d' : Document) : Prop extends SameTree d d' where
  declaration (id : NodeId) {name : String} :
    isNamespaceDeclaration name = true → d'.attribute? id name = d.attribute? id name

theorem isNamespaceDeclaration_declarationName (qualifier : Option String) :
    isNamespaceDeclaration (declarationName qualifier) = true := by
  cases qualifier with
  | none => rfl
  | some q =>
    simp only [isNamespaceDeclaration, declarationName, Text.startsWithSeq, String.toList_append,
      Bool.or_eq_true]
    exact .inr (List.isPrefixOf_iff_prefix.2 (List.prefix_append _ _))

/-- A qualifier that is declared alike stands for the same. -/
theorem SameTree.lookupNamespace_congr {d d' : Document} (h : SameTree d d')
    {qualifier : Option String}
    (hd : ∀ x, d'.attribute? x (declarationName qualifier) =
      d.attribute? x (declarationName qualifier)) (id : NodeId) :
    d'.lookupNamespace id qualifier = d.lookupNamespace id qualifier := by
  rw [Document.lookupNamespace, Document.lookupNamespace, h.ancestors, funext hd]

namespace SameScopes

variable {d d' d'' : Document}

theorem refl (d : Document) : SameScopes d d := ⟨.refl d, fun _ _ _ => rfl⟩

theorem trans (h : SameScopes d d') (h' : SameScopes d' d'') : SameScopes d d'' :=
  ⟨h.toSameTree.trans h'.toSameTree, fun id _ hn =>
    (h'.declaration id hn).trans (h.declaration id hn)⟩

theorem lookupNamespace (h : SameScopes d d') (id : NodeId) (qualifier : Option String) :
    d'.lookupNamespace id qualifier = d.lookupNamespace id qualifier :=
  h.lookupNamespace_congr
    (fun x => h.declaration x (isNamespaceDeclaration_declarationName qualifier)) id

end SameScopes

end Document

/-! ## Changing elements -/

/-- The node with its element changed, if it has one. -/
def Node.mapElement (node : Node) (g : Element → Element) : Node :=
  { node with kind :=
      match node.kind with
      | .element e => .element (g e)
      | kind => kind }

namespace Document

/-- The document with all elements changed. -/
def mapElements (d : Document) (g : NodeId → Element → Element) : Document :=
  { d with nodes := d.nodes.mapIdx fun id node => node.mapElement (g id) }

section

variable (d : Document) (g : NodeId → Element → Element) (id : NodeId)

theorem getElem?_mapElements :
    (d.mapElements g).nodes[id]? = d.nodes[id]?.map (·.mapElement (g id)) := by
  simp [mapElements]

@[simp] theorem element?_mapElements :
    (d.mapElements g).element? id = (d.element? id).map (g id) := by
  simp only [element?, kind, getElem?_mapElements]
  cases d.nodes[id]? with
  | none => rfl
  | some node => cases hk : node.kind <;> simp [Node.mapElement, hk]

theorem sameTree_mapElements (h : ∀ id e, (g id e).name = e.name) :
    SameTree d (d.mapElements g) := by
  refine ⟨by simp [mapElements], fun id => ?_, fun id => ?_, fun id => ?_⟩
  · simp only [parent?, getElem?_mapElements]
    cases d.nodes[id]? <;> rfl
  · simp only [children, getElem?_mapElements]
    cases d.nodes[id]? <;> rfl
  · rw [name?, name?, element?_mapElements]
    cases d.element? id with
    | none => rfl
    | some e => simp [h]

theorem ext_nodes {d d' : Document} (h : ∀ id : NodeId, d.nodes[id]? = d'.nodes[id]?)
    (hu : d.uri = d'.uri) : d = d' := by
  have hn : d.nodes = d'.nodes := Array.ext_getElem? h
  cases d
  cases d'
  cases hn
  cases hu
  rfl

/-- Only the elements that are there matter. -/
theorem mapElements_congr {d : Document} {g g' : NodeId → Element → Element}
    (h : ∀ id e, d.element? id = some e → g id e = g' id e) : d.mapElements g = d.mapElements g' := by
  refine ext_nodes (fun id => ?_) rfl
  rw [getElem?_mapElements, getElem?_mapElements]
  cases hnode : d.nodes[id]? with
  | none => rfl
  | some node =>
    cases hk : node.kind with
    | element e =>
      have he : d.element? id = some e := by simp [element?, kind, hnode, hk]
      simp [Node.mapElement, hk, h id e he]
    | _ => simp [Node.mapElement, hk]

theorem mapElements_mapElements (g' : NodeId → Element → Element) :
    (d.mapElements g).mapElements g' = d.mapElements fun id e => g' id (g id e) := by
  refine ext_nodes (fun id => ?_) rfl
  rw [getElem?_mapElements, getElem?_mapElements, getElem?_mapElements, Option.map_map]
  cases d.nodes[id]? with
  | none => rfl
  | some node => cases hk : node.kind <;> simp [Node.mapElement, hk]

theorem mapElements_id : d.mapElements (fun _ e => e) = d := by
  refine ext_nodes (fun id => ?_) rfl
  rw [getElem?_mapElements]
  cases d.nodes[id]? with
  | none => rfl
  | some node => 
    obtain ⟨kind, parent, children⟩ := node
    cases kind <;> rfl

theorem setAttribute_eq_mapElements (name value : String) :
    d.setAttribute id name value =
      d.mapElements fun x e => if id = x then e.setAttribute name value else e := by
  refine ext_nodes (fun x => ?_) rfl
  rw [getElem?_mapElements, setAttribute]
  simp only [Array.getElem?_modify]
  cases d.nodes[x]? with
  | none => simp
  | some node =>
    obtain ⟨kind, parent, children⟩ := node
    by_cases hid : id = x
    · cases kind <;> simp [hid, Node.mapElement]
    · cases kind <;> simp [hid, Node.mapElement]

end

end Document

/-! ## New values for attributes -/

/-- The element with new values for its attributes. -/
def Element.mapValues (e : Element) (f : Attribute → String) : Element :=
  { e with attributes := e.attributes.map fun a => ⟨a.name, f a⟩ }

theorem Element.setIn_map {name value : String} {f : Attribute → String} {as : List Attribute}
    (hn : (as.map (·.name)).Nodup) (hm : name ∈ as.map (·.name)) :
    Element.setIn name value (as.map fun a => ⟨a.name, f a⟩) =
      as.map fun a => ⟨a.name, if a.name = name then value else f a⟩ := by
  induction as with
  | nil => cases hm
  | cons a as ih =>
    rw [List.map_cons, List.nodup_cons] at hn
    by_cases ha : a.name = name
    · have hrest : as.map (fun b => (⟨b.name, if b.name = name then value else f b⟩ : Attribute)) =
          as.map fun b => ⟨b.name, f b⟩ := by
        refine List.map_congr_left fun b hb => ?_
        have : b.name ≠ name := fun he => hn.1 (List.mem_map.2 ⟨b, hb, he.trans ha.symm⟩)
        rw [if_neg this]
      simp [Element.setIn, ha, hrest]
    · have hm' : name ∈ as.map (·.name) := by
        simpa [Ne.symm ha] using hm
      simp [Element.setIn, ha, ih hn.2 hm']

namespace Document

/-- The document with new values for all attributes. -/
def mapValues (d : Document) (f : NodeId → Attribute → String) : Document :=
  d.mapElements fun id e => e.mapValues (f id)

theorem sameTree_mapValues (d : Document) (f : NodeId → Attribute → String) :
    SameTree d (d.mapValues f) :=
  sameTree_mapElements d _ fun _ _ => rfl

@[simp] theorem attributes_mapValues (d : Document) (f : NodeId → Attribute → String) (id : NodeId) :
    (d.mapValues f).attributes id = (d.attributes id).map fun a => ⟨a.name, f id a⟩ := by
  rw [attributes, attributes, mapValues, element?_mapElements]
  cases d.element? id <;> rfl

theorem map_name_mapValues (d : Document) (f : NodeId → Attribute → String) (id : NodeId) :
    ((d.mapValues f).attributes id).map (·.name) = (d.attributes id).map (·.name) := by
  rw [attributes_mapValues, List.map_map]
  rfl

theorem WellFormed.mapValues {d : Document} (h : d.WellFormed) (f : NodeId → Attribute → String) :
    (d.mapValues f).WellFormed := by
  refine h.of_sameTree (sameTree_mapValues d f) fun id => ?_
  rw [map_name_mapValues]
  exact h.nodup_attributes id

theorem attribute?_eq (d : Document) (id : NodeId) (name : String) :
    d.attribute? id name = ((d.attributes id).find? (·.name == name)).map (·.value) := by
  rw [attribute?, attributes]
  cases d.element? id <;> rfl

theorem isElement_of_attribute? {d : Document} {id : NodeId} {name value : String}
    (h : d.attribute? id name = some value) : d.isElement id = true := by
  obtain ⟨e, he, -⟩ := Option.bind_eq_some_iff.1 h
  rw [isElement, he, Option.isSome_some]

theorem WellFormed.attribute?_of_mem {d : Document} (hd : d.WellFormed) {id : NodeId} {a : Attribute}
    (ha : a ∈ d.attributes id) : d.attribute? id a.name = some a.value := by
  rw [attribute?_eq]
  have hn := hd.nodup_attributes id
  generalize d.attributes id = as at ha hn
  induction as with
  | nil => cases ha
  | cons b as ih =>
    rw [List.map_cons, List.nodup_cons] at hn
    rcases List.mem_cons.1 ha with rfl | ha
    · simp
    · have hne : b.name ≠ a.name := fun he => hn.1 (List.mem_map.2 ⟨a, ha, he.symm⟩)
      simpa [hne] using ih ha hn.2

theorem attribute?_mapValues (d : Document) (f : NodeId → Attribute → String) (id : NodeId)
    (name : String) :
    (d.mapValues f).attribute? id name =
      ((d.attributes id).find? (·.name == name)).map (f id) := by
  rw [attribute?_eq, attributes_mapValues, List.find?_map, Option.map_map]
  rfl

/-- Setting an attribute that an element has gives it a new value. -/
theorem setAttribute_mapValues {d : Document} {id : NodeId} {name : String}
    (hn : ((d.attributes id).map (·.name)).Nodup) (hm : name ∈ (d.attributes id).map (·.name))
    (f : NodeId → Attribute → String) (value : String) :
    (d.mapValues f).setAttribute id name value =
      d.mapValues fun x a => if id = x ∧ a.name = name then value else f x a := by
  rw [setAttribute_eq_mapElements, mapValues, mapElements_mapElements, mapValues]
  refine mapElements_congr fun x e he => ?_
  by_cases hid : id = x
  · subst hid
    have ha : d.attributes id = e.attributes := by simp [attributes, he]
    rw [ha] at hn hm
    simp [Element.setAttribute, Element.mapValues, Element.setIn_map hn hm]
  · simp [hid, Element.mapValues]

/-- A document whose attributes keep their values stays as it is. -/
theorem mapValues_eq_self {d : Document} {f : NodeId → Attribute → String}
    (h : ∀ id, ∀ a ∈ d.attributes id, f id a = a.value) : d.mapValues f = d := by
  rw [mapValues]
  refine Eq.trans (mapElements_congr fun id e he => ?_) (mapElements_id d)
  have ha : d.attributes id = e.attributes := by simp [attributes, he]
  have hmap : e.attributes.map (fun a => (⟨a.name, f id a⟩ : Attribute)) = e.attributes := by
    refine (List.map_congr_left fun a hm => ?_).trans (List.map_id _)
    rw [h id a (ha ▸ hm)]
    rfl
  rw [Element.mapValues, hmap]

theorem mapValues_congr {d : Document} {f g : NodeId → Attribute → String}
    (h : ∀ id, ∀ a ∈ d.attributes id, f id a = g id a) : d.mapValues f = d.mapValues g := by
  refine mapElements_congr fun id e he => ?_
  have ha : d.attributes id = e.attributes := by simp [attributes, he]
  have hmap : e.attributes.map (fun a => (⟨a.name, f id a⟩ : Attribute)) =
      e.attributes.map fun a => ⟨a.name, g id a⟩ := by
    refine List.map_congr_left fun a hm => ?_
    rw [h id a (ha ▸ hm)]
  rw [Element.mapValues, hmap, Element.mapValues]

end Document

/-! ## Setting an attribute -/

namespace Element

theorem find?_setIn (name value n : String) (as : List Attribute) :
    ((setIn name value as).find? (·.name == n)).map (·.value) =
      if name = n then some value else (as.find? (·.name == n)).map (·.value) := by
  induction as with
  | nil => by_cases hn : name = n <;> simp [setIn, hn]
  | cons a as ih =>
    by_cases ha : a.name = name
    · subst ha
      by_cases hn : a.name = n <;> simp [setIn, hn]
    · by_cases hn : a.name = n
      · subst hn
        simp [setIn, ha, Ne.symm ha]
      · simp [setIn, ha, hn, ih]

theorem map_name_setIn (name value : String) (as : List Attribute) :
    (setIn name value as).map (·.name) =
      if name ∈ as.map (·.name) then as.map (·.name) else as.map (·.name) ++ [name] := by
  induction as with
  | nil => rfl
  | cons a as ih =>
    by_cases ha : a.name = name
    · simp [setIn, ha]
    · have hm : name ∈ (a :: as).map (·.name) ↔ name ∈ as.map (·.name) := by
        simp [Ne.symm ha]
      rw [setIn, if_neg (by simpa using ha), List.map_cons, ih]
      simp only [hm]
      split <;> rfl

theorem findSome?_setIn {β : Type} {f : Attribute → Option β} {name value : String}
    {as : List Attribute} (hnew : f ⟨name, value⟩ = none)
    (hold : ∀ a ∈ as, a.name = name → f a = none) :
    (setIn name value as).findSome? f = as.findSome? f := by
  induction as with
  | nil => simp [setIn, hnew]
  | cons a as ih =>
    rw [List.forall_mem_cons] at hold
    by_cases ha : a.name = name
    · simp [setIn, ha, hnew, hold.1 ha]
    · simp [setIn, ha, List.findSome?_cons, ih hold.2]

theorem any_setIn {p : Attribute → Bool} {name value : String} {a : Attribute} {as : List Attribute}
    (ha : as.find? (·.name == name) = some a) (hp : p ⟨name, value⟩ = p a) :
    (setIn name value as).any p = as.any p := by
  induction as with
  | nil => cases ha
  | cons b as ih =>
    by_cases hb : b.name = name
    · obtain rfl : b = a := by simpa [hb] using ha
      simp [setIn, hb, hp]
    · simp [setIn, hb, ih (by simpa [hb] using ha)]

theorem mem_setIn {name value : String} {as : List Attribute} {a : Attribute}
    (h : a ∈ setIn name value as) : a ∈ as ∨ a = ⟨name, value⟩ := by
  induction as with
  | nil => exact .inr (List.mem_singleton.1 h)
  | cons b as ih =>
    rw [setIn] at h
    split at h
    · rename_i hb
      rcases List.mem_cons.1 h with rfl | h
      · exact .inr (by simp [eq_of_beq hb])
      · exact .inl (List.mem_cons_of_mem _ h)
    · rcases List.mem_cons.1 h with rfl | h
      · exact .inl List.mem_cons_self
      · exact (ih h).imp_left (List.mem_cons_of_mem _)

end Element

namespace Document

section

variable {d : Document} {id : NodeId} {name value : String}

theorem sameTree_setAttribute (d : Document) (id : NodeId) (name value : String) :
    SameTree d (d.setAttribute id name value) := by
  rw [setAttribute_eq_mapElements]
  refine sameTree_mapElements d _ fun x e => ?_
  split <;> rfl

variable (he : d.isElement id = true)

include he

theorem attributes_setAttribute (x : NodeId) :
    (d.setAttribute id name value).attributes x =
      if id = x then Element.setIn name value (d.attributes x) else d.attributes x := by
  rw [attributes, attributes, setAttribute_eq_mapElements, element?_mapElements]
  by_cases hx : id = x
  · subst hx
    obtain ⟨e, he⟩ := Option.isSome_iff_exists.1 he
    simp [he, Element.setAttribute]
  · simp [hx]

theorem outcome_assign {ε : Type} :
    (assign id name value : Edit Document ε Unit).outcome d =
      (d.setAttribute id name value, .ok ()) := by
  simp [assign, he]

theorem attribute?_setAttribute (x : NodeId) (n : String) :
    (d.setAttribute id name value).attribute? x n =
      if id = x ∧ name = n then some value else d.attribute? x n := by
  rw [attribute?_eq, attribute?_eq, attributes_setAttribute he]
  by_cases hx : id = x
  · simp [hx, Element.find?_setIn]
  · simp [hx]

theorem sameScopes_setAttribute (hn : isNamespaceDeclaration name = false) :
    SameScopes d (d.setAttribute id name value) := by
  refine ⟨sameTree_setAttribute d id name value, fun x n hd => ?_⟩
  rw [attribute?_setAttribute he, if_neg]
  rintro ⟨-, rfl⟩
  rw [hn] at hd
  cases hd

/-- An element still names each of its attributes once. -/
theorem WellFormed.setAttribute (h : d.WellFormed) : (d.setAttribute id name value).WellFormed := by
  refine h.of_sameTree (sameTree_setAttribute d id name value) fun x => ?_
  rw [attributes_setAttribute he]
  split
  · rw [Element.map_name_setIn]
    split
    · exact h.nodup_attributes x
    · rename_i hm
      rw [← List.concat_eq_append]
      exact (h.nodup_attributes x).concat hm
  · exact h.nodup_attributes x

/-! ### Declaring a namespace -/

omit he in
/-- The namespace that a qualifier stands for is declared on a node itself or is that of its
parent. -/
theorem lookupNamespace_eq {qualifier : Option String} (hq : qualifier ≠ some "xml") (x : NodeId) :
    d.lookupNamespace x qualifier =
      match d.attribute? x (declarationName qualifier) with
      | some uri => (some uri).filter fun uri => !uri.isEmpty
      | none =>
        match d.parent? x with
        | none => none
        | some p => if p < x then d.lookupNamespace p qualifier else none := by
  have hxml : (qualifier == some "xml") = false := beq_eq_false_iff_ne.2 hq
  rw [lookupNamespace, hxml, ancestors]
  cases ha : d.attribute? x (declarationName qualifier) with
  | some uri => simp [ha]
  | none =>
    cases d.parent? x with
    | none => simp [ha]
    | some p =>
      by_cases hp : p < x
      · simp [ha, hp, lookupNamespace, hxml]
      · simp [ha, hp]

omit he in
theorem declarationName_inj {qualifier : Option String} {q : String}
    (h : declarationName qualifier = "xmlns:" ++ q) : qualifier = some q := by
  have hchars := congrArg String.toList h
  cases qualifier with
  | none => simp [declarationName] at hchars
  | some r =>
    have : r.toList = q.toList := by simpa [declarationName] using hchars
    rw [String.toList_inj.1 this]

/-- Setting an attribute changes what a qualifier stands for only if it declares the qualifier, and
only where this stood for what it stood for on the element itself. -/
theorem lookupNamespace_setAttribute_cases (x : NodeId) (qualifier : Option String) :
    (d.setAttribute id name value).lookupNamespace x qualifier = d.lookupNamespace x qualifier ∨
      name = declarationName qualifier ∧
        d.lookupNamespace x qualifier = d.lookupNamespace id qualifier ∧
        (d.setAttribute id name value).lookupNamespace x qualifier =
          (some value).filter fun uri => !uri.isEmpty := by
  by_cases hxml : qualifier = some "xml"
  · exact .inl (by simp [lookupNamespace, hxml])
  induction x using Nat.strongRecOn with
  | ind x ih =>
  have hnew := lookupNamespace_eq (d := d.setAttribute id name value) hxml x
  rw [attribute?_setAttribute he, (sameTree_setAttribute d id name value).parent?] at hnew
  by_cases hx : id = x ∧ name = declarationName qualifier
  · rw [if_pos hx] at hnew
    exact .inr ⟨hx.2, by rw [hx.1], hnew⟩
  · rw [if_neg hx] at hnew
    have hold := lookupNamespace_eq (d := d) hxml x
    cases ha : d.attribute? x (declarationName qualifier) with
    | some v =>
      rw [ha] at hnew hold
      exact .inl (hnew.trans hold.symm)
    | none =>
      rw [ha] at hnew hold
      cases hparent : d.parent? x with
      | none =>
        rw [hparent] at hnew hold
        exact .inl (hnew.trans hold.symm)
      | some p =>
        by_cases hp : p < x
        · simp only [hparent, hp, ↓reduceIte] at hnew hold
          rw [hnew, hold]
          exact ih p hp
        · simp only [hparent, hp, ↓reduceIte] at hnew hold
          exact .inl (hnew.trans hold.symm)

/-- Declaring a qualifier that is not bound binds it, at most, where it was not bound. -/
theorem lookupNamespace_setAttribute {q uri : String} (hu : uri.isEmpty = false)
    (hnone : d.lookupNamespace id (some q) = none) (x : NodeId) (qualifier : Option String) :
    (d.setAttribute id ("xmlns:" ++ q) uri).lookupNamespace x qualifier =
        d.lookupNamespace x qualifier ∨
      d.lookupNamespace x qualifier = none ∧
        (d.setAttribute id ("xmlns:" ++ q) uri).lookupNamespace x qualifier = some uri := by
  rcases lookupNamespace_setAttribute_cases he x qualifier with h | ⟨hname, hold, hnew⟩
  · exact .inl h
  · obtain rfl := declarationName_inj hname.symm
    exact .inr ⟨hold.trans hnone, hnew.trans (by simp [hu])⟩

theorem lookupNamespace_setAttribute_self {q uri : String} (hq : q ≠ "xml")
    (hu : uri.isEmpty = false) :
    (d.setAttribute id ("xmlns:" ++ q) uri).lookupNamespace id (some q) = some uri := by
  rw [lookupNamespace_eq (by simpa using hq), attribute?_setAttribute he]
  simp [declarationName, hu]

end

end Document

end XslLowering
