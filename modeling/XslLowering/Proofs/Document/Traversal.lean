import XslLowering.Proofs.Document.DocumentOrder

/-!
# Going through documents

A document is empty or was read, and then its attributes may have been set (`Obtained`). In every
such document parents and children mirror each other (`Arena`), so that going through it comes to an
end, upwards (`Climbs`) as well as downwards (`Visits`).

* `Obtained.ordered`: setting attributes keeps what was read in document order;
* `Ordered.mem_children_iff`: a node is listed by its parent, and by no other node;
* `Linked.visits`: a walk with a stack finds the elements below the nodes on its stack;
* `obtained_document_is_arena`: what links the nodes, and what walks along these links give.
-/

namespace XslLowering.Document

/-- Documents that can be made: without content or read from markup, with any attributes set after
that. -/
inductive Obtained : Document → Prop
  | empty : Obtained Document.empty
  | parse {source : String} {d : Document} (h : (Document.parse source).result = .ok d) : Obtained d
  | setAttribute {d : Document} (h : Obtained d) (id : NodeId) (name value : String) :
    Obtained (d.setAttribute id name value)

theorem Obtained.ordered {d : Document} (h : d.Obtained) : d.Ordered := by
  induction h with
  | empty => exact Reading.growing_start.ordered
  | parse h => exact ordered_of_parse h
  | setAttribute _ id name value ih => exact ih.setAttribute id name value

/-! ## Links between nodes -/

/-- The links of a list of nodes are those of a tree, whose root comes first and whose nodes come
before their children. -/
structure Arena (d : Document) : Prop where
  root_lt : root < d.nodes.size
  kind_eq_document_iff {id : NodeId} : id < d.nodes.size → (d.kind id = .document ↔ id = root)
  parent?_eq_none_iff {id : NodeId} : id < d.nodes.size → (d.parent? id = none ↔ id = root)
  parent_lt {id p : NodeId} : d.parent? id = some p → p < id
  /-- A node stands once among the children of its parent, and nowhere else. -/
  count_children (p id : NodeId) : (d.children p).count id = if d.parent? id = some p then 1 else 0
  increasing (p : NodeId) : (d.children p).Pairwise (· < ·)
  texts_apart (p : NodeId) :
    (d.children p).IsChain fun a b => d.isText a = false ∨ d.isText b = false

/-- What stands below a node is a child of some node. -/
theorem exists_mem_children_of_mem_subtree {d : Document} {id x : NodeId} (hx : x ∈ d.subtree id) :
    x = id ∨ ∃ p, x ∈ d.children p := by
  refine mem_subtree_induction (motive := fun id => x = id ∨ ∃ p, x ∈ d.children p) (.inl rfl) ?_ hx
  rintro id child hc - (rfl | hp)
  · exact .inr ⟨id, hc⟩
  · exact .inr hp

namespace Ordered

variable {d : Document} (h : d.Ordered)

include h

theorem exists_mem_children {id : NodeId} (hid : id < d.nodes.size) (hroot : id ≠ root) :
    ∃ p, id ∈ d.children p := by
  have hmem : id ∈ d.subtree root := by
    rw [h.subtree_root]
    exact List.mem_range.2 hid
  exact (exists_mem_children_of_mem_subtree hmem).resolve_left hroot

theorem mem_children_iff {id p : NodeId} : id ∈ d.children p ↔ d.parent? id = some p := by
  refine ⟨fun hc => (h.parent_child hc).1, fun hp => ?_⟩
  have hroot : id ≠ root := by
    rintro rfl
    cases h.parent?_root.symm.trans hp
  obtain ⟨q, hq⟩ := h.exists_mem_children (lt_size_of_parent? hp) hroot
  cases hp.symm.trans (h.parent_child hq).1
  exact hq

theorem arena : d.Arena where
  root_lt := h.nonempty
  kind_eq_document_iff := h.kind_eq_document
  parent?_eq_none_iff := by
    intro id hid
    refine ⟨fun hnone => ?_, fun hroot => hroot ▸ h.parent?_root⟩
    by_contra hroot
    obtain ⟨p, hp⟩ := h.exists_mem_children hid hroot
    cases hnone.symm.trans (h.parent_child hp).1
  parent_lt hp := (h.parent_child (h.mem_children_iff.2 hp)).2
  count_children p id := by
    split
    · rename_i hp
      exact List.count_eq_one_of_mem (h.nodup_children p) (h.mem_children_iff.2 hp)
    · rename_i hp
      exact List.count_eq_zero.2 fun hc => hp (h.mem_children_iff.1 hc)
  increasing := h.increasing
  texts_apart := h.texts_apart

end Ordered

/-! ## Upwards -/

/-- Going from a node to its parent, and on from there, passes these nodes and then ends. -/
inductive Climbs (d : Document) : NodeId → List NodeId → Prop
  | top {id : NodeId} : d.parent? id = none → Climbs d id []
  | up {id p : NodeId} {path : List NodeId} :
    d.parent? id = some p → Climbs d p path → Climbs d id (p :: path)

theorem Climbs.unique {d : Document} {id : NodeId} {path path' : List NodeId} (h : d.Climbs id path)
    (h' : d.Climbs id path') : path = path' := by
  induction h generalizing path' with
  | top hnone =>
    cases h' with
    | top => rfl
    | up hp => cases hnone.symm.trans hp
  | up hp _ ih =>
    cases h' with
    | top hnone => cases hnone.symm.trans hp
    | up hp' hpath =>
      cases hp.symm.trans hp'
      rw [ih hpath]

namespace Arena

variable {d : Document} (h : d.Arena)

include h

theorem climbs (id : NodeId) : d.Climbs id (d.ancestors id) := by
  induction id using Nat.strongRecOn with
  | ind id ih =>
  cases hp : d.parent? id with
  | none =>
    rw [ancestors, hp]
    exact .top hp
  | some p =>
    have hlt := h.parent_lt hp
    rw [ancestors_eq_cons hp hlt]
    exact .up hp (ih p hlt)

theorem getLast?_ancestors {id : NodeId} (hid : id < d.nodes.size) (hroot : id ≠ root) :
    (d.ancestors id).getLast? = some root := by
  induction id using Nat.strongRecOn with
  | ind id ih =>
  obtain ⟨p, hp⟩ := Option.ne_none_iff_exists'.1 (mt (h.parent?_eq_none_iff hid).1 hroot)
  have hlt := h.parent_lt hp
  rw [ancestors_eq_cons hp hlt]
  by_cases hpr : p = root
  · rw [hpr, ancestors, (h.parent?_eq_none_iff h.root_lt).2 rfl]
    rfl
  · rw [List.getLast?_cons, ih p hlt (Nat.lt_trans hlt hid) hpr]
    rfl

end Arena

theorem decreasing_ancestors (d : Document) (id : NodeId) :
    (id :: d.ancestors id).Pairwise (· > ·) := by
  induction id using Nat.strongRecOn with
  | ind id ih =>
  refine List.pairwise_cons.2 ⟨fun a ha => lt_of_mem_ancestors ha, ?_⟩
  rw [ancestors]
  split
  · exact .nil
  · split
    · rename_i p _ hp
      exact ih p hp
    · exact .nil

/-! ## Downwards -/

/-- A walk with these nodes on its stack, the next one first, finds these elements and then ends. It
puts the children of a node in the node's place. -/
inductive Visits (d : Document) : List NodeId → List NodeId → Prop
  | done : Visits d [] []
  | next {id : NodeId} {stack found : List NodeId} : Visits d (d.children id ++ stack) found →
    Visits d (id :: stack) (if d.isElement id then id :: found else found)

theorem Visits.unique {d : Document} {stack found found' : List NodeId} (h : d.Visits stack found)
    (h' : d.Visits stack found') : found = found' := by
  induction h generalizing found' with
  | done =>
    cases h'
    rfl
  | next _ ih =>
    cases h' with
    | next h' => rw [ih h']

/-- What the nodes on the stack cover loses its first node with every turn of the walk. -/
theorem Linked.visits {d : Document} (h : d.Linked) (stack : List NodeId) :
    d.Visits stack ((stack.flatMap d.subtree).filter d.isElement) := by
  -- A turn may make the stack longer, so the induction is on the nodes that are still to come.
  induction hn : (stack.flatMap d.subtree).length generalizing stack with
  | zero =>
    cases stack with
    | nil => exact .done
    | cons id stack =>
      rw [List.flatMap_cons, h.subtree_eq] at hn
      cases hn
  | succ n ih =>
    cases stack with
    | nil => cases hn
    | cons id stack =>
      have hcover : (id :: stack).flatMap d.subtree =
          id :: (d.children id ++ stack).flatMap d.subtree := by
        rw [List.flatMap_cons, h.subtree_eq, List.flatMap_append, List.cons_append]
      rw [hcover] at hn ⊢
      rw [List.filter_cons]
      exact .next (ih _ (Nat.succ.inj hn))

theorem Ordered.elements_eq {d : Document} (h : d.Ordered) :
    d.elements = (List.range d.nodes.size).filter d.isElement := by
  rw [elements, h.subtree_root]

/-! ## Documents that can be made -/

/-- The nodes of a document are linked as a tree. Taking parents from any node on leads to ever
smaller nodes and at last to the root, and the walk over the whole document ends, with all elements
in the order of their numbers. -/
theorem obtained_document_is_arena {d : Document} (h : d.Obtained) :
    d.Arena ∧
    (∀ id < d.nodes.size, id ≠ root →
      (∀ path, d.Climbs id path ↔ path = d.ancestors id) ∧
      (id :: d.ancestors id).Pairwise (· > ·) ∧ (d.ancestors id).getLast? = some root) ∧
    (∀ found, d.Visits [root] found ↔ found = d.elements) ∧
    (∀ id, id ∈ d.elements ↔ d.isElement id = true) ∧ d.elements.Pairwise (· < ·) := by
  have hordered := h.ordered
  have harena := hordered.arena
  have hvisits : d.Visits [root] d.elements := by
    have hwalk := hordered.toLinked.visits [root]
    rwa [List.flatMap_singleton] at hwalk
  refine ⟨harena, fun id hid hroot => ⟨fun path => ?_, d.decreasing_ancestors id,
    harena.getLast?_ancestors hid hroot⟩, fun found => ?_, fun id => ?_, ?_⟩
  · exact ⟨fun hpath => hpath.unique (harena.climbs id), fun hpath => hpath ▸ harena.climbs id⟩
  · exact ⟨fun hfound => hfound.unique hvisits, fun hfound => hfound ▸ hvisits⟩
  · rw [hordered.elements_eq, List.mem_filter, List.mem_range]
    refine and_iff_right_of_imp fun he => lt_size_of_kind_ne fun hk => ?_
    rw [isElement, element?, hk] at he
    cases he
  · rw [hordered.elements_eq]
    exact List.pairwise_lt_range.filter _

set_option maxRecDepth 4000 in
/-- A document with a merged text, after an edit. -/
theorem edited_document_is_arena :
    ∃ d, (parse "<a>x&amp;<b/>y<!--c--><d>z</d></a>").result = .ok d ∧
      (d.setAttribute 3 "n" "v").Obtained ∧ (d.setAttribute 3 "n" "v").Arena ∧
      (d.setAttribute 3 "n" "v").Climbs 7 [6, 1, 0] ∧
      (d.setAttribute 3 "n" "v").Visits [root] [1, 3, 6] := by
  have hd : (parse "<a>x&amp;<b/>y<!--c--><d>z</d></a>").result =
      .ok ⟨#[⟨.document, none, [1]⟩, ⟨.element ⟨"a", []⟩, some 0, [2, 3, 4, 5, 6]⟩,
        ⟨.text "x&", some 1, []⟩, ⟨.element ⟨"b", []⟩, some 1, []⟩, ⟨.text "y", some 1, []⟩,
        ⟨.raw .comment "<!--c-->", some 1, []⟩, ⟨.element ⟨"d", []⟩, some 1, [7]⟩,
        ⟨.text "z", some 6, []⟩], none⟩ := by decide +kernel
  have hobtained := (Obtained.parse hd).setAttribute 3 "n" "v"
  obtain ⟨harena, hup, hdown, -⟩ := obtained_document_is_arena hobtained
  refine ⟨_, hd, hobtained, harena, ((hup 7 ?_ ?_).1 _).2 ?_, (hdown _).2 ?_⟩
  all_goals decide +kernel

end XslLowering.Document
