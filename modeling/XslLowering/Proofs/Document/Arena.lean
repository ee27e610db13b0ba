import Mathlib.Data.List.Nodup
import XslLowering.Document.Reader
import XslLowering.Proofs.Attempt

/-!
# Documents that are trees

A document is a tree if parents and children know each other (`Linked`), and well formed if its
elements also name each of their attributes once (`WellFormed`):

* `Linked.nodup_subtree`: no node stands twice among those below a node;
* `wellFormed_empty`, `WellFormed.append`: the empty document is well formed, and nodes that are added
  below others keep it so.
-/

namespace XslLowering.Document

/-- Children name their parent, which comes before them, and are listed once. -/
structure Linked (d : Document) : Prop where
  parent_child {id child : NodeId} : child ∈ d.children id → d.parent? child = some id ∧ id < child
  nodup_children (id : NodeId) : (d.children id).Nodup

theorem lt_size_of_parent? {d : Document} {id p : NodeId} (h : d.parent? id = some p) :
    id < d.nodes.size := by
  by_contra hge
  rw [parent?, Array.getElem?_eq_none (Nat.le_of_not_lt hge)] at h
  cases h

theorem lt_size_of_kind_ne {d : Document} {id : NodeId} (h : d.kind id ≠ .document) :
    id < d.nodes.size := by
  by_contra hge
  rw [kind, Array.getElem?_eq_none (Nat.le_of_not_lt hge)] at h
  exact h rfl

/-! ## Upwards -/

theorem ancestors_eq_cons {d : Document} {id p : NodeId} (h : d.parent? id = some p) (hp : p < id) :
    d.ancestors id = p :: d.ancestors p := by
  rw [ancestors, h]
  simp [hp]

theorem mem_ancestors {d : Document} {a id : NodeId} :
    a ∈ d.ancestors id ↔ ∃ p, d.parent? id = some p ∧ p < id ∧ (a = p ∨ a ∈ d.ancestors p) := by
  rw [ancestors]
  cases d.parent? id with
  | none => simp
  | some p =>
    by_cases hp : p < id
    · simp [hp]
    · simp [hp]

theorem lt_of_mem_ancestors {d : Document} {a id : NodeId} (h : a ∈ d.ancestors id) : a < id := by
  induction id using Nat.strongRecOn with
  | ind id ih =>
  obtain ⟨p, -, hp, rfl | ha⟩ := mem_ancestors.1 h
  · exact hp
  · exact Nat.lt_trans (ih p hp ha) hp

theorem mem_ancestors_trans {d : Document} {a b id : NodeId} (ha : a ∈ d.ancestors b)
    (hb : b ∈ d.ancestors id) : a ∈ d.ancestors id := by
  induction id using Nat.strongRecOn with
  | ind id ih =>
  obtain ⟨p, hid, hp, rfl | hb⟩ := mem_ancestors.1 hb
  · exact mem_ancestors.2 ⟨b, hid, hp, .inr ha⟩
  · exact mem_ancestors.2 ⟨p, hid, hp, .inr (ih p hp hb)⟩

/-- The first node is the second one, or stands around it. -/
def Covers (d : Document) (a id : NodeId) : Prop := id = a ∨ a ∈ d.ancestors id

/-- A node stands below one child of another node only. -/
theorem Covers.unique {d : Document} {p a b id : NodeId} (ha : d.parent? a = some p ∧ p < a)
    (hb : d.parent? b = some p ∧ p < b) (hca : d.Covers a id) (hcb : d.Covers b id) : a = b := by
  -- A child is not among the ancestors of another one: those are the parent and smaller nodes.
  have apart {a b : NodeId} (ha : d.parent? a = some p ∧ p < a) (hb : p < b) :
      b ∉ d.ancestors a := by
    intro h
    rw [ancestors_eq_cons ha.1 ha.2] at h
    rcases List.mem_cons.1 h with rfl | h
    · exact Nat.lt_irrefl _ hb
    · exact Nat.lt_asymm hb (lt_of_mem_ancestors h)
  induction id using Nat.strongRecOn with
  | ind id ih =>
  rcases hca with rfl | hca
  · rcases hcb with rfl | hcb
    · rfl
    · exact absurd hcb (apart ha hb.2)
  · rcases hcb with rfl | hcb
    · exact absurd hca (apart hb ha.2)
    · obtain ⟨q, hid, hq, hca⟩ := mem_ancestors.1 hca
      obtain ⟨q', hid', -, hcb⟩ := mem_ancestors.1 hcb
      cases hid.symm.trans hid'
      exact ih q hq (hca.imp_left Eq.symm) (hcb.imp_left Eq.symm)

/-! ## Downwards -/

theorem mem_subtree {d : Document} {id x : NodeId} :
    x ∈ d.subtree id ↔
      x = id ∨ ∃ child ∈ d.children id, id < child ∧ child < d.nodes.size ∧ x ∈ d.subtree child := by
  rw [subtree, List.mem_cons, List.mem_flatMap]
  refine or_congr Iff.rfl (exists_congr fun child => and_congr Iff.rfl ?_)
  split
  · rename_i h
    simp [h]
  · rename_i h
    simp only [List.not_mem_nil, false_iff]
    exact fun hc => h ⟨hc.1, hc.2.1⟩

/-- What holds of a node, and goes from children to their parents, holds of all nodes that have the
node below them. -/
theorem mem_subtree_induction {d : Document} {x : NodeId} {motive : NodeId → Prop} (self : motive x)
    (parent : ∀ id child, child ∈ d.children id → id < child → motive child → motive id)
    {id : NodeId} (hx : x ∈ d.subtree id) : motive id := by
  induction hn : d.nodes.size - id using Nat.strongRecOn generalizing id with
  | ind n ih =>
  rcases mem_subtree.1 hx with rfl | ⟨child, hc, hlt, hsize, hx⟩
  · exact self
  · have hchild := ih _ (hn ▸ Nat.sub_lt_sub_left (Nat.lt_trans hlt hsize) hlt) hx rfl
    exact parent id child hc hlt hchild

theorem Linked.covers_of_mem_subtree {d : Document} (h : d.Linked) {id x : NodeId}
    (hx : x ∈ d.subtree id) : d.Covers id x := by
  refine mem_subtree_induction (motive := fun id => d.Covers id x) (.inl rfl) ?_ hx
  intro id child hc hlt hcovers
  have hid : id ∈ d.ancestors child := by
    rw [ancestors_eq_cons (h.parent_child hc).1 hlt]
    exact List.mem_cons_self
  rcases hcovers with rfl | hx
  · exact .inr hid
  · exact .inr (mem_ancestors_trans hid hx)

/-- Nothing stands twice among the nodes below a node. -/
theorem Linked.nodup_subtree {d : Document} (h : d.Linked) (id : NodeId) :
    (d.subtree id).Nodup := by
  induction hn : d.nodes.size - id using Nat.strongRecOn generalizing id with
  | ind n ih =>
  have mem_child {x child : NodeId}
      (hx : x ∈ if _h : id < child ∧ child < d.nodes.size then d.subtree child else []) :
      id < child ∧ d.Covers child x := by
    split at hx
    · rename_i hc
      exact ⟨hc.1, h.covers_of_mem_subtree hx⟩
    · cases hx
  rw [subtree, List.nodup_cons, List.nodup_flatMap]
  refine ⟨?_, ?_, ?_⟩
  · rw [List.mem_flatMap]
    rintro ⟨child, -, hx⟩
    obtain ⟨hlt, rfl | hx⟩ := mem_child hx
    · exact Nat.lt_irrefl _ hlt
    · exact Nat.lt_asymm hlt (lt_of_mem_ancestors hx)
  · intro child _
    split
    · rename_i hc
      exact ih _ (hn ▸ Nat.sub_lt_sub_left (Nat.lt_trans hc.1 hc.2) hc.1) child rfl
    · exact List.nodup_nil
  · refine (h.nodup_children id).imp_of_mem fun {a b} ha hb hne x hxa hxb => hne ?_
    exact Covers.unique (h.parent_child ha) (h.parent_child hb) (mem_child hxa).2 (mem_child hxb).2

/-! ## Adding nodes -/

section Append

variable {d : Document} {parent : NodeId} (hp : parent < d.nodes.size) (kind : NodeKind)
  (id : NodeId)

include hp

theorem getElem?_append :
    (d.append parent kind).nodes[id]? =
      if id = d.nodes.size then some ⟨kind, some parent, []⟩
      else if id = parent then
        d.nodes[id]?.map fun node => { node with children := node.children ++ [d.nodes.size] }
      else d.nodes[id]? := by
  have hne : parent ≠ d.nodes.size := Nat.ne_of_lt hp
  simp only [append, Array.getElem?_modify, Array.getElem?_push]
  by_cases hid : id = d.nodes.size
  · simp [hid, hne]
  · by_cases hpid : id = parent
    · simp [hpid, hne]
    · simp [hid, hpid, Ne.symm hpid]

theorem parent?_append :
    (d.append parent kind).parent? id =
      if id = d.nodes.size then some parent else d.parent? id := by
  rw [parent?, getElem?_append hp]
  split_ifs with hid hpid
  · rfl
  · rw [parent?]
    cases d.nodes[id]? <;> rfl
  · rfl

theorem children_append :
    (d.append parent kind).children id =
      if id = parent then d.children id ++ [d.nodes.size] else d.children id := by
  rw [children, getElem?_append hp]
  split_ifs with hid hpid hpid
  · exact absurd (hpid.symm.trans hid) (Nat.ne_of_lt hp)
  · simp [children, hid]
  · obtain ⟨node, hnode⟩ : ∃ node, d.nodes[id]? = some node :=
      ⟨_, Array.getElem?_eq_getElem (hpid ▸ hp)⟩
    simp [children, hnode]
  · rfl

theorem kind_append :
    (d.append parent kind).kind id = if id = d.nodes.size then kind else d.kind id := by
  rw [Document.kind, getElem?_append hp]
  split_ifs with hid hpid
  · rfl
  · rw [Document.kind]
    cases d.nodes[id]? <;> rfl
  · rfl

end Append

/-- Children stand in the document. -/
theorem Linked.lt_size {d : Document} (h : d.Linked) {id child : NodeId}
    (hc : child ∈ d.children id) : child < d.nodes.size :=
  lt_size_of_parent? (h.parent_child hc).1

theorem Linked.append {d : Document} (h : d.Linked) {parent : NodeId}
    (hp : parent < d.nodes.size) (kind : NodeKind) : (d.append parent kind).Linked := by
  have old {id child : NodeId} (hc : child ∈ d.children id) :
      (d.append parent kind).parent? child = some id ∧ id < child := by
    rw [parent?_append hp, if_neg (Nat.ne_of_lt (h.lt_size hc))]
    exact h.parent_child hc
  constructor
  · intro id child hc
    rw [children_append hp] at hc
    split at hc
    · rename_i hid
      subst hid
      rcases List.mem_append.1 hc with hc | hc
      · exact old hc
      · rw [List.mem_singleton.1 hc, parent?_append hp, if_pos rfl]
        exact ⟨rfl, hp⟩
    · exact old hc
  · intro id
    rw [children_append hp]
    split
    · rw [List.nodup_append]
      refine ⟨h.nodup_children id, List.nodup_singleton _, ?_⟩
      intro child hc other ho
      rw [List.mem_singleton.1 ho]
      exact Nat.ne_of_lt (h.lt_size hc)
    · exact h.nodup_children id

/-- The document with the same nodes but for one text. -/
def replaceText (d : Document) (id : NodeId) (content : String) : Document :=
  { d with nodes := d.nodes.modify id fun node => { node with kind := .text content } }

theorem appendText_cases (d : Document) (parent : NodeId) (content : String) :
    d.appendText parent content = d.append parent (.text content) ∨
      ∃ id existing, d.kind id = .text existing ∧
        d.appendText parent content = d.replaceText id (existing ++ content) := by
  unfold appendText
  split
  · exact .inl rfl
  · rename_i last _
    split
    · rename_i existing hk
      exact .inr ⟨last, existing, hk, rfl⟩
    · exact .inl rfl

theorem parent?_replaceText (d : Document) (id : NodeId) (content : String) (x : NodeId) :
    (d.replaceText id content).parent? x = d.parent? x := by
  simp only [parent?, replaceText, Array.getElem?_modify]
  split
  · cases d.nodes[x]? <;> rfl
  · rfl

theorem children_replaceText (d : Document) (id : NodeId) (content : String) (x : NodeId) :
    (d.replaceText id content).children x = d.children x := by
  simp only [children, replaceText, Array.getElem?_modify]
  split
  · cases d.nodes[x]? <;> rfl
  · rfl

theorem element?_replaceText {d : Document} {id : NodeId} {existing : String}
    (h : d.kind id = .text existing) (content : String) (x : NodeId) :
    (d.replaceText id content).element? x = d.element? x := by
  have hk : (d.replaceText id content).kind x =
      if id = x then (d.nodes[x]?.map fun _ => .text content).getD .document else d.kind x := by
    simp only [Document.kind, replaceText, Array.getElem?_modify]
    split
    · cases d.nodes[x]? <;> rfl
    · rfl
  rw [element?, element?, hk]
  by_cases hid : id = x
  · subst hid
    rw [if_pos rfl, h]
    cases d.nodes[id]? <;> rfl
  · rw [if_neg hid]

/-! ## Well-formed documents -/

/-- A tree whose elements name each of their attributes once. -/
structure WellFormed (d : Document) : Prop extends Linked d where
  nodup_attributes (id : NodeId) : ((d.attributes id).map (·.name)).Nodup

/-- Every element is visited once. -/
theorem WellFormed.nodup_elements {d : Document} (h : d.WellFormed) : d.elements.Nodup :=
  (h.toLinked.nodup_subtree root).filter _

theorem wellFormed_empty : Document.empty.WellFormed := by
  have hchildren (id : NodeId) : Document.empty.children id = [] := by
    cases id <;> rfl
  have hattributes (id : NodeId) : Document.empty.attributes id = [] := by
    cases id <;> rfl
  refine ⟨⟨fun {id child} hc => ?_, fun id => ?_⟩, fun id => ?_⟩
  · rw [hchildren] at hc
    cases hc
  · rw [hchildren]
    exact List.nodup_nil
  · rw [hattributes]
    exact List.nodup_nil

theorem WellFormed.append {d : Document} (h : d.WellFormed) {parent : NodeId}
    (hp : parent < d.nodes.size) {kind : NodeKind}
    (hk : ∀ e, kind = .element e → (e.attributes.map (·.name)).Nodup) :
    (d.append parent kind).WellFormed := by
  refine ⟨h.toLinked.append hp kind, fun id => ?_⟩
  rw [attributes, element?, kind_append hp]
  split_ifs with hid
  · cases kind with
    | element e => exact hk e rfl
    | _ => exact List.nodup_nil
  · exact h.nodup_attributes id

end XslLowering.Document

/-! ## Reading -/

namespace XslLowering.Markup

open Text

theorem name_readAttribute {total : Nat} {seen : List (List Char × Nat)} {c : Char} {cs : List Char}
    {a : WrittenAttribute} (h : readAttribute total seen c cs = .ok a) :
    a.name ∉ seen.map Prod.fst := by
  simp only [readAttribute] at h
  split at h
  · split at h
    · cases h
    · rename_i hseen
      split at h
      · cases h
        rw [List.mem_map]
        rintro ⟨⟨name, position⟩, hm, rfl⟩
        rw [List.lookup_eq_none_iff] at hseen
        exact absurd (hseen _ hm) (by simp)
      · cases h
  · cases h

/-- Names of attributes that are read are new, and differ from each other. -/
theorem nodup_attributesFrom {resolve : String → Option String} {total : Nat}
    {seen : List (List Char × Nat)} {cs : List Char} {attributes : List Attribute}
    (h : attributesFrom resolve total seen cs = .ok attributes) :
    (attributes.map (·.name)).Nodup ∧ ∀ a ∈ attributes, a.name.toList ∉ seen.map Prod.fst := by
  induction hn : cs.length using Nat.strongRecOn generalizing cs seen attributes with
  | ind n ih =>
  subst hn
  rw [attributesFrom] at h
  split at h
  · cases h
    exact ⟨List.nodup_nil, by simp⟩
  rename_i c rest hd
  split at h
  · cases h
  rename_i a ha
  split at h
  · cases h
  split at h
  · cases h
  rename_i others hothers
  cases h
  have hlength : a.rest.length < cs.length := by
    have hrest := length_readAttribute ha
    have hle := (List.dropWhile_suffix isSpace (l := cs)).length_le
    rw [hd, List.length_cons] at hle
    omega
  obtain ⟨hnodup, hnew⟩ := ih _ hlength hothers rfl
  simp only [List.map_append, List.map_cons, List.map_nil, List.mem_append, List.mem_singleton,
    not_or] at hnew
  refine ⟨?_, ?_⟩
  · rw [List.map_cons, List.nodup_cons]
    refine ⟨fun hm => ?_, hnodup⟩
    obtain ⟨b, hb, he⟩ := List.mem_map.1 hm
    exact (hnew b hb).2 (by rw [he, String.toList_ofList])
  · rw [List.forall_mem_cons]
    refine ⟨?_, fun b hb => (hnew b hb).1⟩
    rw [String.toList_ofList]
    exact name_readAttribute ha

end XslLowering.Markup

namespace XslLowering.Document

open Markup

namespace Reading

theorem size_append (d : Document) (parent : NodeId) (kind : NodeKind) :
    (d.append parent kind).nodes.size = d.nodes.size + 1 := by
  simp [Document.append]

theorem size_appendText (d : Document) (parent : NodeId) (content : String) :
    d.nodes.size ≤ (d.appendText parent content).nodes.size := by
  rcases appendText_cases d parent content with he | ⟨id, existing, -, he⟩
  · rw [he, size_append]
    omega
  · rw [he]
    simp [replaceText]

theorem nodup_readElement {r : Reading} {content : List Char} {e : Element}
    (h : r.readElement content = .ok e) : (e.attributes.map (·.name)).Nodup := by
  unfold readElement at h
  split at h
  · rename_i attributes ha
    cases h
    exact (nodup_attributesFrom ha).1
  · cases h
  · cases h

end Reading

end XslLowering.Document
