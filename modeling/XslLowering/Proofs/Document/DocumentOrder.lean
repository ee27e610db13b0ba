import Mathlib.Data.List.Chain
import XslLowering.Proofs.Document.Frame

/-!
# Documents in document order

A document that was read numbers its nodes in the order in which they stand in the markup, keeps
neighbouring texts together, and has children only where elements can have them (`Ordered`).

* `Reading.Growing.step`, `Reading.Growing.steps`: reading goes on at the end of the document, along
  the last children of the open elements (`Spine`), and so keeps the order;
* `ordered_of_parse`: documents that were read are in order;
* `Ordered.setAttribute`: setting attributes keeps them so.
-/

namespace XslLowering.Document

/-! ## Subtrees -/

theorem Linked.subtree_eq {d : Document} (h : d.Linked) (id : NodeId) :
    d.subtree id = id :: (d.children id).flatMap d.subtree := by
  rw [subtree]
  congr 1
  refine List.flatMap_congr fun child hc => ?_
  rw [dif_pos ⟨(h.parent_child hc).2, h.lt_size hc⟩]

theorem mem_subtree_self (d : Document) (id : NodeId) : id ∈ d.subtree id :=
  mem_subtree.2 (.inl rfl)

/-- What stands below a node comes after it. -/
theorem Linked.le_of_mem_subtree {d : Document} (h : d.Linked) {id x : NodeId}
    (hx : x ∈ d.subtree id) : id ≤ x := by
  rcases h.covers_of_mem_subtree hx with rfl | hx
  · exact Nat.le_refl _
  · exact Nat.le_of_lt (lt_of_mem_ancestors hx)

section Append

variable {d : Document} (h : d.Linked) {parent : NodeId} (hp : parent < d.nodes.size)
  (kind : NodeKind)

include h hp

/-- A new node changes only what stands around it. -/
theorem subtree_append_of_not_mem {id : NodeId} (hid : id < d.nodes.size)
    (hm : parent ∉ d.subtree id) : (d.append parent kind).subtree id = d.subtree id := by
  induction hn : d.nodes.size - id using Nat.strongRecOn generalizing id with
  | ind n ih =>
  have hne : id ≠ parent := fun he => hm (he ▸ mem_subtree_self d id)
  rw [(h.append hp kind).subtree_eq, h.subtree_eq, children_append hp, if_neg hne]
  congr 1
  refine List.flatMap_congr fun child hc => ?_
  have hlt : id < child := (h.parent_child hc).2
  have hsize : child < d.nodes.size := h.lt_size hc
  refine ih _ (hn ▸ Nat.sub_lt_sub_left hid hlt) hsize (fun hchild => hm ?_) rfl
  exact mem_subtree.2 (.inr ⟨child, hc, hlt, hsize, hchild⟩)

theorem subtree_append_size : (d.append parent kind).subtree d.nodes.size = [d.nodes.size] := by
  have hchildren : d.children d.nodes.size = [] := by simp [children]
  rw [(h.append hp kind).subtree_eq, children_append hp, if_neg (Nat.ne_of_gt hp), hchildren]
  rfl

/-- The new node comes last among those below its parent. -/
theorem subtree_append_parent :
    (d.append parent kind).subtree parent = d.subtree parent ++ [d.nodes.size] := by
  have hold : (d.children parent).flatMap (d.append parent kind).subtree =
      (d.children parent).flatMap d.subtree := by
    refine List.flatMap_congr fun child hc => ?_
    refine subtree_append_of_not_mem h hp kind (h.lt_size hc) fun hm => ?_
    exact Nat.lt_irrefl _ (Nat.lt_of_lt_of_le (h.parent_child hc).2 (h.le_of_mem_subtree hm))
  rw [(h.append hp kind).subtree_eq, h.subtree_eq parent, children_append hp, if_pos rfl,
    List.flatMap_append, hold]
  simp [subtree_append_size h hp]

/-- If the new node comes last below the last child of a node, then it comes last below that node. -/
theorem subtree_append_outer {outer last : NodeId} (hl : (d.children outer).getLast? = some last)
    (hm : parent ∈ d.subtree last)
    (hs : (d.append parent kind).subtree last = d.subtree last ++ [d.nodes.size]) :
    parent ∈ d.subtree outer ∧
      (d.append parent kind).subtree outer = d.subtree outer ++ [d.nodes.size] := by
  obtain ⟨before, hchildren⟩ := List.getLast?_eq_some_iff.1 hl
  have hlast : last ∈ d.children outer := by simp [hchildren]
  have hlt : outer < last := (h.parent_child hlast).2
  have hne : outer ≠ parent := Nat.ne_of_lt (Nat.lt_of_lt_of_le hlt (h.le_of_mem_subtree hm))
  refine ⟨mem_subtree.2 (.inr ⟨last, hlast, hlt, h.lt_size hlast, hm⟩), ?_⟩
  -- The parent stands below the last child, and so below no other one.
  have hbefore : before.flatMap (d.append parent kind).subtree = before.flatMap d.subtree := by
    refine List.flatMap_congr fun child hc => ?_
    have hchild : child ∈ d.children outer := by simp [hchildren, hc]
    refine subtree_append_of_not_mem h hp kind (h.lt_size hchild) fun hmc => ?_
    have hsame : child = last := Covers.unique (h.parent_child hchild) (h.parent_child hlast)
      (h.covers_of_mem_subtree hmc) (h.covers_of_mem_subtree hm)
    have hnodup := h.nodup_children outer
    rw [hchildren, List.nodup_append] at hnodup
    exact hnodup.2.2 child hc last (by simp) hsame
  rw [(h.append hp kind).subtree_eq, h.subtree_eq outer, children_append hp, if_neg hne, hchildren,
    List.flatMap_append, List.flatMap_append, hbefore]
  simp [hs]

end Append

/-! ## Order -/

def isText (d : Document) (id : NodeId) : Bool :=
  match d.kind id with
  | .text _ => true
  | _ => false

/-- The nodes stand in the order of their numbers, only elements have children, and no text directly
follows another one. -/
structure Ordered (d : Document) : Prop extends WellFormed d where
  subtree_root : d.subtree root = List.range d.nodes.size
  increasing (id : NodeId) : (d.children id).Pairwise (· < ·)
  parent?_root : d.parent? root = none
  kind_eq_document {id : NodeId} : id < d.nodes.size → (d.kind id = .document ↔ id = root)
  children_eq_nil {id : NodeId} : id ≠ root → d.isElement id = false → d.children id = []
  texts_apart (id : NodeId) :
    (d.children id).IsChain fun a b => d.isText a = false ∨ d.isText b = false

theorem Ordered.nonempty {d : Document} (h : d.Ordered) : 0 < d.nodes.size := by
  have hm := mem_subtree_self d root
  rw [h.subtree_root] at hm
  exact List.mem_range.1 hm

theorem isElement_append {d : Document} {parent : NodeId} (hp : parent < d.nodes.size)
    (kind : NodeKind) {id : NodeId} (hid : id ≠ d.nodes.size) :
    (d.append parent kind).isElement id = d.isElement id := by
  rw [isElement, isElement, element?, element?, kind_append hp, if_neg hid]

theorem isText_append {d : Document} {parent : NodeId} (hp : parent < d.nodes.size)
    (kind : NodeKind) {id : NodeId} (hid : id ≠ d.nodes.size) :
    (d.append parent kind).isText id = d.isText id := by
  rw [isText, isText, kind_append hp, if_neg hid]

/-- A new text that follows no text. -/
theorem Ordered.texts_apart_append {d : Document} (h : d.Ordered) {parent : NodeId}
    (hp : parent < d.nodes.size) {kind : NodeKind}
    (htext : ∀ content, kind = .text content →
      ∀ last, (d.children parent).getLast? = some last → d.isText last = false) (id : NodeId) :
    ((d.append parent kind).children id).IsChain fun a b =>
      (d.append parent kind).isText a = false ∨ (d.append parent kind).isText b = false := by
  have hnew : ∀ child ∈ d.children id, child ≠ d.nodes.size :=
    fun child hc => Nat.ne_of_lt (h.lt_size hc)
  have hold : (d.children id).IsChain fun a b =>
      (d.append parent kind).isText a = false ∨ (d.append parent kind).isText b = false := by
    refine (h.texts_apart id).imp_of_mem_imp fun a b ha hb hab => ?_
    rwa [isText_append hp kind (hnew a ha), isText_append hp kind (hnew b hb)]
  rw [children_append hp]
  split
  · rename_i hid
    subst hid
    refine List.isChain_append.2 ⟨hold, List.isChain_singleton _, ?_⟩
    intro last hlast new hn
    obtain rfl : d.nodes.size = new := by simpa using hn
    have hlast' : last ≠ d.nodes.size := hnew last (List.mem_of_getLast? hlast)
    rw [isText_append hp kind hlast']
    cases kind with
    | text content => exact .inl (htext content rfl last hlast)
    | _ => exact .inr (by rw [isText, kind_append hp, if_pos rfl])
  · exact hold

/-- A new node that comes last in the document keeps the order. -/
theorem Ordered.append {d : Document} (h : d.Ordered) {parent : NodeId} (hp : parent < d.nodes.size)
    {kind : NodeKind} (hplace : parent = root ∨ d.isElement parent = true)
    (hroot : (d.append parent kind).subtree root = d.subtree root ++ [d.nodes.size])
    (hdoc : kind ≠ .document)
    (hnames : ∀ e, kind = .element e → (e.attributes.map (·.name)).Nodup)
    (htext : ∀ content, kind = .text content →
      ∀ last, (d.children parent).getLast? = some last → d.isText last = false) :
    (d.append parent kind).Ordered := by
  have hsize : (d.append parent kind).nodes.size = d.nodes.size + 1 := Reading.size_append ..
  refine ⟨h.toWellFormed.append hp hnames, ?_, fun id => ?_, ?_, fun {id} hid => ?_,
    fun {id} hid he => ?_, h.texts_apart_append hp htext⟩
  · rw [hroot, hsize, List.range_succ, h.subtree_root]
  · rw [children_append hp]
    split
    · refine List.pairwise_append.2 ⟨h.increasing id, List.pairwise_singleton .., ?_⟩
      intro child hc new hn
      rw [List.mem_singleton.1 hn]
      exact h.lt_size hc
    · exact h.increasing id
  · have hne : root ≠ d.nodes.size := Nat.ne_of_lt h.nonempty
    rw [parent?_append hp, if_neg hne]
    exact h.parent?_root
  · rw [kind_append hp]
    split
    · rename_i hid
      subst hid
      have hne : d.nodes.size ≠ root := Nat.ne_of_gt h.nonempty
      simp [hdoc, hne]
    · rename_i hne
      rw [hsize] at hid
      exact h.kind_eq_document (Nat.lt_of_le_of_ne (Nat.le_of_lt_succ hid) hne)
  · rw [children_append hp]
    by_cases hs : id = d.nodes.size
    · rw [if_neg (hs ▸ Nat.ne_of_gt hp), hs]
      simp [children]
    · rw [isElement_append hp kind hs] at he
      have hpar : id ≠ parent := by
        rintro rfl
        rcases hplace with rfl | hplace
        · exact hid rfl
        · rw [hplace] at he
          cases he
      rw [if_neg hpar]
      exact h.children_eq_nil hid he

/-! ## Longer texts -/

theorem kind_replaceText {d : Document} {id : NodeId} {existing : String}
    (h : d.kind id = .text existing) (content : String) (x : NodeId) :
    (d.replaceText id content).kind x = if x = id then .text content else d.kind x := by
  simp only [Document.kind, replaceText, Array.getElem?_modify]
  by_cases hx : x = id
  · subst hx
    rw [Document.kind] at h
    cases hnode : d.nodes[x]? with
    | none => simp [hnode] at h
    | some node => simp
  · rw [if_neg hx, if_neg (Ne.symm hx)]

theorem sameTree_replaceText {d : Document} {id : NodeId} {existing : String}
    (h : d.kind id = .text existing) (content : String) : SameTree d (d.replaceText id content) :=
  ⟨by simp [replaceText], parent?_replaceText d id content, children_replaceText d id content,
    fun x => by rw [name?, name?, element?_replaceText h]⟩

/-- The order does not depend on attributes, nor on what texts say. -/
theorem Ordered.of_sameTree {d d' : Document} (h : d.Ordered) (ht : SameTree d d')
    (hn : ∀ id, ((d'.attributes id).map (·.name)).Nodup)
    (hdoc : ∀ id, d'.kind id = .document ↔ d.kind id = .document)
    (htext : ∀ id, d'.isText id = d.isText id) : d'.Ordered := by
  refine ⟨h.toWellFormed.of_sameTree ht hn, ?_, fun id => ?_, ?_, fun {id} hid => ?_,
    fun {id} hid he => ?_, fun id => ?_⟩
  · rw [ht.subtree, ht.size]
    exact h.subtree_root
  · rw [ht.children]
    exact h.increasing id
  · rw [ht.parent?]
    exact h.parent?_root
  · rw [hdoc]
    exact h.kind_eq_document (ht.size ▸ hid)
  · rw [ht.children]
    rw [ht.isElement] at he
    exact h.children_eq_nil hid he
  · rw [ht.children]
    refine (h.texts_apart id).imp fun a b hab => ?_
    rwa [htext, htext]

theorem Ordered.replaceText {d : Document} (h : d.Ordered) {id : NodeId} {existing : String}
    (hk : d.kind id = .text existing) (content : String) : (d.replaceText id content).Ordered := by
  refine h.of_sameTree (sameTree_replaceText hk content) (fun x => ?_) (fun x => ?_) fun x => ?_
  · rw [attributes, element?_replaceText hk]
    exact h.nodup_attributes x
  · rw [kind_replaceText hk]
    split
    · rename_i hx
      rw [hx, hk]
      simp
    · rfl
  · rw [isText, isText, kind_replaceText hk]
    by_cases hx : x = id
    · rw [if_pos hx, hx, hk]
    · rw [if_neg hx]

theorem kind_setAttribute (d : Document) (id : NodeId) (name value : String) (x : NodeId) :
    (d.setAttribute id name value).kind x =
      match d.kind x with
      | .element e => .element (if id = x then e.setAttribute name value else e)
      | kind => kind := by
  rw [setAttribute_eq_mapElements]
  simp only [Document.kind, getElem?_mapElements]
  cases d.nodes[x]? with
  | none => rfl
  | some node => cases hk : node.kind <;> simp [Node.mapElement, hk]

theorem Ordered.setAttribute {d : Document} (h : d.Ordered) (id : NodeId) (name value : String) :
    (d.setAttribute id name value).Ordered := by
  refine h.of_sameTree (sameTree_setAttribute d id name value) (fun x => ?_) (fun x => ?_)
    fun x => ?_
  · cases he : d.isElement id with
    | true => exact (h.toWellFormed.setAttribute he).nodup_attributes x
    | false =>
      have hsame : (d.setAttribute id name value).element? x = d.element? x := by
        rw [setAttribute_eq_mapElements, element?_mapElements]
        by_cases hx : id = x
        · subst hx
          rw [isElement] at he
          cases hk : d.element? id with
          | none => rfl
          | some e => simp [hk] at he
        · simp [hx]
      rw [attributes, hsame]
      exact h.nodup_attributes x
  · rw [kind_setAttribute]
    cases d.kind x <;> simp
  · rw [isText, isText, kind_setAttribute]
    cases d.kind x <;> rfl

/-! ## Reading -/

/-- Each node is the last child of the one after it, and the last one of the document node. -/
def Spine (d : Document) : List NodeId → Prop
  | [] => True
  | id :: outer => (d.children (outer.head?.getD root)).getLast? = some id ∧ d.Spine outer

section Spine

variable {d : Document} (h : d.Linked)

include h

theorem Spine.lt {id : NodeId} {outer : List NodeId} (hs : d.Spine (id :: outer)) :
    outer.head?.getD root < id ∧ ∀ x ∈ outer, x < id := by
  induction outer generalizing id with
  | nil => exact ⟨(h.parent_child (List.mem_of_getLast? hs.1)).2, by simp⟩
  | cons o outer ih =>
    have ho : o < id := (h.parent_child (List.mem_of_getLast? hs.1)).2
    refine ⟨ho, List.forall_mem_cons.2 ⟨ho, fun x hx => ?_⟩⟩
    exact Nat.lt_trans ((ih hs.2).2 x hx) ho

/-- Growing at its inner end keeps a spine. -/
theorem Spine.append {opened : List NodeId} (hs : d.Spine opened) {parent : NodeId}
    (hp : parent < d.nodes.size) (hle : ∀ id ∈ opened, id ≤ parent) (kind : NodeKind) :
    (d.append parent kind).Spine opened := by
  induction opened with
  | nil => trivial
  | cons id outer ih =>
    have hlt := (hs.lt h).1
    have hid := hle id List.mem_cons_self
    refine ⟨?_, ih hs.2 fun x hx => hle x (List.mem_cons_of_mem _ hx)⟩
    rw [children_append hp, if_neg (Nat.ne_of_lt (Nat.lt_of_lt_of_le hlt hid))]
    exact hs.1

/-- What is added at the inner end of a spine comes last in the document. -/
theorem Spine.subtree_root {opened : List NodeId} (hs : d.Spine opened)
    (hp : opened.head?.getD root < d.nodes.size) (kind : NodeKind) :
    (d.append (opened.head?.getD root) kind).subtree root = d.subtree root ++ [d.nodes.size] := by
  have outwards (opened : List NodeId) (hs : d.Spine opened) {parent : NodeId}
      (hp : parent < d.nodes.size) (hm : parent ∈ d.subtree (opened.head?.getD root))
      (hsub : (d.append parent kind).subtree (opened.head?.getD root) =
        d.subtree (opened.head?.getD root) ++ [d.nodes.size]) :
      (d.append parent kind).subtree root = d.subtree root ++ [d.nodes.size] := by
    induction opened with
    | nil => exact hsub
    | cons id outer ih =>
      obtain ⟨hm, hsub⟩ := subtree_append_outer h hp kind hs.1 hm hsub
      exact ih hs.2 hm hsub
  exact outwards opened hs hp (mem_subtree_self d _) (subtree_append_parent h hp kind)

end Spine

namespace Reading

/-- What taking in a piece does: an element is added, and opened if it has content; the innermost
element is closed; a text goes on; or a node is added for what is not looked into. -/
theorem step_cases {r r' : Reading} {event : Markup.Event} {markup : List Char}
    (h : (r.step event markup).result = .ok r') :
    (∃ content e, event = .opening content ∧ r.readElement content = .ok e ∧
      r' = { r.append (.element e) with opened := r.document.nodes.size :: r.opened }) ∨
    (∃ content e, event = .empty content ∧ r.readElement content = .ok e ∧
      r' = r.append (.element e)) ∨
    (∃ name innermost outer, event = .closing name ∧ r.opened = innermost :: outer ∧
      r' = { r with opened := outer }) ∨
    (∃ content, (event = .text ∨ event = .reference) ∧
      Markup.unescape Markup.predefined markup = .ok content ∧ r' = r.appendText content) ∨
    (∃ fault, event = .reference ∧ Markup.unescape Markup.predefined markup = .error fault ∧
      r' = r.append (.entityRef (referenceName markup))) ∨
    (∃ kind, event = .raw kind ∧
      r' = { r.append (.raw kind (String.ofList markup)) with
        entities := if kind = .doctype then Markup.internalEntities (String.ofList markup)
          else r.entities }) := by
  cases event with
  | opening content =>
    obtain ⟨e, he, hr⟩ := Attempt.exists_of_result_bind h
    exact .inl ⟨content, e, rfl, he, (Except.ok.inj hr).symm⟩
  | empty content =>
    obtain ⟨e, he, hr⟩ := Attempt.exists_of_result_bind h
    exact .inr (.inl ⟨content, e, rfl, he, (Except.ok.inj hr).symm⟩)
  | closing name =>
    have hclose : r.close (String.ofList name) = .ok r' := h
    simp only [close] at hclose
    split at hclose
    · cases hclose
    · rename_i innermost outer ho
      split at hclose
      · exact .inr (.inr (.inl ⟨name, innermost, outer, rfl, ho, (Except.ok.inj hclose).symm⟩))
      · cases hclose
  | text =>
    simp only [step] at h
    split at h
    · rename_i content hc
      exact .inr (.inr (.inr (.inl ⟨content, .inl rfl, hc, (Except.ok.inj h).symm⟩)))
    · cases h
  | reference =>
    simp only [step] at h
    split at h
    · rename_i content hc
      exact .inr (.inr (.inr (.inl ⟨content, .inr rfl, hc, (Except.ok.inj h).symm⟩)))
    · rename_i fault hf
      exact .inr (.inr (.inr (.inr (.inl ⟨fault, rfl, hf, (Except.ok.inj h).symm⟩))))
  | raw kind =>
    simp only [step] at h
    refine .inr (.inr (.inr (.inr (.inr ⟨kind, rfl, ?_⟩))))
    rw [← Except.ok.inj h]
    split <;> rfl

/-- A document under construction is in order, and grows at its end. -/
structure Growing (r : Reading) : Prop where
  ordered : r.document.Ordered
  uri : r.document.uri = none
  spine : r.document.Spine r.opened
  opened_lt : ∀ id ∈ r.opened, id < r.document.nodes.size
  isElement : ∀ id ∈ r.opened, r.document.isElement id = true

namespace Growing

variable {r : Reading} (h : r.Growing)

include h

theorem current_lt : r.current < r.document.nodes.size := by
  rw [current]
  cases ho : r.opened with
  | nil => exact h.ordered.nonempty
  | cons id outer => exact h.opened_lt id (by simp [ho])

theorem current_eq : r.current = root ∨ r.document.isElement r.current = true := by
  rw [current]
  cases ho : r.opened with
  | nil => exact .inl rfl
  | cons id outer => exact .inr (h.isElement id (by simp [ho]))

theorem le_current : ∀ id ∈ r.opened, id ≤ r.current := by
  intro id hid
  have hspine := h.spine
  rw [current]
  cases ho : r.opened with
  | nil => simp [ho] at hid
  | cons inner outer =>
    rw [ho] at hid hspine
    rcases List.mem_cons.1 hid with rfl | hid
    · exact Nat.le_refl _
    · exact Nat.le_of_lt ((hspine.lt h.ordered.toLinked).2 id hid)

theorem append {kind : NodeKind} (hdoc : kind ≠ .document)
    (hnames : ∀ e, kind = .element e → (e.attributes.map (·.name)).Nodup)
    (htext : ∀ content, kind = .text content →
      ∀ last, (r.document.children r.current).getLast? = some last →
        r.document.isText last = false) :
    (r.append kind).Growing := by
  have hlinked := h.ordered.toLinked
  have hp := h.current_lt
  refine ⟨h.ordered.append hp h.current_eq (h.spine.subtree_root hlinked hp kind) hdoc hnames htext, h.uri,
    h.spine.append hlinked hp h.le_current kind, fun id hid => ?_, fun id hid => ?_⟩
  · have hlt := h.opened_lt id hid
    simp only [Reading.append, size_append]
    exact Nat.lt_succ_of_lt hlt
  · have hlt := h.opened_lt id hid
    simp only [Reading.append]
    rw [isElement_append hp kind (Nat.ne_of_lt hlt)]
    exact h.isElement id hid

theorem appendText (content : List Char) : (r.appendText content).Growing := by
  rw [Reading.appendText, Document.appendText]
  split
  · rename_i hlast
    refine h.append (by simp) (by simp) fun _ _ last hl => ?_
    rw [hlast] at hl
    cases hl
  · rename_i last hlast
    split
    · rename_i existing hk
      have hordered := h.ordered.replaceText hk (existing ++ String.ofList content)
      have htree := sameTree_replaceText hk (existing ++ String.ofList content)
      have hspine {opened : List NodeId} (hs : r.document.Spine opened) :
          (r.document.replaceText last (existing ++ String.ofList content)).Spine opened := by
        induction opened with
        | nil => trivial
        | cons id outer ih => exact ⟨by rw [htree.children]; exact hs.1, ih hs.2⟩
      refine ⟨hordered, h.uri, hspine h.spine, fun id hid => ?_, fun id hid => ?_⟩
      · exact Nat.lt_of_lt_of_eq (h.opened_lt id hid) htree.size.symm
      · exact (htree.isElement id).trans (h.isElement id hid)
    · rename_i hk
      refine h.append (by simp) (by simp) fun _ _ last' hl => ?_
      cases hlast.symm.trans hl
      rw [isText]
      split
      · rename_i existing hk'
        exact absurd hk' (hk existing)
      · rfl

/-- Every piece of markup keeps the order. -/
theorem step {r' : Reading} {event : Markup.Event} {markup : List Char}
    (hs : (r.step event markup).result = .ok r') : r'.Growing := by
  have element {content : List Char} {e : Element} (he : r.readElement content = .ok e) :
      (r.append (.element e)).Growing := by
    refine h.append (by simp) (fun _ heq => ?_) (by simp)
    cases heq
    exact nodup_readElement he
  rcases step_cases hs with ⟨content, e, -, he, rfl⟩ | ⟨content, e, -, he, rfl⟩ |
    ⟨name, innermost, outer, -, ho, rfl⟩ | ⟨content, -, -, rfl⟩ | ⟨fault, -, -, rfl⟩ | ⟨kind, -, rfl⟩
  · have happend := element he
    have hp := h.current_lt
    refine ⟨happend.ordered, happend.uri, ⟨?_, happend.spine⟩, ?_, ?_⟩
    · show (((r.document.append r.current (.element e)).children r.current).getLast? = _)
      rw [children_append hp, if_pos rfl]
      simp
    · refine List.forall_mem_cons.2 ⟨?_, happend.opened_lt⟩
      simp [Reading.append, size_append]
    · refine List.forall_mem_cons.2 ⟨?_, happend.isElement⟩
      show (r.document.append r.current (.element e)).isElement r.document.nodes.size = true
      rw [Document.isElement, element?, kind_append hp, if_pos rfl]
      rfl
  · exact element he
  · have hspine := h.spine
    rw [ho] at hspine
    exact ⟨h.ordered, h.uri, hspine.2, fun id hid => h.opened_lt id (by simp [ho, hid]),
      fun id hid => h.isElement id (by simp [ho, hid])⟩
  · exact h.appendText content
  · exact h.append (by simp) (by simp) (by simp)
  · have happend : (r.append (.raw kind (String.ofList markup))).Growing :=
      h.append (by simp) (by simp) (by simp)
    exact ⟨happend.ordered, happend.uri, happend.spine, happend.opened_lt, happend.isElement⟩

theorem steps {r' : Reading} {pieces : List (Markup.Event × List Char)}
    (hs : (r.steps pieces).result = .ok r') : r'.Growing := by
  induction pieces generalizing r with
  | nil =>
    cases hs
    exact h
  | cons piece pieces ih =>
    obtain ⟨next, hnext, hs⟩ := Attempt.exists_of_result_bind hs
    exact ih (h.step hnext) hs

end Growing

theorem growing_start : start.Growing := by
  have hchildren (id : NodeId) : start.document.children id = [] := by
    cases id <;> rfl
  have hwf : start.document.WellFormed := wellFormed_empty
  refine ⟨⟨hwf, ?_, fun id => ?_, rfl, fun {id} hid => ?_, fun {id} _ _ => ?_,
    fun id => ?_⟩, rfl, trivial, nofun, nofun⟩
  · rw [hwf.subtree_eq, hchildren]
    rfl
  · simp [hchildren]
  · have hid : id = 0 := Nat.lt_one_iff.1 hid
    subst hid
    exact ⟨fun _ => rfl, fun _ => rfl⟩
  · exact hchildren id
  · simp [hchildren]

/-- A reading has a document at the end of the source, if no element is open there. -/
theorem conclude_eq_ok {r : Reading} {severed : Option Markup.Event} {fault : Option Markup.Fault}
    {d : Document} (h : r.conclude severed fault = .ok d) :
    severed = none ∧ fault = none ∧ r.opened = [] ∧ r.document = d := by
  unfold conclude at h
  split at h
  · rename_i name
    cases hclose : r.close (String.ofList name) with
    | error e =>
      rw [hclose] at h
      cases h
    | ok closed =>
      rw [hclose] at h
      cases h
  · cases h
  · cases h
  · unfold finish at h
    split at h
    · rename_i hopened
      exact ⟨rfl, rfl, hopened, Except.ok.inj h⟩
    · cases h

end Reading

/-- What is read is read piece by piece, up to an end where no element is open. -/
theorem exists_steps_of_parse {source : String} {d : Document}
    (h : (Document.parse source).result = .ok d) :
    (Markup.pieces (body source.toList)).2 = none ∧
      (Markup.cutLike (Markup.pieces (body source.toList)).1 source.toList).2 = none ∧
      ∃ r : Reading, r.opened = [] ∧ r.document = d ∧
        (Reading.start.steps (Markup.cutLike (Markup.pieces (body source.toList)).1
          source.toList).1).result = .ok r := by
  obtain ⟨r, hr, hconclude⟩ := Attempt.exists_of_result_bind h
  obtain ⟨hsevered, hfault, hopened, hdocument⟩ := Reading.conclude_eq_ok hconclude
  exact ⟨hfault, hsevered, r, hopened, hdocument, hr⟩

/-- A document that was read is in order. -/
theorem ordered_of_parse {source : String} {d : Document}
    (h : (Document.parse source).result = .ok d) : d.Ordered := by
  obtain ⟨-, -, r, -, rfl, hr⟩ := exists_steps_of_parse h
  exact (Reading.growing_start.steps hr).ordered

/-- A document that was read is well formed. -/
theorem wellFormed_of_parse {source : String} {d : Document}
    (h : (Document.parse source).result = .ok d) : d.WellFormed :=
  (ordered_of_parse h).toWellFormed

theorem uri_of_parse {source : String} {d : Document}
    (h : (Document.parse source).result = .ok d) : d.uri = none := by
  obtain ⟨-, -, r, -, rfl, hr⟩ := exists_steps_of_parse h
  exact (Reading.growing_start.steps hr).uri

end XslLowering.Document
