import XslLowering.Proofs.Document.Legible

/-!
# Documents that are written and read again

Reading the markup of a document gives the document back, node for node.

* `Reading.Reads` says that reading gets over the start of a text; what is written for a text is read
  in several pieces, which are put together again (`Reading.reads_escapeText`).
* A node's markup is read where the nodes before it are there (`upTo`) and its parent is open. That
  holds of every node, by induction over what is below it (`Ordered.readsBack`), and so of all of a
  document in order (`Ordered.parse_toMarkup`).
* `parse_toMarkup_setAttributes`: hence documents that were read and edited come back, with the
  exception of those whose source had a byte order mark.
-/

namespace XslLowering.Document

open Markup Text

/-! ## Texts that are put together -/

theorem appendText_eq_append {d : Document} {parent : NodeId}
    (h : ∀ last, (d.children parent).getLast? = some last → d.isText last = false)
    (content : String) : d.appendText parent content = d.append parent (.text content) := by
  unfold appendText
  split
  · rfl
  · rename_i last hlast
    have hnot := h last hlast
    rw [isText] at hnot
    split
    · rename_i existing hk
      rw [hk] at hnot
      cases hnot
    · rfl

theorem appendText_eq_replaceText {d : Document} {parent last : NodeId} {existing : String}
    (hl : (d.children parent).getLast? = some last) (hk : d.kind last = .text existing)
    (content : String) :
    d.appendText parent content = d.replaceText last (existing ++ content) := by
  rw [appendText, hl]
  simp only [hk]
  rfl

theorem replaceText_replaceText (d : Document) (id : NodeId) (first second : String) :
    (d.replaceText id first).replaceText id second = d.replaceText id second := by
  refine ext_nodes (fun x => ?_) rfl
  simp only [replaceText, Array.getElem?_modify]
  split
  · rw [Option.map_map]
    rfl
  · rfl

theorem replaceText_append {d : Document} {parent : NodeId} (hp : parent < d.nodes.size)
    (first second : String) :
    (d.append parent (.text first)).replaceText d.nodes.size second =
      d.append parent (.text second) := by
  refine ext_nodes (fun x => ?_) rfl
  simp only [replaceText, Array.getElem?_modify, getElem?_append hp]
  by_cases hx : x = d.nodes.size
  · simp [hx]
  · simp [hx, Ne.symm hx]

/-- Two texts that follow each other are one. -/
theorem appendText_appendText {d : Document} {parent : NodeId} (hp : parent < d.nodes.size)
    (first second : String) :
    (d.appendText parent first).appendText parent second = d.appendText parent (first ++ second) := by
  by_cases h : ∀ last, (d.children parent).getLast? = some last → d.isText last = false
  · have hlast : ((d.append parent (.text first)).children parent).getLast? = some d.nodes.size := by
      rw [children_append hp, if_pos rfl, List.getLast?_concat]
    have hkind : (d.append parent (.text first)).kind d.nodes.size = .text first := by
      rw [kind_append hp, if_pos rfl]
    rw [appendText_eq_append h, appendText_eq_append h, appendText_eq_replaceText hlast hkind,
      replaceText_append hp]
  · obtain ⟨last, hlast, htext⟩ : ∃ last, (d.children parent).getLast? = some last ∧
        d.isText last = true := by simpa using h
    obtain ⟨existing, hk⟩ : ∃ existing, d.kind last = .text existing := by
      rw [isText] at htext
      split at htext
      · exact ⟨_, ‹_›⟩
      · cases htext
    have hlast' : ((d.replaceText last (existing ++ first)).children parent).getLast? = some last := by
      rw [children_replaceText, hlast]
    have hk' : (d.replaceText last (existing ++ first)).kind last = .text (existing ++ first) := by
      rw [kind_replaceText hk, if_pos rfl]
    rw [appendText_eq_replaceText hlast hk, appendText_eq_replaceText hlast hk,
      appendText_eq_replaceText hlast' hk', replaceText_replaceText, String.append_assoc]

/-! ## Reading the start of a text -/

namespace Reading

/-- Reading goes from the first state to the second one while it takes in what stands before the rest
of a text. -/
def Reads (r : Reading) (cs : List Char) (r' : Reading) (rest : List Char) : Prop :=
  ∃ ps, pieces cs = (ps ++ (pieces rest).1, (pieces rest).2) ∧
    (r.steps (ps.map fun p => (p.event, p.markup))).result = .ok r'

theorem steps_append {r r' : Reading} {first : List (Event × List Char)}
    (h : (r.steps first).result = .ok r') (second : List (Event × List Char)) :
    (r.steps (first ++ second)).result = (r'.steps second).result := by
  induction first generalizing r with
  | nil =>
    cases h
    rfl
  | cons p first ih =>
    obtain ⟨next, hnext, hs⟩ := Attempt.exists_of_result_bind h
    rw [List.cons_append, steps, Attempt.result_bind, hnext]
    exact ih hs

theorem Reads.refl (r : Reading) (cs : List Char) : r.Reads cs r cs := ⟨[], rfl, rfl⟩

theorem Reads.trans {r r' r'' : Reading} {cs cs' cs'' : List Char} (h : r.Reads cs r' cs')
    (h' : r'.Reads cs' r'' cs'') : r.Reads cs r'' cs'' := by
  obtain ⟨ps, hp, hs⟩ := h
  obtain ⟨ps', hp', hs'⟩ := h'
  refine ⟨ps ++ ps', ?_, ?_⟩
  · rw [hp, hp', List.append_assoc]
  · rw [List.map_append, steps_append hs, hs']

/-- Reading takes in one piece. -/
theorem reads_piece {r r' : Reading} {c : Char} {part rest : List Char} {event : Event}
    (hn : next c (part ++ rest) = .ok (event, rest))
    (hs : (r.step event (c :: part)).result = .ok r') : r.Reads (c :: (part ++ rest)) r' rest := by
  refine ⟨[⟨event, c :: part⟩], ?_, ?_⟩
  · have hlength : (part ++ rest).length + 1 - rest.length = part.length + 1 := by
      rw [List.length_append]
      omega
    rw [pieces]
    split
    · rename_i fault hfault
      rw [hn] at hfault
      cases hfault
    · rename_i event' rest' hok
      rw [hn] at hok
      cases hok
      simp only [hlength, List.take_succ_cons, List.take_left]
      rfl
  · rw [List.map_singleton, steps, Attempt.result_bind, hs]
    rfl

/-! ## Texts -/

/-- Nothing that a text before it would go on with. -/
def EndsText (rest : List Char) : Prop := ∀ c, rest.head? = some c → isTextChar c = false

theorem endsText_nil : EndsText [] := nofun

theorem endsText_cons {c : Char} (h : isTextChar c = false) (cs : List Char) : EndsText (c :: cs) := by
  intro d hd
  cases hd
  exact h

/-- The reading after some more characters, if there are any. -/
def withText (r : Reading) (content : List Char) : Reading :=
  if content = [] then r else r.appendText content

theorem withText_nil (r : Reading) : r.withText [] = r := rfl

theorem current_withText (r : Reading) (content : List Char) :
    (r.withText content).current = r.current := by
  rw [withText]
  split <;> rfl

theorem lt_size_withText {r : Reading} (h : r.current < r.document.nodes.size) (content : List Char) :
    (r.withText content).current < (r.withText content).document.nodes.size := by
  rw [current_withText, withText]
  split
  · exact h
  · exact Nat.lt_of_lt_of_le h (size_appendText ..)

theorem withText_withText {r : Reading} (h : r.current < r.document.nodes.size)
    (first second : List Char) : (r.withText first).withText second = r.withText (first ++ second) := by
  by_cases hf : first = []
  · rw [hf, withText_nil, List.nil_append]
  by_cases hs : second = []
  · rw [hs, withText_nil, List.append_nil]
  · have happend : first ++ second ≠ [] := List.append_ne_nil_of_left_ne_nil hf second
    rw [withText, if_neg hs, withText, if_neg hf, withText, if_neg happend]
    have hjoin := appendText_appendText h (String.ofList first) (String.ofList second)
    rw [← String.ofList_append] at hjoin
    exact congrArg (fun d => { r with document := d }) hjoin

theorem next_text {c : Char} (hc : isTextChar c = true) (cs : List Char) :
    next c cs = .ok (.text, cs.dropWhile isTextChar) := by
  have hamp : c ≠ '&' := ne_of_class hc (by decide)
  have hlt : c ≠ '<' := ne_of_class hc (by decide)
  unfold next
  rw [if_neg (by simp [hamp]), if_neg (by simp [hlt])]

theorem reads_run (r : Reading) {run rest : List Char} (ht : ∀ c ∈ run, isTextChar c = true)
    (hr : EndsText rest) : r.Reads (run ++ rest) (r.withText run) rest := by
  cases run with
  | nil => exact .refl r rest
  | cons c part =>
    obtain ⟨hc, hpart⟩ := List.forall_mem_cons.1 ht
    have hself : unescape predefined (c :: part) = .ok (c :: part) := unescapeFrom_eq_self ht
    have hnext : next c (part ++ rest) = .ok (.text, rest) := by
      rw [next_text hc, List.dropWhile_append_of_pos hpart, dropWhile_eq_self hr]
    refine reads_piece hnext ?_
    simp only [step, hself]
    rfl

theorem reads_reference (r : Reading) {c : Char} {markup : List Char} (hm : IsReferenceTo c markup)
    (rest : List Char) : r.Reads (markup ++ rest) (r.withText [c]) rest := by
  have hcontent := unescape_reference respects_predefined hm
  obtain ⟨body, rfl, hbody, -⟩ := hm
  have hnext : next '&' (body ++ [';'] ++ rest) = .ok (.reference, rest) := by
    rw [List.append_assoc]
    exact next_reference hbody rest
  have hstep : (r.step .reference ('&' :: (body ++ [';']))).result = .ok (r.withText [c]) := by
    rw [List.cons_append] at hcontent
    simp only [step, hcontent]
    rfl
  exact reads_piece hnext hstep

theorem escapeText_cons (c : Char) (cs : List Char) :
    escapeText (c :: cs) = escapeTextChar c ++ escapeText cs := rfl

/-- A text is read as it was written, after characters that need no escape. -/
theorem reads_escapeText {r : Reading} (h : r.current < r.document.nodes.size) {rest : List Char}
    (hr : EndsText rest) (content : List Char) {run : List Char}
    (ht : ∀ c ∈ run, isTextChar c = true) :
    r.Reads (run ++ (escapeText content ++ rest)) (r.withText (run ++ content)) rest := by
  induction content generalizing r run with
  | nil =>
    rw [List.append_nil]
    exact r.reads_run ht hr
  | cons c cs ih =>
    rw [escapeText_cons]
    rcases escapeTextChar_cases c with ⟨hplain, hc⟩ | hm
    · have hrun : ∀ d ∈ run ++ [c], isTextChar d = true := by
        intro d hd
        rcases List.mem_append.1 hd with hd | hd
        · exact ht d hd
        · rw [List.mem_singleton.1 hd, hc]
      have hread := ih h hrun
      rw [hplain]
      simpa using hread
    · have hamp : EndsText (escapeTextChar c ++ (escapeText cs ++ rest)) := by
        obtain ⟨body, hbody, -⟩ := hm
        rw [hbody]
        exact endsText_cons (by decide) _
      have hrun := r.reads_run ht hamp
      have href := (r.withText run).reads_reference hm (escapeText cs ++ rest)
      have hsize := lt_size_withText (lt_size_withText h run) [c]
      have hread : ((r.withText run).withText [c]).Reads (escapeText cs ++ rest)
          (((r.withText run).withText [c]).withText cs) rest :=
        ih hsize (List.forall_mem_nil _)
      have hwhole := withText_withText h run (c :: cs)
      rw [← List.singleton_append, ← withText_withText (lt_size_withText h run)] at hwhole
      rw [List.append_assoc, ← List.singleton_append, ← hwhole]
      exact hrun.trans (href.trans hread)

end Reading

/-- A text is read if all of it is taken in and no element is left open. -/
theorem parse_of_reads {source : String} (hb : source.toList.head? ≠ some byteOrderMark) {r : Reading}
    (h : Reading.start.Reads source.toList r []) (ho : r.opened = []) :
    (parse source).result = .ok r.document := by
  obtain ⟨ps, hp, hs⟩ := h
  have hfault : (pieces source.toList).2 = none := by
    rw [hp]
    simp [pieces]
  have hparts : (pieces source.toList).1 = ps := by
    rw [hp]
    simp [pieces]
  simp only [parse, body_eq_self hb, cutLike_pieces hfault, hfault]
  rw [Attempt.result_bind, hparts, hs]
  show r.finish = _
  rw [Reading.finish, ho]

/-! ## The first nodes of a document -/

/-- The document with its first `n` nodes only. -/
def upTo (d : Document) (n : Nat) : Document :=
  { d with nodes := (d.nodes.extract 0 n).map fun node =>
      { node with children := node.children.filter (· < n) } }

theorem getElem?_upTo (d : Document) (n : Nat) (id : NodeId) :
    (d.upTo n).nodes[id]? =
      if id < n then d.nodes[id]?.map fun node =>
        { node with children := node.children.filter (· < n) }
      else none := by
  simp only [upTo, Array.getElem?_map, Array.getElem?_extract, Nat.sub_zero, Nat.zero_add]
  by_cases hs : id < d.nodes.size
  · simp only [Nat.lt_min, hs, and_true]
    split <;> rfl
  · have hnone : d.nodes[id]? = none := Array.getElem?_eq_none (Nat.le_of_not_lt hs)
    rw [if_neg fun h => hs (Nat.lt_min.1 h).2, hnone]
    split <;> rfl

theorem kind_upTo (d : Document) {n : Nat} {id : NodeId} (h : id < n) :
    (d.upTo n).kind id = d.kind id := by
  rw [Document.kind, Document.kind, getElem?_upTo, if_pos h, Option.map_map]
  rfl

theorem children_upTo (d : Document) {n : Nat} {id : NodeId} (h : id < n) :
    (d.upTo n).children id = (d.children id).filter (· < n) := by
  rw [children, children, getElem?_upTo, if_pos h]
  cases d.nodes[id]? <;> rfl

theorem size_upTo (d : Document) {n : Nat} (h : n ≤ d.nodes.size) : (d.upTo n).nodes.size = n := by
  simp [upTo, h]

theorem filter_lt_middle {before after : List NodeId} {n : NodeId}
    (hi : (before ++ n :: after).Pairwise (· < ·)) :
    (before ++ n :: after).filter (· < n) = before ∧
      (before ++ n :: after).filter (· < n + 1) = before ++ [n] := by
  obtain ⟨-, hafter, hbefore⟩ := List.pairwise_append.1 hi
  have hb : ∀ x ∈ before, x < n := fun x hx => hbefore x hx n List.mem_cons_self
  have ha : ∀ x ∈ after, n < x := (List.pairwise_cons.1 hafter).1
  have hkeep {m : Nat} (hm : n ≤ m) : before.filter (· < m) = before :=
    List.filter_eq_self.2 fun x hx => decide_eq_true (Nat.lt_of_lt_of_le (hb x hx) hm)
  have hdrop {m : Nat} (hm : m ≤ n + 1) : after.filter (· < m) = [] :=
    List.filter_eq_nil_iff.2 fun x hx => by simpa using Nat.le_trans hm (ha x hx)
  rw [List.filter_append, List.filter_append, List.filter_cons_of_neg (by simp),
    List.filter_cons_of_pos (by simp), hkeep (Nat.le_refl n), hkeep (Nat.le_succ n),
    hdrop (Nat.le_succ n), hdrop (Nat.le_refl _), List.append_nil]
  exact ⟨rfl, rfl⟩

theorem filter_lt_succ {ids : List NodeId} (hi : ids.Pairwise (· < ·)) {n : NodeId} (hn : n ∈ ids) :
    ids.filter (· < n + 1) = ids.filter (· < n) ++ [n] := by
  obtain ⟨before, after, rfl⟩ := List.append_of_mem hn
  rw [(filter_lt_middle hi).1, (filter_lt_middle hi).2]

theorem filter_lt_succ_of_not_mem {ids : List NodeId} {n : NodeId} (hn : n ∉ ids) :
    ids.filter (· < n + 1) = ids.filter (· < n) := by
  refine List.filter_congr fun x hx => ?_
  have hne : x ≠ n := fun he => hn (he ▸ hx)
  simp only [decide_eq_decide]
  exact ⟨fun h => Nat.lt_of_le_of_ne (Nat.le_of_lt_succ h) hne, Nat.lt_succ_of_lt⟩

/-- The next node is appended to its parent. -/
theorem Ordered.upTo_succ {d : Document} (h : d.Ordered) {n p : NodeId} (hn : n ∈ d.children p) :
    (d.upTo n).append p (d.kind n) = d.upTo (n + 1) := by
  obtain ⟨hparent, hpn⟩ := h.parent_child hn
  have hsize := size_upTo d (Nat.le_of_lt (h.lt_size hn))
  have hp : p < (d.upTo n).nodes.size := hsize.symm ▸ hpn
  refine ext_nodes (fun id => ?_) rfl
  rw [getElem?_append hp, hsize, getElem?_upTo, getElem?_upTo]
  by_cases hid : id = n
  · subst hid
    obtain ⟨node, hnode⟩ : ∃ node, d.nodes[id]? = some node :=
      ⟨_, Array.getElem?_eq_getElem (h.lt_size hn)⟩
    have hchildren : node.children.filter (· < id + 1) = [] := by
      refine List.filter_eq_nil_iff.2 fun child hc => ?_
      have hlt : id < child := (h.parent_child (by rw [children, hnode]; exact hc)).2
      simpa using Nat.succ_le_of_lt hlt
    have hparent' : node.parent = some p := by simpa [parent?, hnode] using hparent
    rw [if_pos rfl, if_pos (Nat.lt_succ_self id), Document.kind, hnode, Option.map_some, Option.map_some,
      hchildren, hparent']
    rfl
  · rw [if_neg hid]
    by_cases hlt : id < n
    · rw [if_pos hlt, if_pos (Nat.lt_succ_of_lt hlt)]
      cases hnode : d.nodes[id]? with
      | none => split <;> rfl
      | some node =>
        have hchildren : d.children id = node.children := by rw [children, hnode]; rfl
        split
        · rename_i hidp
          subst hidp
          rw [Option.map_some, Option.map_some, Option.map_some, ← hchildren,
            filter_lt_succ (h.increasing id) hn]
        · rename_i hidp
          have hnot : n ∉ node.children := by
            intro hmem
            rw [← hchildren] at hmem
            exact hidp (Option.some.inj ((h.parent_child hmem).1.symm.trans hparent))
          rw [Option.map_some, Option.map_some, filter_lt_succ_of_not_mem hnot]
    · have hgt : ¬id < n + 1 := fun hle => hid (Nat.le_antisymm (Nat.le_of_lt_succ hle) (Nat.le_of_not_lt hlt))
      have hidp : id ≠ p := fun he => hlt (he ▸ hpn)
      rw [if_neg hidp, if_neg hlt, if_neg hgt]

theorem Ordered.upTo_size {d : Document} (h : d.Ordered) : d.upTo d.nodes.size = d := by
  refine ext_nodes (fun id => ?_) rfl
  rw [getElem?_upTo]
  split
  · cases hnode : d.nodes[id]? with
    | none => rfl
    | some node =>
      have hchildren : node.children.filter (· < d.nodes.size) = node.children := by
        refine List.filter_eq_self.2 fun child hc => ?_
        have hmem : child ∈ d.children id := by rw [children, hnode]; exact hc
        exact decide_eq_true (h.lt_size hmem)
      rw [Option.map_some, hchildren]
  · rename_i hge
    rw [Array.getElem?_eq_none (Nat.le_of_not_lt hge)]

theorem Ordered.upTo_one {d : Document} (h : d.Ordered) (hu : d.uri = none) : d.upTo 1 = empty := by
  refine ext_nodes (fun id => ?_) hu
  rw [getElem?_upTo]
  cases id with
  | zero =>
    obtain ⟨node, hnode⟩ : ∃ node, d.nodes[0]? = some node :=
      ⟨_, Array.getElem?_eq_getElem h.nonempty⟩
    have hkind : node.kind = .document := by
      have hroot : d.kind 0 = .document := (h.kind_eq_document h.nonempty).2 rfl
      rwa [Document.kind, hnode] at hroot
    have hparent : node.parent = none := by
      have hroot : d.parent? 0 = none := h.parent?_root
      rwa [parent?, hnode] at hroot
    have hchildren : node.children.filter (· < 1) = [] := by
      refine List.filter_eq_nil_iff.2 fun child hc => ?_
      have hmem : child ∈ d.children 0 := by rw [children, hnode]; exact hc
      simpa using Nat.ne_of_gt (h.parent_child hmem).2
    rw [if_pos Nat.one_pos, hnode, Option.map_some, hkind, hparent, hchildren]
    rfl
  | succ id =>
    rw [if_neg (by simp)]
    rfl

/-! ## Markup of nodes -/

section Markup

variable {d : Document} (h : d.Linked) {id : NodeId}

include h

theorem Linked.flatMap_nodeMarkup :
    ((d.children id).flatMap fun child =>
      if _h : id < child ∧ child < d.nodes.size then d.nodeMarkup child else []) =
        (d.children id).flatMap d.nodeMarkup := by
  refine List.flatMap_congr fun child hc => ?_
  rw [dif_pos ⟨(h.parent_child hc).2, h.lt_size hc⟩]

theorem Linked.nodeMarkup_document (hk : d.kind id = .document) :
    d.nodeMarkup id = (d.children id).flatMap d.nodeMarkup := by
  rw [nodeMarkup, h.flatMap_nodeMarkup, hk]

theorem Linked.nodeMarkup_element {e : Element} (hk : d.kind id = .element e) :
    d.nodeMarkup id = elementMarkup e
      (if (d.children id).isEmpty then none else some ((d.children id).flatMap d.nodeMarkup)) := by
  rw [nodeMarkup, h.flatMap_nodeMarkup, hk]

end Markup

theorem elementMarkup_none (e : Element) (rest : List Char) :
    elementMarkup e none ++ rest = '<' :: (e.content ++ '/' :: '>' :: rest) := by
  simp [elementMarkup, Element.content]

theorem elementMarkup_some (e : Element) (inner rest : List Char) :
    elementMarkup e (some inner) ++ rest =
      '<' :: (e.content ++ '>' :: (inner ++ '<' :: ('/' :: e.name.toList ++ '>' :: rest))) := by
  simp [elementMarkup, Element.content]

/-- Markup other than that of a text does not go on with a text before it. -/
theorem endsText_nodeMarkup {d : Document} (h : d.Linked) (hl : d.Legible) {id : NodeId}
    (hd : d.kind id ≠ .document) (ht : d.isText id = false) (rest : List Char) :
    Reading.EndsText (d.nodeMarkup id ++ rest) := by
  have hid := hl id
  cases hk : d.kind id with
  | document => exact absurd hk hd
  | element e =>
    rw [h.nodeMarkup_element hk]
    split
    · rw [elementMarkup_none]
      exact Reading.endsText_cons (by decide) _
    · rw [elementMarkup_some]
      exact Reading.endsText_cons (by decide) _
  | text content =>
    rw [isText, hk] at ht
    cases ht
  | entityRef name =>
    rw [nodeMarkup, hk]
    exact Reading.endsText_cons (by decide) _
  | raw kind markup =>
    rw [hk] at hid
    obtain ⟨part, hpart, -⟩ := hid
    rw [nodeMarkup, hk]
    simp only [hpart]
    exact Reading.endsText_cons (by decide) _

/-! ## Reading the markup of nodes -/

/-- The node's markup is read as the node and what is below it, where the nodes before it are there
and its parent is open. -/
def ReadsBack (d : Document) (parent id : NodeId) : Prop :=
  ∀ (k : Nat) (r : Reading) (rest : List Char), d.subtree id = List.range' id k →
    r.document = d.upTo id → r.current = parent → (d.isText id = true → Reading.EndsText rest) →
    ∃ r' : Reading, r.Reads (d.nodeMarkup id ++ rest) r' rest ∧ r'.document = d.upTo (id + k) ∧
      r'.opened = r.opened

theorem range'_split {first second : List NodeId} {m k : Nat}
    (h : first ++ second = List.range' m k) :
    first = List.range' m first.length ∧
      second = List.range' (m + first.length) (k - first.length) := by
  have hlength : first.length + second.length = k := by
    rw [← List.length_append, h, List.length_range']
  have hsplit : List.range' m first.length ++ List.range' (m + first.length) (k - first.length) =
      List.range' m k := by
    rw [List.range'_append_1]
    congr 1
    omega
  exact List.append_inj (h.trans hsplit.symm) List.length_range'.symm

theorem Ordered.kind_child {d : Document} (h : d.Ordered) {parent id : NodeId}
    (hc : id ∈ d.children parent) : id ≠ root ∧ d.kind id ≠ .document := by
  have hne : id ≠ root := Nat.ne_of_gt (Nat.lt_of_le_of_lt (Nat.zero_le parent) (h.parent_child hc).2)
  exact ⟨hne, fun hk => hne ((h.kind_eq_document (h.lt_size hc)).1 hk)⟩

/-- Nodes that follow each other are read one after the other. -/
theorem exists_reads_nodes {d : Document} (h : d.Ordered) (hl : d.Legible) {parent : NodeId}
    {ids : List NodeId} (hc : ∀ id ∈ ids, id ∈ d.children parent)
    (hi : ∀ id ∈ ids, d.ReadsBack parent id)
    (ha : ids.IsChain fun a b => d.isText a = false ∨ d.isText b = false) {m k : Nat} (r : Reading)
    (rest : List Char) (hs : ids.flatMap d.subtree = List.range' m k) (hd : r.document = d.upTo m)
    (hp : r.current = parent) (hr : Reading.EndsText rest) :
    ∃ r' : Reading, r.Reads (ids.flatMap d.nodeMarkup ++ rest) r' rest ∧
      r'.document = d.upTo (m + k) ∧ r'.opened = r.opened := by
  induction ids generalizing m k r with
  | nil =>
    have hk : k = 0 := by simpa using hs.symm
    exact ⟨r, .refl r rest, by rw [hk, Nat.add_zero, hd], rfl⟩
  | cons id ids ih =>
    rw [List.flatMap_cons] at hs
    obtain ⟨hfirst, hothers⟩ := range'_split hs
    have hlength : (d.subtree id).length + (ids.flatMap d.subtree).length = k := by
      rw [← List.length_append, hs, List.length_range']
    -- The first node of a subtree is the one it belongs to.
    obtain rfl : id = m := by
      have hhead := congrArg List.head? hfirst
      rw [h.subtree_eq, List.length_cons, List.range'_succ] at hhead
      exact Option.some.inj hhead
    have hends : d.isText id = true → Reading.EndsText (ids.flatMap d.nodeMarkup ++ rest) := by
      intro htext
      cases ids with
      | nil => exact hr
      | cons next ids =>
        have hnext : d.isText next = false := by
          rcases (List.isChain_cons_cons.1 ha).1 with hid | hnext
          · rw [htext] at hid
            cases hid
          · exact hnext
        have hkind := (h.kind_child (hc next (by simp))).2
        rw [List.flatMap_cons, List.append_assoc]
        exact endsText_nodeMarkup h.toLinked hl hkind hnext _
    obtain ⟨r₁, hreads₁, hd₁, ho₁⟩ := hi id List.mem_cons_self _ r _ hfirst hd hp hends
    have hp₁ : r₁.current = parent := by rw [← hp, Reading.current, Reading.current, ho₁]
    obtain ⟨r₂, hreads₂, hd₂, ho₂⟩ := ih (fun x hx => hc x (List.mem_cons_of_mem id hx))
      (fun x hx => hi x (List.mem_cons_of_mem id hx)) (List.IsChain.tail ha) r₁ hothers hd₁ hp₁
    refine ⟨r₂, ?_, ?_, ho₂.trans ho₁⟩
    · rw [List.flatMap_cons, List.append_assoc]
      exact hreads₁.trans hreads₂
    · rw [hd₂]
      congr 1
      omega

/-! ### One node -/

theorem isText_upTo (d : Document) {n : Nat} {id : NodeId} (h : id < n) :
    (d.upTo n).isText id = d.isText id := by
  rw [isText, isText, kind_upTo d h]

/-- Where a text is read, no text stands directly before it. -/
theorem Ordered.not_isText_before {d : Document} (h : d.Ordered) {parent id last : NodeId}
    (hc : id ∈ d.children parent) (ht : d.isText id = true)
    (hl : ((d.upTo id).children parent).getLast? = some last) : (d.upTo id).isText last = false := by
  have hlt := (h.parent_child hc).2
  obtain ⟨before, after, hchildren⟩ := List.append_of_mem hc
  have hincreasing := h.increasing parent
  have hapart := h.texts_apart parent
  rw [hchildren] at hincreasing hapart
  rw [children_upTo d hlt, hchildren, (filter_lt_middle hincreasing).1] at hl
  have hlast : last < id :=
    (List.pairwise_append.1 hincreasing).2.2 last (List.mem_of_getLast? hl) id List.mem_cons_self
  rw [isText_upTo d hlast]
  rcases (List.isChain_append.1 hapart).2.2 last hl id rfl with hnot | hnot
  · exact hnot
  · rw [ht] at hnot
    cases hnot

theorem Ordered.subtree_leaf {d : Document} (h : d.Ordered) {id : NodeId} {k : Nat} (hne : id ≠ root)
    (he : d.isElement id = false) (hs : d.subtree id = List.range' id k) : k = 1 := by
  have hlength := congrArg List.length hs
  rw [h.subtree_eq, h.children_eq_nil hne he, List.flatMap_nil, List.length_range'] at hlength
  exact hlength.symm

theorem WellFormed.nodup_of_kind {d : Document} (h : d.WellFormed) {id : NodeId} {e : Element}
    (hk : d.kind id = .element e) : (e.attributes.map (·.name)).Nodup := by
  have hnodup := h.nodup_attributes id
  rwa [attributes, element?, hk] at hnodup

/-- Where the nodes of a subtree follow each other, so do those below its root. -/
theorem Linked.flatMap_subtree_children {d : Document} (h : d.Linked) {id : NodeId} {k : Nat}
    (hs : d.subtree id = List.range' id (k + 1)) :
    (d.children id).flatMap d.subtree = List.range' (id + 1) k := by
  rw [h.subtree_eq, List.range'_succ] at hs
  exact (List.cons.inj hs).2

section Node

variable {d : Document} (h : d.Ordered) {parent id : NodeId} (hc : id ∈ d.children parent)

include h hc

/-- The next node is appended where reading has come to. -/
theorem Ordered.document_append {r : Reading} (hd : r.document = d.upTo id) (hp : r.current = parent) :
    (r.append (d.kind id)).document = d.upTo (id + 1) := by
  show r.document.append r.current (d.kind id) = _
  rw [hd, hp, h.upTo_succ hc]

theorem Ordered.readsBack_text {content : String} (hk : d.kind id = .text content)
    (hne : content ≠ "") : d.ReadsBack parent id := by
  intro k r rest hs hd hp ht
  have htext : d.isText id = true := by rw [isText, hk]
  have hk1 : k = 1 := h.subtree_leaf (h.kind_child hc).1 (by rw [isElement, element?, hk]; rfl) hs
  have hcurrent : r.current < r.document.nodes.size := by
    rw [hp, hd, size_upTo d (Nat.le_of_lt (h.lt_size hc))]
    exact (h.parent_child hc).2
  have hreads := Reading.reads_escapeText hcurrent (ht htext) content.toList (List.forall_mem_nil _)
  have happend : r.document.appendText r.current content = r.document.append r.current (d.kind id) := by
    rw [hk]
    refine appendText_eq_append (fun last hlast => ?_) content
    rw [hd] at hlast ⊢
    rw [hp] at hlast
    exact h.not_isText_before hc htext hlast
  have hwith : (r.withText content.toList).document = r.document.appendText r.current content := by
    have hnil : content.toList ≠ [] := fun hnil => hne (String.toList_eq_nil_iff.1 hnil)
    rw [Reading.withText, if_neg hnil, Reading.appendText, String.ofList_toList]
  refine ⟨r.withText content.toList, ?_, ?_, ?_⟩
  · rw [nodeMarkup, hk]
    exact hreads
  · rw [hwith, happend, hk1]
    exact h.document_append hc hd hp
  · rw [Reading.withText]
    split <;> rfl

theorem Ordered.readsBack_entityRef {name : String} (hk : d.kind id = .entityRef name)
    (hl : (d.kind id).Legible) : d.ReadsBack parent id := by
  intro k r rest hs hd hp _
  have hk1 : k = 1 := h.subtree_leaf (h.kind_child hc).1 (by rw [isElement, element?, hk]; rfl) hs
  rw [hk] at hl
  obtain ⟨htext, fault, hfault⟩ := hl
  have hnext : next '&' (name.toList ++ [';'] ++ rest) = .ok (.reference, rest) := by
    rw [List.append_assoc]
    exact next_reference htext rest
  have hstep : (r.step .reference ('&' :: (name.toList ++ [';']))).result = .ok (r.append (d.kind id)) := by
    have hname := Reading.referenceName_eq htext
    rw [List.cons_append] at hfault hname
    simp only [Reading.step, hfault, hname, hk, String.ofList_toList]
    rfl
  have hmarkup : d.nodeMarkup id = '&' :: name.toList ++ [';'] := by rw [nodeMarkup, hk]
  refine ⟨r.append (d.kind id), ?_, ?_, rfl⟩
  · rw [hmarkup]
    exact Reading.reads_piece hnext hstep
  · rw [hk1]
    exact h.document_append hc hd hp

theorem Ordered.readsBack_raw {kind : RawKind} {markup : String} (hk : d.kind id = .raw kind markup)
    (hl : StandsAlone kind markup.toList) : d.ReadsBack parent id := by
  intro k r rest hs hd hp _
  have hk1 : k = 1 := h.subtree_leaf (h.kind_child hc).1 (by rw [isElement, element?, hk]; rfl) hs
  obtain ⟨part, hpart, hnext⟩ := hl
  obtain ⟨r', hstep, hdocument, hopened⟩ : ∃ r', (r.step (.raw kind) ('<' :: part)).result = .ok r' ∧
      r'.document = (r.append (d.kind id)).document ∧ r'.opened = r.opened := by
    refine ⟨_, rfl, ?_, ?_⟩
    · rw [← hpart, String.ofList_toList, hk]
      split <;> rfl
    · split <;> rfl
  refine ⟨r', ?_, ?_, hopened⟩
  · rw [nodeMarkup, hk]
    simp only [hpart]
    exact Reading.reads_piece (hnext rest) hstep
  · rw [hdocument, hk1]
    exact h.document_append hc hd hp

/-- An element without children is one tag. -/
theorem Ordered.readsBack_empty {e : Element} (hk : d.kind id = .element e) (hn : e.HasNames)
    (hnil : d.children id = []) : d.ReadsBack parent id := by
  intro k r rest hs hd hp _
  have hk1 : k = 1 := by
    have hlength := congrArg List.length hs
    rw [h.subtree_eq, hnil, List.flatMap_nil, List.length_range'] at hlength
    exact hlength.symm
  have hnames := h.nodup_of_kind hk
  have hnext : next '<' (e.content ++ ['/', '>'] ++ rest) = .ok (.empty e.content, rest) := by
    rw [List.append_assoc]
    exact Element.next_empty hn rest
  have hstep (markup : List Char) :
      (r.step (.empty e.content) markup).result = .ok (r.append (d.kind id)) := by
    rw [Reading.step, Attempt.result_bind, Attempt.result_ofExcept, r.readElement_content hn hnames, hk]
    rfl
  refine ⟨r.append (d.kind id), ?_, ?_, rfl⟩
  · have hmarkup : d.nodeMarkup id ++ rest = '<' :: (e.content ++ ['/', '>'] ++ rest) := by
      rw [h.nodeMarkup_element hk, hnil, List.isEmpty_nil, if_pos rfl, elementMarkup_none,
        List.append_assoc]
      rfl
    rw [hmarkup]
    exact Reading.reads_piece hnext (hstep _)
  · rw [hk1]
    exact h.document_append hc hd hp

/-- An element is read back if its children are. -/
theorem Ordered.readsBack_element (hl : d.Legible) {e : Element} (hk : d.kind id = .element e)
    (hn : e.HasNames) (hne : d.children id ≠ [])
    (hi : ∀ child ∈ d.children id, d.ReadsBack id child) : d.ReadsBack parent id := by
  intro k r rest hs hd hp _
  have hnames := h.nodup_of_kind hk
  obtain ⟨k, rfl⟩ : ∃ n, k = n + 1 := by
    cases k with
    | zero =>
      rw [h.subtree_eq] at hs
      cases hs
    | succ n => exact ⟨n, rfl⟩
  have hbelow := h.flatMap_subtree_children hs
  -- The start tag opens the element, ...
  have hsize : r.document.nodes.size = id := by
    rw [hd, size_upTo d (Nat.le_of_lt (h.lt_size hc))]
  have hopen : next '<' (e.content ++ ['>'] ++ ((d.children id).flatMap d.nodeMarkup ++
      '<' :: ('/' :: e.name.toList ++ '>' :: rest))) = .ok (.opening e.content,
        (d.children id).flatMap d.nodeMarkup ++ '<' :: ('/' :: e.name.toList ++ '>' :: rest)) := by
    rw [List.append_assoc]
    exact Element.next_opening hn _
  have hopened : (r.step (.opening e.content) ('<' :: (e.content ++ ['>']))).result =
      .ok { r.append (d.kind id) with opened := id :: r.opened } := by
    rw [Reading.step, Attempt.result_bind, Attempt.result_ofExcept, r.readElement_content hn hnames, hk]
    simp only [hsize]
    rfl
  -- ... then its children are read, ...
  obtain ⟨r₁, hreads, hd₁, ho₁⟩ := exists_reads_nodes h hl (fun _ hx => hx) hi (h.texts_apart id)
    { r.append (d.kind id) with opened := id :: r.opened }
    ('<' :: ('/' :: e.name.toList ++ '>' :: rest)) hbelow (h.document_append hc hd hp) rfl
    (Reading.endsText_cons (by decide) _)
  -- ... and the end tag closes it.
  have hclose : next '<' ('/' :: e.name.toList ++ ['>'] ++ rest) = .ok (.closing e.name.toList, rest) := by
    rw [List.append_assoc]
    exact Element.next_closing hn.1 rest
  have hclosed : (r₁.step (.closing e.name.toList) ('<' :: ('/' :: e.name.toList ++ ['>']))).result =
      .ok { r₁ with opened := r.opened } := by
    have hname : (r₁.document.name? id).getD "" = e.name := by
      rw [hd₁, name?, element?, kind_upTo d (Nat.lt_add_right k (Nat.lt_succ_self id)), hk]
      rfl
    rw [Reading.step, Attempt.result_ofExcept, Reading.close, ho₁]
    simp only [hname, String.ofList_toList, beq_self_eq_true, if_true]
  refine ⟨{ r₁ with opened := r.opened }, ?_, ?_, rfl⟩
  · have hmarkup : d.nodeMarkup id ++ rest = '<' :: (e.content ++ ['>'] ++
        ((d.children id).flatMap d.nodeMarkup ++ '<' :: ('/' :: e.name.toList ++ '>' :: rest))) := by
      rw [h.nodeMarkup_element hk, if_neg (by simpa using hne), elementMarkup_some, List.append_assoc]
      rfl
    have hend : '/' :: e.name.toList ++ '>' :: rest = '/' :: e.name.toList ++ ['>'] ++ rest := by
      rw [List.append_assoc]
      rfl
    rw [hmarkup]
    refine (Reading.reads_piece hopen hopened).trans (hreads.trans ?_)
    rw [hend]
    exact Reading.reads_piece hclose hclosed
  · show r₁.document = _
    rw [hd₁]
    congr 1
    omega

end Node

theorem Ordered.readsBack {d : Document} (h : d.Ordered) (hl : d.Legible)
    (hn : ∀ id e, d.kind id = .element e → e.HasNames) {parent id : NodeId}
    (hc : id ∈ d.children parent) : d.ReadsBack parent id := by
  induction hsize : d.nodes.size - id using Nat.strongRecOn generalizing parent id with
  | ind n ih =>
  have hlegible := hl id
  cases hk : d.kind id with
  | document => exact absurd hk (h.kind_child hc).2
  | element e =>
    by_cases hnil : d.children id = []
    · exact h.readsBack_empty hc hk (hn id e hk) hnil
    · refine h.readsBack_element hc hl hk (hn id e hk) hnil fun child hchild => ?_
      have hlt : id < child := (h.parent_child hchild).2
      exact ih _ (hsize ▸ Nat.sub_lt_sub_left (Nat.lt_trans hlt (h.lt_size hchild)) hlt) hchild rfl
  | text content =>
    rw [hk] at hlegible
    exact h.readsBack_text hc hk hlegible
  | entityRef name => exact h.readsBack_entityRef hc hk hlegible
  | raw kind markup =>
    rw [hk] at hlegible
    exact h.readsBack_raw hc hk hlegible

/-- A document in order whose nodes are legible is read back from its markup. -/
theorem Ordered.parse_toMarkup {d : Document} (h : d.Ordered) (hl : d.Legible)
    (hn : ∀ id e, d.kind id = .element e → e.HasNames) (hu : d.uri = none)
    (hb : d.toMarkup.toList.head? ≠ some byteOrderMark) : (parse d.toMarkup).result = .ok d := by
  have hroot : d.kind root = .document := (h.kind_eq_document h.nonempty).2 rfl
  have hbelow : (d.children root).flatMap d.subtree = List.range' 1 (d.nodes.size - 1) := by
    have hall := h.subtree_root
    obtain ⟨n, hn⟩ : ∃ n, d.nodes.size = n + 1 := Nat.exists_eq_succ_of_ne_zero (Nat.ne_of_gt h.nonempty)
    rw [hn, List.range_eq_range'] at hall
    rw [hn, Nat.add_sub_cancel]
    exact h.flatMap_subtree_children hall
  obtain ⟨r, hreads, hd, ho⟩ := exists_reads_nodes h hl (fun _ hx => hx)
    (fun _ hx => h.readsBack hl hn hx) (h.texts_apart root) Reading.start [] hbelow
    (h.upTo_one hu).symm rfl Reading.endsText_nil
  have hmarkup : d.toMarkup.toList = (d.children root).flatMap d.nodeMarkup ++ [] := by
    rw [toMarkup, String.toList_ofList, h.nodeMarkup_document hroot, List.append_nil]
  have hsize : 1 + (d.nodes.size - 1) = d.nodes.size := Nat.add_sub_cancel' h.nonempty
  rw [hsize, h.upTo_size] at hd
  rw [← hmarkup] at hreads
  rw [parse_of_reads hb hreads ho, hd]

/-! ## Documents that were read and edited -/

/-- Sets attributes, one after the other. -/
def setAttributes (d : Document) (edits : List (NodeId × String × String)) : Document :=
  edits.foldl (fun d edit => d.setAttribute edit.1 edit.2.1 edit.2.2) d

theorem Ordered.setAttributes {d : Document} (h : d.Ordered)
    (edits : List (NodeId × String × String)) : (d.setAttributes edits).Ordered := by
  induction edits generalizing d with
  | nil => exact h
  | cons edit edits ih => exact ih (h.setAttribute edit.1 edit.2.1 edit.2.2)

theorem Legible.setAttributes {d : Document} (h : d.Legible)
    (edits : List (NodeId × String × String)) : (d.setAttributes edits).Legible := by
  induction edits generalizing d with
  | nil => exact h
  | cons edit edits ih => exact ih (h.setAttribute edit.1 edit.2.1 edit.2.2)

theorem uri_setAttributes (d : Document) (edits : List (NodeId × String × String)) :
    (d.setAttributes edits).uri = d.uri := by
  induction edits generalizing d with
  | nil => rfl
  | cons edit edits ih => exact ih (d.setAttribute edit.1 edit.2.1 edit.2.2)

def text? (d : Document) (id : NodeId) : Option String :=
  match d.kind id with
  | .text content => some content
  | _ => none

/-- All elements and attributes have names of XML. -/
def HasNames (d : Document) : Prop := ∀ id ∈ d.elements, ∀ e ∈ d.element? id, e.HasNames

instance (d : Document) : Decidable d.HasNames :=
  inferInstanceAs (Decidable (∀ id ∈ d.elements, ∀ e ∈ d.element? id, e.HasNames))

theorem Ordered.hasNames_of_kind {d : Document} (h : d.Ordered) (hn : d.HasNames) (id : NodeId)
    (e : Element) (hk : d.kind id = .element e) : e.HasNames := by
  have he : d.element? id = some e := by rw [element?, hk]
  have hlt : id < d.nodes.size := lt_size_of_kind_ne (by simp [hk])
  refine hn id ?_ e he
  rw [elements, List.mem_filter, h.subtree_root, List.mem_range, isElement, he]
  exact ⟨hlt, rfl⟩

/-- Markup starts with a byte order mark only if the first text or kept markup does. -/
theorem head?_toMarkup_ne {d : Document} (h : d.Ordered) (hl : d.Legible)
    (hf : ∀ id ∈ (d.children root).head?, ∀ content ∈ d.text? id,
      content.toList.head? ≠ some byteOrderMark) :
    d.toMarkup.toList.head? ≠ some byteOrderMark := by
  have hroot : d.kind root = .document := (h.kind_eq_document h.nonempty).2 rfl
  rw [toMarkup, String.toList_ofList, h.nodeMarkup_document hroot]
  cases hc : d.children root with
  | nil => nofun
  | cons id ids =>
    have hkind := (h.kind_child (hc ▸ List.mem_cons_self : id ∈ d.children root)).2
    rw [List.flatMap_cons]
    cases hk : d.isText id with
    | false =>
      intro hhead
      have hends := endsText_nodeMarkup h.toLinked hl hkind hk (ids.flatMap d.nodeMarkup)
      exact absurd (hends _ hhead) (by decide)
    | true =>
      have hlegible := hl id
      rw [isText] at hk
      split at hk
      · rename_i content hcontent
        rw [hcontent] at hlegible
        obtain ⟨c, cs, hcs⟩ := List.exists_cons_of_ne_nil
          fun hnil => hlegible (String.toList_eq_nil_iff.1 hnil)
        have hmark := hf id (by rw [hc]; rfl) content (by rw [text?, hcontent]; rfl)
        rw [nodeMarkup, hcontent]
        simp only [hcs, Reading.escapeText_cons]
        rw [hcs] at hmark
        rcases escapeTextChar_cases c with ⟨hplain, -⟩ | ⟨body, hbody, -⟩
        · rw [hplain]
          exact hmark
        · rw [hbody]
          intro hhead
          exact absurd (Option.some.inj hhead) (by decide)
      · cases hk

/-- Writing a document that was read, and then edited, and reading it again gives it back, if the
source had no byte order mark. After one, kept markup and texts are cut out of the wrong places; then
a document comes back if its nodes are legible, and only then. -/
theorem parse_toMarkup_setAttributes {source : String} {d : Document}
    (h : (parse source).result = .ok d) (edits : List (NodeId × String × String))
    (hn : (d.setAttributes edits).HasNames)
    (hf : ∀ id ∈ ((d.setAttributes edits).children root).head?,
      ∀ content ∈ (d.setAttributes edits).text? id, content.toList.head? ≠ some byteOrderMark) :
    (source.toList.head? ≠ some byteOrderMark →
      (parse (d.setAttributes edits).toMarkup).result = .ok (d.setAttributes edits)) ∧
    ((d.setAttributes edits).toMarkup.toList.head? ≠ some byteOrderMark →
      ((parse (d.setAttributes edits).toMarkup).result = .ok (d.setAttributes edits) ↔
        (d.setAttributes edits).Legible)) := by
  have hordered := (ordered_of_parse h).setAttributes edits
  have huri : (d.setAttributes edits).uri = none := (uri_setAttributes d edits).trans (uri_of_parse h)
  have hnames := hordered.hasNames_of_kind hn
  refine ⟨fun hb => ?_, fun hb => ⟨legible_of_parse hb, fun hl => ?_⟩⟩
  · have hl := (legible_of_parse hb h).setAttributes edits
    exact hordered.parse_toMarkup hl hnames huri (head?_toMarkup_ne hordered hl hf)
  · exact hordered.parse_toMarkup hl hnames huri hb

set_option maxRecDepth 4000 in
/-- A document with every kind of node but an instruction, and a value that needs escapes. -/
theorem parse_toMarkup_escaped_value :
    ∃ d, (parse "<!DOCTYPE r [<!ENTITY e 'v'>]><r a='&e;'>x &amp; &u;<!--c--><b/></r>").result = .ok d ∧
      (d.setAttributes [(6, "t", "<\n'")]).toMarkup =
        "<!DOCTYPE r [<!ENTITY e 'v'>]><r a=\x22v\x22>x &amp; &u;<!--c--><b t=\x22&lt;&#10;&apos;\x22/></r>" ∧
      (parse (d.setAttributes [(6, "t", "<\n'")]).toMarkup).result =
        .ok (d.setAttributes [(6, "t", "<\n'")]) := by
  have hd : (parse "<!DOCTYPE r [<!ENTITY e 'v'>]><r a='&e;'>x &amp; &u;<!--c--><b/></r>").result =
      .ok ⟨#[⟨.document, none, [1, 2]⟩, ⟨.raw .doctype "<!DOCTYPE r [<!ENTITY e 'v'>]>", some 0, []⟩,
        ⟨.element ⟨"r", [⟨"a", "v"⟩]⟩, some 0, [3, 4, 5, 6]⟩, ⟨.text "x & ", some 2, []⟩,
        ⟨.entityRef "u", some 2, []⟩, ⟨.raw .comment "<!--c-->", some 2, []⟩,
        ⟨.element ⟨"b", []⟩, some 2, []⟩], none⟩ := by decide +kernel
  refine ⟨_, hd, ?_, (parse_toMarkup_setAttributes hd _ ?_ ?_).1 ?_⟩
  all_goals decide +kernel

set_option maxRecDepth 4000 in
/-- After a byte order mark the declaration of the document loses its end, and its markup swallows
the start tag that follows. -/
theorem not_reread_declaration_after_byteOrderMark :
    ∃ d, (parse "\uFEFF<?xml version='1.0'?><a/>").result = .ok d ∧ d.HasNames ∧
      d.toMarkup = "\uFEFF<?xml version='1.0<a/>" ∧ (parse d.toMarkup).result ≠ .ok d := by
  have hd : (parse "\uFEFF<?xml version='1.0'?><a/>").result =
      .ok ⟨#[⟨.document, none, [1, 2]⟩, ⟨.raw .declaration "\uFEFF<?xml version='1.0", some 0, []⟩,
        ⟨.element ⟨"a", []⟩, some 0, []⟩], none⟩ := by decide +kernel
  refine ⟨_, hd, ?_⟩
  decide +kernel

end XslLowering.Document
