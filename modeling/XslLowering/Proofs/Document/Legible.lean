import XslLowering.Proofs.Document.DocumentOrder
import XslLowering.Proofs.Document.WrittenTags

/-!
# Documents that can be read back

A node is legible if its markup is read as that node wherever it stands (`NodeKind.Legible`). Cut out
of the text that is split into pieces, every piece makes legible nodes (`Reading.legible_step`), so
all nodes of a document are legible that was read from a source without a byte order mark
(`legible_of_parse`).
-/

namespace XslLowering.Markup

open Text

/-! ## Pieces are cut out of the text -/

/-- The first piece of some text. -/
def IsPiece (event : Event) (markup : List Char) : Prop :=
  ∃ c part after, markup = c :: part ∧ next c (part ++ after) = .ok (event, after)

theorem isPiece_of_mem_pieces {cs : List Char} {p : Piece} (h : p ∈ (pieces cs).1) :
    IsPiece p.event p.markup := by
  fun_induction pieces cs with
  | case1 => cases h
  | case2 => cases h
  | case3 c cs event after hn others fault hp ih =>
    rw [hp] at ih
    rcases List.mem_cons.1 h with rfl | h
    · obtain ⟨part, rfl⟩ := next_suffix hn
      have hlength : (part ++ after).length + 1 - after.length = part.length + 1 := by
        rw [List.length_append]
        omega
      refine ⟨c, part, after, ?_, hn⟩
      simp only [hlength, List.take_succ_cons, List.take_left]
    · exact ih h

theorem unescapeFrom_eq_self {resolve : String → Option String} {total : Nat} {cs : List Char}
    (h : ∀ c ∈ cs, isTextChar c = true) : unescapeFrom resolve total cs = .ok cs := by
  induction cs with
  | nil => rw [unescapeFrom]
  | cons c cs ih =>
    obtain ⟨hc, hcs⟩ := List.forall_mem_cons.1 h
    exact unescapeFrom_plain (ne_of_class hc (by decide)) (ih hcs)

/-- No entity that every document has stands for nothing. -/
theorem ne_empty_of_predefined {name text : String} (h : predefined name = some text) : text ≠ "" := by
  unfold predefined at h
  iterate 5
    split at h
    · cases h
      decide
  cases h

theorem ne_nil_of_resolveReference {start : Nat} {body text : List Char}
    (h : resolveReference predefined start body = .ok text) : text ≠ [] := by
  unfold resolveReference at h
  split at h
  · split at h
    · cases h
      exact List.cons_ne_nil _ _
    · cases h
  · split at h
    · rename_i replacement hp
      cases h
      exact fun hnil => ne_empty_of_predefined hp (String.toList_eq_nil_iff.1 hnil)
    · cases h

theorem ne_nil_of_unescape_body {name content : List Char} (hn : IsReferenceText name)
    (h : unescape predefined ('&' :: name ++ [';']) = .ok content) : content ≠ [] := by
  rw [unescape, List.cons_append, unescapeFrom_body (isReferenceBody_of_text hn)] at h
  cases hr : resolveReference predefined
      (byteLength ('&' :: (name ++ [';'])) - byteLength (name ++ [';'])) name with
  | error fault =>
    rw [hr] at h
    cases h
  | ok text =>
    rw [hr, unescapeFrom] at h
    cases h
    exact List.append_ne_nil_of_left_ne_nil (ne_nil_of_resolveReference hr) _

theorem IsPiece.reference {markup : List Char} (h : IsPiece .reference markup) :
    ∃ name, markup = '&' :: name ++ [';'] ∧ IsReferenceText name := by
  obtain ⟨c, part, after, rfl, hn⟩ := h
  rcases next_cases hn with ⟨name, -, rfl, hname, htext⟩ | ⟨kind, part', hevent, -⟩ | ⟨-, htag⟩ | ⟨hevent, -⟩
  · refine ⟨name, ?_, htext⟩
    rw [List.append_cancel_right (hname.trans (List.append_assoc name [';'] after).symm)]
    rfl
  · cases hevent
  · obtain ⟨content, hevent | hevent | hevent⟩ := nextTag_cases htag <;> cases hevent
  · cases hevent

theorem IsPiece.standsAlone {kind : RawKind} {markup : List Char} (h : IsPiece (.raw kind) markup) :
    StandsAlone kind markup := by
  obtain ⟨c, part, after, rfl, hn⟩ := h
  rcases next_cases hn with ⟨name, hevent, -⟩ | ⟨kind', part', hevent, hpart, halone⟩ | ⟨-, htag⟩ |
    ⟨hevent, -⟩
  · cases hevent
  · cases hevent
    rwa [List.append_cancel_right hpart]
  · obtain ⟨content, hevent | hevent | hevent⟩ := nextTag_cases htag <;> cases hevent
  · cases hevent

theorem IsPiece.text {markup : List Char} (h : IsPiece .text markup) :
    markup ≠ [] ∧ ∀ c ∈ markup, isTextChar c = true := by
  obtain ⟨c, part, after, rfl, hn⟩ := h
  rcases next_cases hn with ⟨name, hevent, -⟩ | ⟨kind', part', hevent, -⟩ | ⟨-, htag⟩ | ⟨-, hc, hafter⟩
  · cases hevent
  · cases hevent
  · obtain ⟨content, hevent | hevent | hevent⟩ := nextTag_cases htag <;> cases hevent
  · have hpart : (part ++ after).takeWhile isTextChar = part := by
      have hsplit := List.takeWhile_append_dropWhile (p := isTextChar) (l := part ++ after)
      rw [← hafter] at hsplit
      exact List.append_cancel_right hsplit
    refine ⟨List.cons_ne_nil c part, List.forall_mem_cons.2 ⟨hc, fun d hd => ?_⟩⟩
    rw [← hpart] at hd
    exact List.all_eq_true.1 List.all_takeWhile d hd

/-- What is read from a text or a reference is not empty. -/
theorem ne_nil_of_isPiece {event : Event} {markup content : List Char} (hp : IsPiece event markup)
    (he : event = .text ∨ event = .reference) (h : unescape predefined markup = .ok content) :
    content ≠ [] := by
  rcases he with rfl | rfl
  · obtain ⟨hne, htext⟩ := hp.text
    have hself : unescape predefined markup = .ok markup := unescapeFrom_eq_self htext
    rw [hself] at h
    cases h
    exact hne
  · obtain ⟨name, rfl, hname⟩ := hp.reference
    exact ne_nil_of_unescape_body hname h

end XslLowering.Markup

namespace XslLowering

open Markup

/-- The markup of the node is read as the node. -/
def NodeKind.Legible : NodeKind → Prop
  | .text content => content ≠ ""
  | .entityRef name => IsReferenceText name.toList ∧
      ∃ fault, unescape predefined ('&' :: name.toList ++ [';']) = .error fault
  | .raw kind markup => StandsAlone kind markup.toList
  | _ => True

namespace Document

/-- All nodes can be read back. -/
def Legible (d : Document) : Prop := ∀ id, (d.kind id).Legible

theorem Legible.append {d : Document} (h : d.Legible) {parent : NodeId} (hp : parent < d.nodes.size)
    {kind : NodeKind} (hk : kind.Legible) : (d.append parent kind).Legible := by
  intro id
  rw [kind_append hp]
  split
  · exact hk
  · exact h id

theorem Legible.appendText {d : Document} (h : d.Legible) {parent : NodeId}
    (hp : parent < d.nodes.size) {content : List Char} (hc : content ≠ []) :
    (d.appendText parent (String.ofList content)).Legible := by
  have hne : String.ofList content ≠ "" := fun he => hc (by simpa using congrArg String.toList he)
  rcases appendText_cases d parent (String.ofList content) with he | ⟨id, existing, hk, he⟩
  · rw [he]
    exact h.append hp hne
  · rw [he]
    intro x
    rw [kind_replaceText hk]
    split
    · exact fun hnil => hne (String.append_eq_empty_iff.1 hnil).2
    · exact h x

theorem Legible.setAttribute {d : Document} (h : d.Legible) (id : NodeId) (name value : String) :
    (d.setAttribute id name value).Legible := by
  intro x
  have hx := h x
  rw [kind_setAttribute]
  cases hk : d.kind x with
  | element e => trivial
  | _ => rwa [hk] at hx

namespace Reading

theorem referenceName_eq {name : List Char} (h : IsReferenceText name) :
    referenceName ('&' :: name ++ [';']) = String.ofList name := by
  have hamp : (name ++ [';']).dropWhile (· == '&') = name ++ [';'] := by
    refine dropWhile_eq_self fun c hc => ?_
    rcases List.mem_append.1 (List.mem_of_head? hc) with hc | hc
    · have hbody := h c hc
      simp only [Bool.and_eq_true, bne_iff_ne] at hbody
      exact beq_eq_false_iff_ne.2 hbody.1.1
    · rw [List.mem_singleton.1 hc]
      decide
  have hsemicolon : name.reverse.dropWhile (· == ';') = name.reverse := by
    refine dropWhile_eq_self fun c hc => ?_
    have hbody := h c (List.mem_reverse.1 (List.mem_of_head? hc))
    simp only [Bool.and_eq_true, bne_iff_ne] at hbody
    exact beq_eq_false_iff_ne.2 hbody.2
  rw [referenceName, List.cons_append, List.dropWhile_cons, if_pos (by decide), hamp,
    List.reverse_append, List.reverse_singleton, List.singleton_append, List.dropWhile_cons,
    if_pos (by decide), hsemicolon, List.reverse_reverse]

/-- Pieces that are cut out of the text make legible nodes. -/
theorem legible_step {r r' : Reading} (hr : r.Growing) (h : r.document.Legible) {event : Event}
    {markup : List Char} (hp : IsPiece event markup) (hs : (r.step event markup).result = .ok r') :
    r'.document.Legible := by
  have hcurrent := hr.current_lt
  rcases step_cases hs with ⟨content, e, -, -, rfl⟩ | ⟨content, e, -, -, rfl⟩ |
    ⟨name, innermost, outer, -, -, rfl⟩ | ⟨content, hevent, hcontent, rfl⟩ |
    ⟨fault, rfl, hfault, rfl⟩ | ⟨kind, rfl, rfl⟩
  · exact h.append hcurrent trivial
  · exact h.append hcurrent trivial
  · exact h
  · exact h.appendText hcurrent (ne_nil_of_isPiece hp hevent hcontent)
  · obtain ⟨name, rfl, htext⟩ := hp.reference
    refine h.append hcurrent ?_
    rw [referenceName_eq htext]
    exact ⟨by rwa [String.toList_ofList], fault, by rwa [String.toList_ofList]⟩
  · refine h.append hcurrent ?_
    rw [NodeKind.Legible, String.toList_ofList]
    exact hp.standsAlone

theorem legible_steps {r r' : Reading} (hr : r.Growing) (h : r.document.Legible)
    {parts : List (Event × List Char)} (hp : ∀ p ∈ parts, IsPiece p.1 p.2)
    (hs : (r.steps parts).result = .ok r') : r'.document.Legible := by
  induction parts generalizing r with
  | nil =>
    cases hs
    exact h
  | cons p parts ih =>
    obtain ⟨hpiece, hparts⟩ := List.forall_mem_cons.1 hp
    obtain ⟨next, hnext, hs⟩ := Attempt.exists_of_result_bind hs
    exact ih (hr.step hnext) (legible_step hr h hpiece hnext) hparts hs

end Reading

theorem body_eq_self {cs : List Char} (h : cs.head? ≠ some byteOrderMark) : body cs = cs := by
  unfold body
  split
  · rename_i c rest
    rw [if_neg fun hc => h (congrArg some (eq_of_beq hc))]
  · rfl

/-- Without a byte order mark, the texts of the pieces are cut out where the pieces are. -/
theorem cutLike_pieces {cs : List Char} (h : (pieces cs).2 = none) :
    cutLike (pieces cs).1 cs = ((pieces cs).1.map fun p => (p.event, p.markup), none) := by
  have hcut := cutLike_flatten (pieces cs).1 []
  rwa [List.append_nil, flatten_pieces h] at hcut

theorem legible_of_parse {source : String} {d : Document}
    (hb : source.toList.head? ≠ some byteOrderMark) (h : (parse source).result = .ok d) :
    d.Legible := by
  obtain ⟨hfault, -, r, -, rfl, hsteps⟩ := exists_steps_of_parse h
  rw [body_eq_self hb] at hfault hsteps
  rw [cutLike_pieces hfault] at hsteps
  refine Reading.legible_steps Reading.growing_start (fun id => ?_) (fun p hp => ?_) hsteps
  · cases id <;> trivial
  · obtain ⟨piece, hpiece, rfl⟩ := List.mem_map.1 hp
    exact isPiece_of_mem_pieces hpiece

end Document

end XslLowering
