import XslLowering.Document.Reader
import XslLowering.Document.Writer
import XslLowering.Proofs.Markup.Pieces

/-!
# Tags that are written

An element whose name and attribute names are names of XML (`Element.HasNames`) is written so that
reading gives it back, whatever entities are declared where it is read:

* an escaped value stands for the value (`unescape_escapeValue`);
* attributes are read as they were written (`attributesFrom_written`), hence the element is
  (`Reading.readElement_content`);
* its tags are one piece each (`next_opening`, `next_empty`, `next_closing`).
-/

namespace XslLowering.Markup

open Text

/-! ## Names -/

/-- The characters that a name can start with, by the first and the last of each range. -/
def nameStartRanges : List (Nat × Nat) :=
  [(0x3a, 0x3a), (0x41, 0x5a), (0x5f, 0x5f), (0x61, 0x7a), (0xc0, 0xd6), (0xd8, 0xf6), (0xf8, 0x2ff),
    (0x370, 0x37d), (0x37f, 0x1fff), (0x200c, 0x200d), (0x2070, 0x218f), (0x2c00, 0x2fef),
    (0x3001, 0xd7ff), (0xf900, 0xfdcf), (0xfdf0, 0xfffd), (0x10000, 0xeffff)]

/-- The characters that a name can only go on with. -/
def nameOnlyRanges : List (Nat × Nat) :=
  [(0x2d, 0x2e), (0x30, 0x39), (0xb7, 0xb7), (0x300, 0x36f), (0x203f, 0x2040)]

def inRanges (ranges : List (Nat × Nat)) (c : Char) : Bool :=
  ranges.any fun range => decide (range.1 ≤ c.toNat) && decide (c.toNat ≤ range.2)

def isNameStart (c : Char) : Bool := inRanges nameStartRanges c

def isNameChar (c : Char) : Bool := isNameStart c || inRanges nameOnlyRanges c

/-- A name of XML. -/
def isName (name : String) : Bool :=
  match name.toList with
  | [] => false
  | c :: cs => isNameStart c && cs.all isNameChar

theorem exists_of_isName {name : String} (h : isName name = true) :
    ∃ c cs, name.toList = c :: cs ∧ isNameStart c = true ∧ ∀ d ∈ c :: cs, isNameChar d = true := by
  unfold isName at h
  split at h
  · cases h
  · rename_i c cs hcs
    rw [Bool.and_eq_true, List.all_eq_true] at h
    refine ⟨c, cs, hcs, h.1, List.forall_mem_cons.2 ⟨?_, h.2⟩⟩
    rw [isNameChar, h.1, Bool.true_or]

theorem isNameChar_of_isName {name : String} (h : isName name = true) :
    ∀ c ∈ name.toList, isNameChar c = true := by
  obtain ⟨c, cs, hcs, -, hall⟩ := exists_of_isName h
  rwa [hcs]

/-- Two characters differ if one is of a class and the other is not. -/
theorem ne_of_class {p : Char → Bool} {c d : Char} (hc : p c = true) (hd : p d = false) : c ≠ d := by
  rintro rfl
  rw [hc] at hd
  cases hd

theorem isSpace_of_isNameChar {c : Char} (h : isNameChar c = true) : isSpace c = false := by
  have hspace : c ≠ ' ' := ne_of_class h (by decide)
  have htab : c ≠ '\t' := ne_of_class h (by decide)
  have hreturn : c ≠ '\r' := ne_of_class h (by decide)
  have hline : c ≠ '\n' := ne_of_class h (by decide)
  simp [isSpace, hspace, htab, hreturn, hline]

theorem isKeyChar_of_isNameChar {c : Char} (h : isNameChar c = true) : isKeyChar c = true := by
  have heq : c ≠ '=' := ne_of_class h (by decide)
  simp [isKeyChar, isSpace_of_isNameChar h, heq]

/-! ## Escapes -/

/-- The entities that every document has mean what they always do. -/
def Respects (resolve : String → Option String) : Prop :=
  ∀ name text, predefined name = some text → resolve name = some text

theorem respects_predefined : Respects predefined := fun _ _ h => h

/-- A reference that stands for one character wherever it is read. -/
def IsReferenceTo (c : Char) (markup : List Char) : Prop :=
  ∃ body, markup = '&' :: body ++ [';'] ∧ IsReferenceText body ∧
    ∀ resolve, Respects resolve → ∀ start, resolveReference resolve start body = .ok [c]

theorem isReferenceTo_named {c : Char} (name : List Char)
    (hp : predefined (String.ofList name) = some (String.ofList [c]))
    (hn : (name.all fun d => d != '&' && d != '<' && d != ';' && d != '#') = true) :
    IsReferenceTo c ('&' :: name ++ [';']) := by
  rw [List.all_eq_true] at hn
  refine ⟨name, rfl, fun d hd => ?_, fun resolve hr start => ?_⟩
  · have h := hn d hd
    rw [Bool.and_eq_true] at h
    exact h.1
  · unfold resolveReference
    split
    · exact absurd (hn '#' List.mem_cons_self) (by decide)
    · rw [hr _ _ hp]
      simp

theorem isReferenceTo_numbered {c : Char} (digits : List Char) (hc : charOfNumber digits = .ok c)
    (hn : (digits.all fun d => d != '&' && d != '<' && d != ';') = true) :
    IsReferenceTo c ('&' :: ('#' :: digits) ++ [';']) := by
  refine ⟨'#' :: digits, rfl, List.forall_mem_cons.2 ⟨by decide, List.all_eq_true.1 hn⟩, ?_⟩
  intro resolve _ start
  rw [resolveReference, hc]

theorem IsReferenceTo.of_beq {c d : Char} {markup : List Char} (hm : IsReferenceTo d markup)
    (h : (c == d) = true) : IsReferenceTo c markup := eq_of_beq h ▸ hm

theorem isReferenceTo_lt : IsReferenceTo '<' "&lt;".toList :=
  isReferenceTo_named "lt".toList (by decide) (by decide)

theorem isReferenceTo_gt : IsReferenceTo '>' "&gt;".toList :=
  isReferenceTo_named "gt".toList (by decide) (by decide)

theorem isReferenceTo_amp : IsReferenceTo '&' "&amp;".toList :=
  isReferenceTo_named "amp".toList (by decide) (by decide)

theorem escapeTextChar_cases (c : Char) :
    (escapeTextChar c = [c] ∧ isTextChar c = true) ∨ IsReferenceTo c (escapeTextChar c) := by
  unfold escapeTextChar
  split
  · rename_i h
    exact .inr (isReferenceTo_lt.of_beq h)
  split
  · rename_i h
    exact .inr (isReferenceTo_gt.of_beq h)
  split
  · rename_i h
    exact .inr (isReferenceTo_amp.of_beq h)
  · rename_i hlt _ hamp
    refine .inl ⟨rfl, ?_⟩
    rw [isTextChar, Bool.and_eq_true, bne_iff_ne, bne_iff_ne]
    exact ⟨fun h => hlt (beq_iff_eq.2 h), fun h => hamp (beq_iff_eq.2 h)⟩

theorem escapeValueChar_cases (c : Char) :
    (escapeValueChar c = [c] ∧ c ≠ '&') ∨ IsReferenceTo c (escapeValueChar c) := by
  unfold escapeValueChar
  split
  · rename_i h
    exact .inr (isReferenceTo_lt.of_beq h)
  split
  · rename_i h
    exact .inr (isReferenceTo_gt.of_beq h)
  split
  · rename_i h
    exact .inr (isReferenceTo_amp.of_beq h)
  split
  · rename_i h
    exact .inr ((isReferenceTo_named "apos".toList (by decide) (by decide)).of_beq h)
  split
  · rename_i h
    exact .inr ((isReferenceTo_named "quot".toList (by decide) (by decide)).of_beq h)
  split
  · rename_i h
    exact .inr ((isReferenceTo_numbered "10".toList rfl (by decide)).of_beq h)
  split
  · rename_i h
    exact .inr ((isReferenceTo_numbered "13".toList rfl (by decide)).of_beq h)
  split
  · rename_i h
    exact .inr ((isReferenceTo_numbered "9".toList rfl (by decide)).of_beq h)
  · rename_i hamp _ _ _ _ _
    exact .inl ⟨rfl, fun h => hamp (beq_iff_eq.2 h)⟩

theorem unescapeFrom_plain {resolve : String → Option String} {total : Nat} {c : Char}
    {cs texts : List Char} (hc : c ≠ '&') (h : unescapeFrom resolve total cs = .ok texts) :
    unescapeFrom resolve total (c :: cs) = .ok (c :: texts) := by
  rw [unescapeFrom, if_neg (by simp [hc]), h]
  rfl

theorem isReferenceBody_of_text {cs : List Char} (h : IsReferenceText cs) :
    ∀ c ∈ cs, isReferenceBody c = true := by
  intro c hc
  have hbody := h c hc
  simp only [Bool.and_eq_true] at hbody
  rw [isReferenceBody, hbody.1.1, hbody.2, Bool.and_true]

theorem unescapeFrom_body {resolve : String → Option String} {total : Nat} {body : List Char}
    (h : ∀ c ∈ body, isReferenceBody c = true) (cs : List Char) :
    unescapeFrom resolve total ('&' :: (body ++ ';' :: cs)) = (do
      let text ← resolveReference resolve (total - byteLength (body ++ ';' :: cs)) body
      let texts ← unescapeFrom resolve total cs
      return text ++ texts) := by
  have hdrop : (body ++ ';' :: cs).dropWhile isReferenceBody = ';' :: cs :=
    dropWhile_append h (not_head?_cons (by decide) cs)
  have htake : (body ++ ';' :: cs).takeWhile isReferenceBody = body :=
    takeWhile_append h (not_head?_cons (by decide) cs)
  rw [unescapeFrom, if_pos (by decide)]
  split
  · rename_i after hafter
    rw [hdrop] at hafter
    cases hafter
    rw [htake]
  · rename_i hnone
    exact absurd hdrop (hnone cs)

theorem unescapeFrom_reference {resolve : String → Option String} (hr : Respects resolve)
    {total : Nat} {c : Char} {markup cs texts : List Char} (hm : IsReferenceTo c markup)
    (h : unescapeFrom resolve total cs = .ok texts) :
    unescapeFrom resolve total (markup ++ cs) = .ok (c :: texts) := by
  obtain ⟨body, rfl, hbody, hresolve⟩ := hm
  rw [List.append_assoc, List.cons_append, List.singleton_append,
    unescapeFrom_body (isReferenceBody_of_text hbody), hresolve resolve hr, h]
  rfl

theorem unescapeFrom_escapeValue {resolve : String → Option String} (hr : Respects resolve)
    (total : Nat) (cs : List Char) : unescapeFrom resolve total (escapeValue cs) = .ok cs := by
  induction cs with
  | nil => rw [escapeValue, List.flatMap_nil, unescapeFrom]
  | cons c cs ih =>
    rw [escapeValue, List.flatMap_cons]
    rcases escapeValueChar_cases c with ⟨hc, hamp⟩ | hm
    · rw [hc]
      exact unescapeFrom_plain hamp ih
    · exact unescapeFrom_reference hr hm ih

theorem unescape_escapeValue {resolve : String → Option String} (hr : Respects resolve)
    (cs : List Char) : unescape resolve (escapeValue cs) = .ok cs :=
  unescapeFrom_escapeValue hr _ cs

theorem unescape_reference {resolve : String → Option String} (hr : Respects resolve) {c : Char}
    {markup : List Char} (hm : IsReferenceTo c markup) : unescape resolve markup = .ok [c] := by
  have h : unescapeFrom resolve (byteLength markup) (markup ++ []) = .ok [c] :=
    unescapeFrom_reference hr hm (by rw [unescapeFrom])
  rwa [List.append_nil] at h

theorem not_mem_escapeValueChar (c : Char) : '\x22' ∉ escapeValueChar c := by
  unfold escapeValueChar
  iterate 4 (split; · decide)
  split
  · decide
  · rename_i hquote
    iterate 3 (split; · decide)
    rw [List.mem_singleton]
    exact fun h => hquote (beq_iff_eq.2 h.symm)

theorem not_mem_escapeValue (cs : List Char) : '\x22' ∉ escapeValue cs := by
  intro h
  obtain ⟨c, -, hc⟩ := List.mem_flatMap.1 h
  exact not_mem_escapeValueChar c hc

/-! ## The end of a tag -/

theorem splitAtGt_cons {c : Char} {rest before after : List Char}
    (hc : c ≠ '>' ∧ c ≠ '\x27' ∧ c ≠ '\x22') (h : splitAtGt none rest = .ok (before, after)) :
    splitAtGt none (c :: rest) = .ok (c :: before, after) := by
  rw [splitAtGt, if_neg (by simp [hc.1]), if_neg (by simp [hc.2]), h]
  rfl

theorem splitAtGt_plain {part rest before after : List Char}
    (hp : ∀ c ∈ part, c ≠ '>' ∧ c ≠ '\x27' ∧ c ≠ '\x22')
    (h : splitAtGt none rest = .ok (before, after)) :
    splitAtGt none (part ++ rest) = .ok (part ++ before, after) := by
  induction part with
  | nil => exact h
  | cons c cs ih =>
    exact splitAtGt_cons (hp c List.mem_cons_self) (ih fun d hd => hp d (List.mem_cons_of_mem c hd))

theorem splitAtGt_quoted {quote : Char} {value rest before after : List Char} (hv : quote ∉ value)
    (h : splitAtGt none rest = .ok (before, after)) :
    splitAtGt (some quote) (value ++ quote :: rest) = .ok (value ++ quote :: before, after) := by
  induction value with
  | nil =>
    rw [List.nil_append, splitAtGt, if_pos (beq_self_eq_true quote), h]
    rfl
  | cons c cs ih =>
    rw [List.mem_cons, not_or] at hv
    rw [List.cons_append, splitAtGt, if_neg (by simp [Ne.symm hv.1]), ih hv.2]
    rfl

end XslLowering.Markup

namespace XslLowering.Element

open Markup

/-- All names of an element are names of XML. -/
def HasNames (e : Element) : Prop :=
  isName e.name = true ∧ ∀ a ∈ e.attributes, isName a.name = true

instance (e : Element) : Decidable e.HasNames :=
  inferInstanceAs (Decidable (isName e.name = true ∧ ∀ a ∈ e.attributes, isName a.name = true))

/-- What stands between the angle brackets in the start tag of an element. -/
def content (e : Element) : List Char :=
  e.name.toList ++ e.attributes.flatMap Document.attributeMarkup

end XslLowering.Element

namespace XslLowering.Document

open Markup Text

/-! ## Attributes -/

theorem splitAtGt_name {name : String} (hn : isName name = true) {rest before after : List Char}
    (h : splitAtGt none rest = .ok (before, after)) :
    splitAtGt none (name.toList ++ rest) = .ok (name.toList ++ before, after) := by
  refine splitAtGt_plain (fun c hc => ?_) h
  have hchar := isNameChar_of_isName hn c hc
  exact ⟨ne_of_class hchar (by decide), ne_of_class hchar (by decide), ne_of_class hchar (by decide)⟩

theorem attributeMarkup_append (a : Attribute) (rest : List Char) :
    attributeMarkup a ++ rest =
      ' ' :: (a.name.toList ++ '=' :: '\x22' :: (escapeValue a.value.toList ++ '\x22' :: rest)) := by
  simp [attributeMarkup]

theorem splitAtGt_attributes {attributes : List Attribute}
    (hn : ∀ a ∈ attributes, isName a.name = true) {rest before after : List Char}
    (h : splitAtGt none rest = .ok (before, after)) :
    splitAtGt none (attributes.flatMap attributeMarkup ++ rest) =
      .ok (attributes.flatMap attributeMarkup ++ before, after) := by
  induction attributes with
  | nil => exact h
  | cons a attributes ih =>
    obtain ⟨ha, hothers⟩ := List.forall_mem_cons.1 hn
    have hquoted : splitAtGt none
        ('\x22' :: (escapeValue a.value.toList ++ '\x22' :: (attributes.flatMap attributeMarkup ++ rest))) =
          .ok ('\x22' :: (escapeValue a.value.toList ++ '\x22' ::
            (attributes.flatMap attributeMarkup ++ before)), after) := by
      rw [splitAtGt, if_neg (by decide), if_pos (by decide),
        splitAtGt_quoted (not_mem_escapeValue a.value.toList) (ih hothers)]
      rfl
    rw [List.flatMap_cons, List.append_assoc, List.append_assoc, attributeMarkup_append,
      attributeMarkup_append]
    exact splitAtGt_cons (by decide) (splitAtGt_name ha (splitAtGt_cons (by decide) hquoted))

theorem readValue_written (total : Nat) (value rest : List Char) :
    readValue total ('\x22' :: (escapeValue value ++ '\x22' :: rest)) = .ok (escapeValue value, rest) := by
  have hchars : ∀ c ∈ escapeValue value, (c != '\x22') = true := fun c hc =>
    bne_iff_ne.2 fun h => not_mem_escapeValue value (h ▸ hc)
  rw [readValue, List.dropWhile_cons, if_neg (by decide)]
  simp only [beq_self_eq_true, Bool.or_true, if_true]
  rw [dropWhile_append hchars (not_head?_cons (by decide) _),
    takeWhile_append hchars (not_head?_cons (by decide) _)]

theorem readAttribute_written (total : Nat) {seen : List (List Char × Nat)} {a : Attribute}
    (ha : isName a.name = true) (hs : seen.lookup a.name.toList = none) (rest : List Char) {c : Char}
    {cs : List Char} (hcs : a.name.toList = c :: cs) :
    ∃ position, readAttribute total seen c
        (cs ++ '=' :: '\x22' :: (escapeValue a.value.toList ++ '\x22' :: rest)) =
      .ok ⟨a.name.toList, position, escapeValue a.value.toList, rest⟩ := by
  have hkeys : ∀ d ∈ cs, isKeyChar d = true := fun d hd =>
    isKeyChar_of_isNameChar (isNameChar_of_isName ha d (hcs ▸ List.mem_cons_of_mem c hd))
  simp only [readAttribute]
  rw [dropWhile_append hkeys (not_head?_cons (by decide) _),
    takeWhile_append hkeys (not_head?_cons (by decide) _), List.dropWhile_cons, if_neg (by decide), ← hcs, hs]
  simp only [readValue_written]
  exact ⟨_, rfl⟩

/-- Attributes are read as they were written, if no name is used twice. -/
theorem attributesFrom_written {resolve : String → Option String} (hr : Respects resolve) (total : Nat)
    {attributes : List Attribute} (hn : ∀ a ∈ attributes, isName a.name = true)
    (hd : (attributes.map (·.name)).Nodup) {seen : List (List Char × Nat)}
    (hs : ∀ a ∈ attributes, seen.lookup a.name.toList = none) :
    attributesFrom resolve total seen (attributes.flatMap attributeMarkup) = .ok attributes := by
  induction attributes generalizing seen with
  | nil =>
    rw [attributesFrom]
    rfl
  | cons a attributes ih =>
    obtain ⟨ha, hothers⟩ := List.forall_mem_cons.1 hn
    obtain ⟨hsa, hsothers⟩ := List.forall_mem_cons.1 hs
    rw [List.map_cons, List.nodup_cons] at hd
    obtain ⟨c, cs, hcs, -, -⟩ := exists_of_isName ha
    have hspace : isSpace c = false :=
      isSpace_of_isNameChar (isNameChar_of_isName ha c (hcs ▸ List.mem_cons_self))
    obtain ⟨position, hread⟩ :=
      readAttribute_written total ha hsa (attributes.flatMap attributeMarkup) hcs
    have hseen : ∀ b ∈ attributes, (seen ++ [(a.name.toList, position)]).lookup b.name.toList = none := by
      intro b hb
      have hne : b.name ≠ a.name := fun h => hd.1 (h ▸ List.mem_map_of_mem hb)
      rw [List.lookup_append, hsothers b hb, Option.none_or, List.lookup_cons]
      rw [show (b.name.toList == a.name.toList) = false from beq_eq_false_iff_ne.2 fun h => hne (String.toList_inj.1 h)]
      rfl
    have hdrop : ((a :: attributes).flatMap attributeMarkup).dropWhile isSpace =
        c :: (cs ++ '=' :: '\x22' ::
          (escapeValue a.value.toList ++ '\x22' :: attributes.flatMap attributeMarkup)) := by
      rw [List.flatMap_cons, attributeMarkup_append, List.dropWhile_cons,
        if_pos (by decide), hcs, List.cons_append, List.dropWhile_cons, if_neg (by simp [hspace])]
    rw [attributesFrom]
    split
    · rename_i hnil
      rw [hdrop] at hnil
      cases hnil
    · rename_i d rest hcons
      rw [hdrop] at hcons
      cases hcons
      split
      · rename_i fault hfault
        rw [hread] at hfault
        cases hfault
      · rename_i written hok
        rw [hread] at hok
        cases hok
        simp only [unescape_escapeValue hr, ih hothers hd.2 hseen, String.ofList_toList]

theorem flatMap_attributeMarkup_cases (attributes : List Attribute) :
    attributes.flatMap attributeMarkup = [] ∨
      ∃ rest, attributes.flatMap attributeMarkup = ' ' :: rest := by
  cases attributes with
  | nil => exact .inl rfl
  | cons a attributes => exact .inr ⟨_, rfl⟩

end XslLowering.Document

namespace XslLowering.Element

open Markup Text

theorem not_isSpace_of_isName {name : String} (h : isName name = true) :
    ∀ c ∈ name.toList, (!isSpace c) = true := by
  intro c hc
  rw [isSpace_of_isNameChar (isNameChar_of_isName h c hc)]
  rfl

theorem tagName_content {e : Element} (h : e.HasNames) : tagName e.content = e.name.toList := by
  have hname := not_isSpace_of_isName h.1
  rw [tagName, content]
  rcases Document.flatMap_attributeMarkup_cases e.attributes with hnil | ⟨rest, hcons⟩
  · rw [hnil, List.takeWhile_append_of_pos hname, List.takeWhile_nil, List.append_nil]
  · rw [hcons, takeWhile_append hname (not_head?_cons (by decide) _)]

theorem dropWhile_content {e : Element} (h : e.HasNames) :
    e.content.dropWhile (fun c => !isSpace c) = e.attributes.flatMap Document.attributeMarkup := by
  have hname := not_isSpace_of_isName h.1
  rw [content]
  rcases Document.flatMap_attributeMarkup_cases e.attributes with hnil | ⟨rest, hcons⟩
  · rw [hnil, List.dropWhile_append_of_pos hname, List.dropWhile_nil]
  · rw [hcons, dropWhile_append hname (not_head?_cons (by decide) _)]

/-! ## Tags -/

theorem splitAtGt_content {e : Element} (h : e.HasNames) {rest before after : List Char}
    (hs : splitAtGt none rest = .ok (before, after)) :
    splitAtGt none (e.content ++ rest) = .ok (e.content ++ before, after) := by
  rw [content, List.append_assoc, List.append_assoc]
  exact Document.splitAtGt_name h.1 (Document.splitAtGt_attributes h.2 hs)

/-- A tag whose first character starts a name is a start tag or an empty tag. -/
theorem next_tag {c : Char} {cs content after : List Char} (hc : isNameStart c = true)
    (hs : splitAtGt none (c :: cs) = .ok (c :: content, after)) :
    next '<' (c :: cs) = .ok (tagEvent (c :: content), after) := by
  have hbang : c ≠ '!' := ne_of_class hc (by decide)
  have hquestion : c ≠ '?' := ne_of_class hc (by decide)
  have hslash : c ≠ '/' := ne_of_class hc (by decide)
  unfold next
  rw [if_neg (by decide), if_pos (by decide)]
  split
  · rename_i heq
    exact absurd (List.cons.inj heq).1 hbang
  · rename_i heq
    exact absurd (List.cons.inj heq).1 hquestion
  · rw [nextTag, hs]
    simp only
    split
    · rename_i heq
      exact absurd (List.cons.inj heq).1 hslash
    · rfl

theorem exists_content {e : Element} (h : e.HasNames) :
    ∃ c cs, e.content = c :: cs ∧ isNameStart c = true := by
  obtain ⟨c, cs, hcs, hstart, -⟩ := exists_of_isName h.1
  exact ⟨c, cs ++ e.attributes.flatMap Document.attributeMarkup, by rw [content, hcs]; rfl, hstart⟩

/-- The last character before the end of a start tag belongs to a name or is a quotation mark. -/
theorem getLast?_content_ne {e : Element} (h : e.HasNames) : e.content.getLast? ≠ some '/' := by
  rw [content]
  intro hlast
  rcases List.eq_nil_or_concat e.attributes with hnil | ⟨attributes, a, hconcat⟩
  · rw [hnil, List.flatMap_nil, List.append_nil] at hlast
    have := isNameChar_of_isName h.1 '/' (List.mem_of_getLast? hlast)
    exact absurd this (by decide)
  · rw [hconcat] at hlast
    simp [Document.attributeMarkup, List.getLast?_cons] at hlast

theorem next_opening {e : Element} (h : e.HasNames) (rest : List Char) :
    next '<' (e.content ++ '>' :: rest) = .ok (.opening e.content, rest) := by
  have hs : splitAtGt none (e.content ++ '>' :: rest) = .ok (e.content ++ [], rest) :=
    splitAtGt_content h rfl
  obtain ⟨c, cs, hcs, hstart⟩ := exists_content h
  have hlast := getLast?_content_ne h
  rw [List.append_nil] at hs
  rw [hcs] at hs hlast ⊢
  rw [List.cons_append] at hs ⊢
  rw [next_tag hstart hs, tagEvent, if_neg hlast]

theorem next_empty {e : Element} (h : e.HasNames) (rest : List Char) :
    next '<' (e.content ++ '/' :: '>' :: rest) = .ok (.empty e.content, rest) := by
  have hs : splitAtGt none (e.content ++ '/' :: '>' :: rest) = .ok (e.content ++ ['/'], rest) :=
    splitAtGt_content h rfl
  obtain ⟨c, cs, hcs, hstart⟩ := exists_content h
  rw [hcs] at hs ⊢
  rw [List.cons_append, List.cons_append] at hs
  rw [List.cons_append, next_tag hstart hs, tagEvent, ← List.cons_append, List.getLast?_concat,
    if_pos rfl, List.dropLast_concat]

theorem endTagName_name {name : String} (h : isName name = true) :
    endTagName name.toList = name.toList := by
  obtain ⟨c, cs, hcs, -, -⟩ := exists_of_isName h
  have hname := not_isSpace_of_isName h
  have hall : name.toList.all isSpace = false := by
    rw [List.all_eq_false]
    refine ⟨c, hcs ▸ List.mem_cons_self, ?_⟩
    simpa using hname c (hcs ▸ List.mem_cons_self)
  have hdrop : name.toList.reverse.dropWhile isSpace = name.toList.reverse := by
    refine dropWhile_eq_self fun d hd => ?_
    simpa using hname d (List.mem_reverse.1 (List.mem_of_head? hd))
  rw [endTagName, hall, if_neg (by decide), hdrop, List.reverse_reverse]

theorem next_closing {name : String} (h : isName name = true) (rest : List Char) :
    next '<' ('/' :: name.toList ++ '>' :: rest) = .ok (.closing name.toList, rest) := by
  have hs : splitAtGt none ('/' :: name.toList ++ '>' :: rest) = .ok ('/' :: name.toList ++ [], rest) :=
    splitAtGt_cons (by decide) (Document.splitAtGt_name h rfl)
  rw [List.append_nil] at hs
  show nextTag ('/' :: name.toList ++ '>' :: rest) = _
  rw [nextTag, hs]
  simp only [endTagName_name h]

end XslLowering.Element

namespace XslLowering.Document.Reading

open Markup

theorem respects_resolve (r : Reading) : Respects r.resolve := by
  intro name text h
  rw [resolve, h, Option.some_or]

/-- An element is read back from its tag. -/
theorem readElement_content (r : Reading) {e : Element} (h : e.HasNames)
    (hd : (e.attributes.map (·.name)).Nodup) : r.readElement e.content = .ok e := by
  have hread : readAttributes r.resolve e.content = .ok e.attributes := by
    rw [readAttributes, Element.dropWhile_content h]
    exact attributesFrom_written r.respects_resolve _ h.2 hd fun _ _ => rfl
  rw [readElement, hread, Element.tagName_content h]
  simp only [String.ofList_toList]

end XslLowering.Document.Reading
