import XslLowering.Proofs.Expression.Rendering

/-!
# Where tokens stand

A text that can be read consists of its tokens, blanks before them and blanks at its end (`Layout`):

* `exists_layout_of_scan`: the tokens of a text lay it out, each at the offset that it is marked with;
* `Layout.exists_of_char`: a character that is no blank stands in one of the tokens;
* `tokens_make_up_source`: an expression is made up of its tokens and of blanks, and the offsets of
  its tokens are exact.
-/

namespace XslLowering.Expression

open Text

/-- The text of tokens that are written with the given blanks before them. -/
def spell (pieces : List (List Char × Token)) : List Char :=
  pieces.flatMap fun piece => piece.1 ++ piece.2.text.toList

@[simp] theorem spell_nil : spell [] = [] := rfl

@[simp] theorem spell_cons (piece : List Char × Token) (pieces : List (List Char × Token)) :
    spell (piece :: pieces) = piece.1 ++ piece.2.text.toList ++ spell pieces := rfl

@[simp] theorem spell_append (pieces others : List (List Char × Token)) :
    spell (pieces ++ others) = spell pieces ++ spell others :=
  List.flatMap_append

/-- A text that starts at `offset` consists of tokens with blanks before them and of the blanks
`last`. Every token is marked with the place where it stands. -/
structure Layout (offset : Nat) (cs : List Char) (pieces : List (List Char × Token))
    (last : List Char) : Prop where
  text : cs = spell pieces ++ last
  blank : ∀ blanks ∈ last :: pieces.map Prod.fst, ∀ c ∈ blanks, isSpace c = true
  hasText : ∀ piece ∈ pieces, piece.2.HasText
  spaced : ∀ piece ∈ pieces, piece.2.spaced = !piece.1.isEmpty
  place : ∀ before piece after, pieces = before ++ piece :: after →
    piece.2.offset = some (offset + byteLength (spell before ++ piece.1))

theorem layout_blank {cs : List Char} (h : ∀ c ∈ cs, isSpace c = true) (offset : Nat) :
    Layout offset cs [] cs where
  text := rfl
  blank := by simpa using h
  hasText := by simp
  spaced := by simp
  place := by simp

/-- A token in front of a text that is laid out, at its place. -/
theorem Layout.cons {offset : Nat} {cs blanks last : List Char} {t : Token}
    {pieces : List (List Char × Token)}
    (h : Layout (offset + byteLength blanks + byteLength t.text.toList) cs pieces last)
    (hb : ∀ b ∈ blanks, isSpace b = true) (ht : t.HasText) (hs : t.spaced = !blanks.isEmpty)
    (ho : t.offset = some (offset + byteLength blanks)) :
    Layout offset (blanks ++ (t.text.toList ++ cs)) ((blanks, t) :: pieces) last where
  text := by simp [h.text]
  blank := by
    have hblank := h.blank
    simp only [List.map_cons, List.forall_mem_cons] at hblank ⊢
    exact ⟨hblank.1, hb, hblank.2⟩
  hasText := List.forall_mem_cons.2 ⟨ht, h.hasText⟩
  spaced := List.forall_mem_cons.2 ⟨hs, h.spaced⟩
  place := by
    intro before piece after he
    cases before with
    | nil =>
      cases he
      simpa using ho
    | cons first before =>
      cases he
      rw [h.place before piece after rfl]
      simp only [spell_cons, byteLength_append, Nat.add_assoc]

/-- The tokens of a text lay it out. -/
theorem exists_layout_of_scan {offset : Nat} {cs : List Char} {ts : List Token}
    (h : scan offset cs = (ts, none)) :
    ∃ pieces last, pieces.map Prod.snd = ts ∧ Layout offset cs pieces last := by
  induction ts generalizing offset cs with
  | nil => exact ⟨[], cs, rfl, layout_blank (isSpace_of_scan_nil h) offset⟩
  | cons t ts ih =>
    obtain ⟨blanks, rest, rfl, hb, ho, hs, ht, -, hrest⟩ := scan_eq_cons h
    obtain ⟨pieces, last, rfl, hlayout⟩ := ih hrest
    exact ⟨(blanks, t) :: pieces, last, rfl, hlayout.cons hb ht hs ho⟩

/-- An element of two lists put together stands in the first one or in the second one. -/
theorem mem_first_or_second {α : Type} {xs ys before after : List α} {a : α}
    (h : xs ++ ys = before ++ a :: after) :
    (∃ rest, xs = before ++ a :: rest) ∨
      ∃ inside, before = xs ++ inside ∧ ys = inside ++ a :: after := by
  rcases List.append_eq_append_iff.1 h with ⟨inside, hbefore, hys⟩ | ⟨rest, hxs, hrest⟩
  · exact .inr ⟨inside, hbefore, hys⟩
  · cases rest with
    | nil => exact .inr ⟨[], by simp [hxs], by simpa using hrest.symm⟩
    | cons b rest =>
      cases hrest
      exact .inl ⟨rest, hxs⟩

/-- A character that is no blank stands in a token. -/
theorem Layout.exists_of_char {offset : Nat} {cs last before after : List Char} {c : Char}
    {pieces : List (List Char × Token)} (h : Layout offset cs pieces last)
    (he : cs = before ++ c :: after) (hc : isSpace c = false) :
    ∃ others blanks t following inside rest, pieces = others ++ (blanks, t) :: following ∧
      t.text.toList = inside ++ c :: rest ∧ before = spell others ++ blanks ++ inside := by
  have hblank := h.blank
  rw [h.text] at he
  clear h
  have not_blank {blanks rest inside : List Char} (hb : ∀ b ∈ blanks, isSpace b = true) :
      blanks ≠ inside ++ c :: rest := by
    rintro rfl
    simp [hb c (by simp)] at hc
  induction pieces generalizing before with
  | nil => exact absurd he (not_blank (hblank last List.mem_cons_self))
  | cons piece pieces ih =>
    obtain ⟨blanks, t⟩ := piece
    simp only [List.map_cons, List.forall_mem_cons] at hblank
    obtain ⟨hlast, hb, hothers⟩ := hblank
    simp only [spell_cons, List.append_assoc] at he
    -- the character stands in the blanks, in the token or behind it
    rcases mem_first_or_second he with ⟨rest, hrest⟩ | ⟨inside, rfl, hinside⟩
    · exact absurd hrest (not_blank hb)
    rcases mem_first_or_second hinside with ⟨rest, hrest⟩ | ⟨behind, rfl, hbehind⟩
    · exact ⟨[], blanks, t, pieces, inside, rest, rfl, hrest, rfl⟩
    obtain ⟨others, blanks', t', following, inside, rest, rfl, ht', rfl⟩ :=
      ih hbehind (List.forall_mem_cons.2 ⟨hlast, hothers⟩)
    exact ⟨(blanks, t) :: others, blanks', t', following, inside, rest, rfl, ht', by simp⟩

/-- An expression that can be read is made up of its tokens, with runs of blanks before them and at
its end. -/
theorem tokens_make_up_source {source : String} {ts : List Token} (h : tokenize source = .ok ts) :
    ∃ pieces : List (List Char × Token), ∃ last : List Char,
      pieces.map Prod.snd = ts ∧ source.toList = spell pieces ++ last ∧
      (∀ blanks ∈ last :: pieces.map Prod.fst, ∀ c ∈ blanks, isSpace c = true) ∧
      ∀ before blanks t after, pieces = before ++ (blanks, t) :: after →
        t.text ≠ "" ∧ t.offset = some (String.ofList (spell before ++ blanks)).utf8ByteSize ∧
        (t.spaced = true ↔ blanks ≠ []) ∧
        (t.kind ≠ .stringLiteral → ∀ c ∈ t.text.toList, isSpace c = false ∧ isQuote c = false) := by
  obtain ⟨pieces, last, hpieces, hlayout⟩ := exists_layout_of_scan (tokenize_eq_ok_iff.1 h).1
  refine ⟨pieces, last, hpieces, hlayout.text, hlayout.blank, fun before blanks t after he => ?_⟩
  have hmem : (blanks, t) ∈ pieces := by simp [he]
  have htext : t.HasText := hlayout.hasText _ hmem
  have hspaced : t.spaced = !blanks.isEmpty := hlayout.spaced _ hmem
  have hplace : t.offset = some (0 + byteLength (spell before ++ blanks)) :=
    hlayout.place before (blanks, t) after he
  refine ⟨fun hempty => htext.ne_nil (by simp [hempty]), ?_, ?_, fun hk c hc => ?_⟩
  · rw [hplace, utf8ByteSize_ofList, Nat.zero_add]
  · simp [hspaced]
  · simpa [isSolid] using isSolid_of_tokenText htext hk c hc

/-- Behind a literal with characters of several bytes. -/
theorem tokens_make_up_multibyte_source :
    ∃ ts pieces last, tokenize " a\t'ü ≥'\x7bb\r\n" = .ok ts ∧ pieces.map Prod.snd = ts ∧
      " a\t'ü ≥'\x7bb\r\n".toList = spell pieces ++ last ∧
      ts.map Token.offset = [some 1, some 3, some 11, some 12] := by
  have h : tokenize " a\t'ü ≥'\x7bb\r\n" = .ok
      [⟨.name, "a", some 1, true⟩, ⟨.stringLiteral, "'ü ≥'", some 3, true⟩,
        ⟨.unknown, "\x7b", some 11, false⟩, ⟨.name, "b", some 12, false⟩] := by decide +kernel
  obtain ⟨pieces, last, hpieces, htext, -⟩ := tokens_make_up_source h
  exact ⟨_, pieces, last, h, hpieces, htext, rfl⟩

end XslLowering.Expression
