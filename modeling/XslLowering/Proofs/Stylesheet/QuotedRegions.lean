import XslLowering.Proofs.Expression.Faults
import XslLowering.Proofs.Expression.Placement
import XslLowering.Proofs.Stylesheet.Braces
import XslLowering.Proofs.Stylesheet.TemplateGrammar

/-!
# Quoted regions of templates

A template and an expression are read by readers of their own, which both have to know where literals
are. `StandsIn` says in which literal the reader of templates is after some text, in terms of how it
goes on, and `SkipsAfter` what it goes through as one literal. The two readers agree:

* `skips_iff_literal`: what is skipped are the literals among the tokens;
* `unknown_of_brace`: a brace that is not skipped is a token of its own;
* `tokenize_ne_unterminated`: the reader of expressions finds no literal that is not closed if the
  reader of templates finds none;
* `skipped_regions_are_literals`: all of this for the expressions of a template.
-/

namespace XslLowering.Stylesheet

open Expression Text ValueTemplate

/-! ## Where the reader of templates is -/

/-- After the text `before` of an expression, the reader of templates is in a literal with this quote,
or in none, and this many braces are open. -/
def StandsIn (before : List Char) (quote : Option Char) (depth : Nat) : Prop :=
  ∀ rest, splitExpression none 0 (before ++ rest) =
    (splitExpression quote depth rest).map (prepend before)

theorem standsIn_nil : StandsIn [] none 0 := fun _ => Option.map_id'.symm

section

variable {before cs : List Char} {quote quote' : Option Char} {depth depth' : Nat}

theorem StandsIn.append (h : StandsIn before quote depth)
    (hcs : ∀ rest, splitExpression quote depth (cs ++ rest) =
      (splitExpression quote' depth' rest).map (prepend cs)) :
    StandsIn (before ++ cs) quote' depth' := by
  intro rest
  rw [List.append_assoc, h, hcs, Option.map_map, prepend_append]

theorem StandsIn.blank (h : StandsIn before none depth) (hb : ∀ c ∈ cs, isSpace c = true) :
    StandsIn (before ++ cs) none depth :=
  h.append fun _ => splitExpression_plain (fun c hc => isPlain_of_isSpace (hb c hc)) ..

theorem StandsIn.token {t : Token} (h : StandsIn before none depth) (ht : t.HasText)
    (hb : brace depth t.key = some depth') : StandsIn (before ++ t.text.toList) none depth' :=
  h.append fun rest => by rw [splitExpression_token ht, hb]

theorem StandsIn.quoted {q : Char} (h : StandsIn before none depth) (hq : isQuote q = true)
    (hc : q ∉ cs) : StandsIn (before ++ q :: cs) (some q) depth := by
  refine h.append fun rest => ?_
  have hquote : (q == '\x27' || q == '\x22') = true := hq
  simp only [List.cons_append, splitExpression, hquote, ↓reduceIte, splitExpression_inside hc,
    Option.map_map]
  rfl

end

/-- Outside of literals, braces end the expression if there are enough of them. -/
theorem splitExpression_closes {depth count : Nat} (h : depth < count) :
    splitExpression none depth (List.replicate count '\x7d') ≠ none := by
  induction depth generalizing count with
  | zero =>
    obtain ⟨count, rfl⟩ := Nat.exists_eq_add_of_lt h
    simp [List.replicate_succ, splitExpression]
  | succ depth ih =>
    cases count with
    | zero => omega
    | succ count =>
      have hrest := ih (show depth < count by omega)
      simpa [List.replicate_succ, splitExpression] using hrest

/-- So they do after a character that is no quote. -/
theorem splitExpression_cons_closes {c : Char} (h : isQuote c = false) (depth : Nat) :
    splitExpression none depth (c :: List.replicate (depth + 2) '\x7d') ≠ none := by
  by_cases hopen : c = '\x7b'
  · subst hopen
    show (splitExpression none (depth + 1) (List.replicate (depth + 2) '\x7d')).map _ ≠ none
    rw [ne_eq, Option.map_eq_none_iff]
    exact splitExpression_closes (by omega)
  by_cases hclose : c = '\x7d'
  · rw [hclose, ← List.replicate_succ]
    exact splitExpression_closes (by omega)
  have hplain : ∀ d ∈ [c], isPlain d = true := by simp [isPlain, h, hopen, hclose]
  have hrest := splitExpression_plain hplain depth (List.replicate (depth + 2) '\x7d')
  rw [List.singleton_append] at hrest
  rw [hrest, ne_eq, Option.map_eq_none_iff]
  exact splitExpression_closes (by omega)

theorem splitExpression_quoted_braces {q : Char} (h : isQuote q = true) (depth count : Nat) :
    splitExpression (some q) depth (List.replicate count '\x7d') = none := by
  have hq : q ∉ List.replicate count '\x7d' := fun hm => by
    rw [List.eq_of_mem_replicate hm] at h
    exact absurd h (by decide)
  have hinside := splitExpression_inside hq depth []
  rw [List.append_nil] at hinside
  rw [hinside]
  rfl

/-- The reader cannot be in a literal and in none. -/
theorem StandsIn.not_quoted {before : List Char} {q : Char} {depth depth' : Nat}
    (h : StandsIn before none depth) (hq : isQuote q = true) :
    ¬StandsIn before (some q) depth' := fun h' => by
  have hnone := h' (List.replicate (depth + 1) '\x7d')
  rw [h, splitExpression_quoted_braces hq, Option.map_none, Option.map_eq_none_iff] at hnone
  exact splitExpression_closes (Nat.lt_succ_self depth) hnone

/-- The reader gets into a literal by a quote only. -/
theorem isQuote_of_standsIn {before : List Char} {c q : Char} {depth depth' : Nat}
    (h : StandsIn before none depth) (hq : isQuote q = true)
    (h' : StandsIn (before ++ [c]) (some q) depth') : isQuote c = true := by
  by_contra hc
  have hnone := h' (List.replicate (depth + 2) '\x7d')
  rw [List.append_assoc, List.singleton_append, h, splitExpression_quoted_braces hq, Option.map_none,
    Option.map_eq_none_iff] at hnone
  exact splitExpression_cons_closes (Bool.eq_false_iff.2 hc) depth hnone

/-! ## Regions -/

/-- After `before`, the reader of templates goes through `text` as one literal: it is outside of
literals before it and after it, and in the same one everywhere in it. -/
structure SkipsAfter (before text : List Char) (quote : Char) (depth : Nat) : Prop where
  isQuote : isQuote quote = true
  two_le : 2 ≤ text.length
  start : StandsIn before none depth
  inside : ∀ read, read <+: text → read ≠ [] → read ≠ text →
    StandsIn (before ++ read) (some quote) depth
  stop : StandsIn (before ++ text) none depth

/-- The reader of templates skips `text` in an expression, which stands at `offset`. -/
def Skips (expression : List Char) (offset : Nat) (text : List Char) : Prop :=
  ∃ before after quote depth, expression = before ++ text ++ after ∧
    offset = (String.ofList before).utf8ByteSize ∧ SkipsAfter before text quote depth

theorem SkipsAfter.not_stops_inside {before text text' : List Char} {q q' : Char} {depth depth' : Nat}
    (h : SkipsAfter before text q depth) (h' : SkipsAfter before text' q' depth')
    (hp : text' <+: text) : text' = text := by
  by_contra hne
  have hnil : text' ≠ [] := by
    rintro rfl
    have := h'.two_le
    simp at this
  exact h'.stop.not_quoted h.isQuote (h.inside text' hp hnil hne)

/-- Two regions that start at one place are one. -/
theorem SkipsAfter.unique {before text text' after after' : List Char} {q q' : Char}
    {depth depth' : Nat} (h : SkipsAfter before text q depth)
    (h' : SkipsAfter before text' q' depth') (he : text ++ after = text' ++ after') :
    text = text' := by
  have hp : text <+: text ++ after := List.prefix_append ..
  have hp' : text' <+: text ++ after := he ▸ List.prefix_append ..
  rcases List.prefix_or_prefix_of_prefix hp hp' with hle | hle
  · exact h'.not_stops_inside h hle
  · exact (h.not_stops_inside h' hle).symm

theorem SkipsAfter.exists_quote {before text : List Char} {q : Char} {depth : Nat}
    (h : SkipsAfter before text q depth) :
    ∃ c rest, text = c :: rest ∧ Expression.isQuote c = true := by
  have hlength := h.two_le
  cases text with
  | nil => simp at hlength
  | cons c rest =>
    have hfirst : StandsIn (before ++ [c]) (some q) depth :=
      h.inside [c] (by simp) (by simp) fun he => by simp [← he] at hlength
    exact ⟨c, rest, rfl, isQuote_of_standsIn h.start h.isQuote hfirst⟩

/-- A literal is such a region. -/
theorem skipsAfter_literal {before content : List Char} {q : Char} {depth : Nat}
    (h : StandsIn before none depth) (hq : isQuote q = true) (hc : q ∉ content) :
    SkipsAfter before (q :: (content ++ [q])) q depth where
  isQuote := hq
  two_le := by simp
  start := h
  inside := by
    intro read hp hnil hne
    obtain ⟨c, read, rfl⟩ := List.exists_cons_of_ne_nil hnil
    obtain ⟨rfl, hread⟩ := List.cons_prefix_cons.1 hp
    rcases List.prefix_concat_iff.1 hread with he | hread
    · exact absurd (by rw [he]) hne
    · exact h.quoted hq fun hm => hc (hread.subset hm)
  stop := h.append fun rest => splitExpression_literal hq hc depth rest

theorem StandsIn.spell {before : List Char} {pieces : List (List Char × Token)} {depth depth' : Nat}
    (h : StandsIn before none depth) (hblank : ∀ p ∈ pieces, ∀ c ∈ p.1, isSpace c = true)
    (htext : ∀ p ∈ pieces, p.2.HasText) (hb : braces depth (pieces.map Prod.snd) = some depth') :
    StandsIn (before ++ spell pieces) none depth' := by
  induction pieces generalizing before depth with
  | nil =>
    cases hb
    simpa using h
  | cons p pieces ih =>
    rw [List.forall_mem_cons] at hblank htext
    rw [List.map_cons, braces_cons] at hb
    obtain ⟨middle, hm, hb⟩ := Option.bind_eq_some_iff.1 hb
    have hrest := ih ((h.blank hblank.1).token htext.1 hm) hblank.2 htext.2 hb
    simpa using hrest

/-! ## Tokens and regions -/

section

variable {e last blanks : List Char} {pieces others following : List (List Char × Token)} {t : Token}
  {depth : Nat} (hlayout : Layout 0 e pieces last) (hb : braces 0 (pieces.map Prod.snd) = some depth)

include hlayout hb

/-- The reader of templates is outside of literals before every token. -/
theorem standsIn_before_token (hp : pieces = others ++ (blanks, t) :: following) :
    ∃ depth', StandsIn (spell others ++ blanks) none depth' := by
  have hblank : ∀ p ∈ pieces, ∀ c ∈ p.1, isSpace c = true := fun p hp =>
    hlayout.blank p.1 (List.mem_cons_of_mem _ (List.mem_map_of_mem hp))
  have htext := hlayout.hasText
  subst hp
  rw [List.map_append, braces_append] at hb
  obtain ⟨depth', hb, -⟩ := Option.bind_eq_some_iff.1 hb
  rw [List.forall_mem_append] at hblank htext
  have hothers := standsIn_nil.spell hblank.1 htext.1 hb
  exact ⟨depth', hothers.blank (hblank.2 (blanks, t) List.mem_cons_self)⟩

/-- A literal among the tokens is skipped. -/
theorem skipsAfter_of_literal (hp : pieces = others ++ (blanks, t) :: following)
    (hk : t.kind = .stringLiteral) :
    ∃ quote depth', SkipsAfter (spell others ++ blanks) t.text.toList quote depth' := by
  obtain ⟨depth', hstands⟩ := standsIn_before_token hlayout hb hp
  obtain ⟨quote, content, hq, hc, he⟩ :=
    exists_quote_of_hasText (hlayout.hasText (blanks, t) (by simp [hp])) hk
  exact ⟨quote, depth', he ▸ skipsAfter_literal hstands hq hc⟩

/-- A region that is skipped is a literal among the tokens. -/
theorem exists_literal_of_skipsAfter {before text after : List Char} {quote : Char} {depth' : Nat}
    (he : e = before ++ text ++ after) (hskips : SkipsAfter before text quote depth') :
    ∃ others blanks t following, pieces = others ++ (blanks, t) :: following ∧
      before = spell others ++ blanks ∧ t.kind = .stringLiteral ∧ t.text.toList = text := by
  obtain ⟨c, text, rfl, hc⟩ := hskips.exists_quote
  have hspace : isSpace c = false := by rcases isQuote_cases hc with rfl | rfl <;> decide
  have hchar : e = before ++ c :: (text ++ after) := by simp [he]
  obtain ⟨others, blanks, t, following, inside, rest, hp, htext, hbefore⟩ :=
    hlayout.exists_of_char hchar hspace
  have ht : t.HasText := hlayout.hasText (blanks, t) (by simp [hp])
  have hk : t.kind = .stringLiteral := by
    by_contra hk
    have hsolid := isSolid_of_tokenText ht hk c (by simp [htext])
    simp [isSolid, hc] at hsolid
  obtain ⟨q, depth'', hliteral⟩ := skipsAfter_of_literal hlayout hb hp hk
  -- the reader is outside of literals at `before`, so no part of the token can stand there
  have hinside : inside = [] := by
    by_contra hne
    have hwithin := hliteral.inside inside (by simp [htext]) hne (by simp [htext])
    rw [← hbefore] at hwithin
    exact hskips.start.not_quoted hliteral.isQuote hwithin
  subst hinside
  rw [List.append_nil] at hbefore
  refine ⟨others, blanks, t, following, hp, hbefore, hk, ?_⟩
  rw [← hbefore] at hliteral
  have hsame : t.text.toList ++ (spell following ++ last) = c :: text ++ after := by
    have htexts := hlayout.text
    rw [hp, he, hbefore] at htexts
    simpa using htexts.symm
  exact hliteral.unique hskips hsame

theorem skips_of_literal (hp : pieces = others ++ (blanks, t) :: following)
    (hk : t.kind = .stringLiteral) :
    Skips e (byteLength (spell others ++ blanks)) t.text.toList := by
  obtain ⟨quote, depth', hskips⟩ := skipsAfter_of_literal hlayout hb hp hk
  refine ⟨spell others ++ blanks, spell following ++ last, quote, depth', ?_,
    (utf8ByteSize_ofList _).symm, hskips⟩
  rw [hlayout.text, hp]
  simp

/-- What the reader of templates skips are the literals among the tokens. -/
theorem skips_iff_literal {offset : Nat} {text : List Char} :
    Skips e offset text ↔ ∃ t ∈ pieces.map Prod.snd, t.kind = .stringLiteral ∧
      t.offset = some offset ∧ t.text = String.ofList text := by
  constructor
  · rintro ⟨before, after, quote, depth', he, rfl, hskips⟩
    obtain ⟨others, blanks, t, following, hp, rfl, hk, htext⟩ :=
      exists_literal_of_skipsAfter hlayout hb he hskips
    refine ⟨t, by simp [hp], hk, ?_, by rw [← htext, String.ofList_toList]⟩
    rw [hlayout.place others (blanks, t) following hp, utf8ByteSize_ofList, Nat.zero_add]
  · rintro ⟨t, hm, hk, ho, htext⟩
    obtain ⟨⟨blanks, t⟩, hpiece, rfl⟩ := List.mem_map.1 hm
    obtain ⟨others, following, hp⟩ := List.append_of_mem hpiece
    have hskips := skips_of_literal hlayout hb hp hk
    have hplace := hlayout.place others (blanks, t) following hp
    rw [ho, Option.some.injEq, Nat.zero_add] at hplace
    have hlist : t.text.toList = text := (congrArg String.toList htext).trans String.toList_ofList
    rw [hplace, ← hlist]
    exact hskips

/-- A brace that is not skipped is a token of its own. -/
theorem unknown_of_brace {before after : List Char} {c : Char} (he : e = before ++ c :: after)
    (hc : c = '\x7b' ∨ c = '\x7d')
    (houtside : ∀ offset text, Skips e offset text →
      ¬(offset ≤ byteLength before ∧ byteLength before < offset + byteLength text)) :
    ∃ t ∈ pieces.map Prod.snd, t.kind = .unknown ∧ t.offset = some (byteLength before) ∧
      t.text = String.ofList [c] := by
  have hspace : isSpace c = false := by rcases hc with rfl | rfl <;> decide
  obtain ⟨others, blanks, t, following, inside, rest, hp, htext, rfl⟩ :=
    hlayout.exists_of_char he hspace
  have ht : t.HasText := hlayout.hasText (blanks, t) (by simp [hp])
  have hk : t.kind ≠ .stringLiteral := fun hk => by
    refine houtside _ _ (skips_of_literal hlayout hb hp hk) ⟨?_, ?_⟩
    · simp
    · have := c.utf8Size_pos
      simp only [htext, byteLength_append, byteLength_cons]
      omega
  have hloner : c ∈ loners := by rcases hc with rfl | rfl <;> decide
  have hsingle : t.text.toList = [c] := eq_singleton_of_mem_loners ht hk hloner (by simp [htext])
  have hinside : inside = [] := by
    have hlength := congrArg List.length (htext.symm.trans hsingle)
    rw [List.length_append, List.length_cons, List.length_singleton] at hlength
    exact List.eq_nil_of_length_eq_zero (by omega)
  have hkey : t.key = (.unknown, String.ofList [c]) := by
    rcases hc with rfl | rfl
    · exact key_eq_of_hasText ht rfl hsingle
    · exact key_eq_of_hasText ht rfl hsingle
  refine ⟨t, by simp [hp], congrArg Prod.fst hkey, ?_, congrArg Prod.snd hkey⟩
  rw [hlayout.place others (blanks, t) following hp, hinside, List.append_nil, Nat.zero_add]

end

/-! ## Literals that are not closed -/

theorem outsideQuotes_inside {quote : Char} {cs : List Char} (h : quote ∉ cs) (rest : List Char) :
    outsideQuotes (some quote) (cs ++ rest) = outsideQuotes (some quote) rest := by
  induction cs with
  | nil => rfl
  | cons c cs ih =>
    rw [List.mem_cons, not_or] at h
    rw [List.cons_append, outsideQuotes, if_neg (Ne.symm h.1), ih h.2]

theorem outsideQuotes_unclosed {quote : Char} {cs : List Char} (hq : isQuote quote = true)
    (h : quote ∉ cs) : outsideQuotes none (quote :: cs) = none := by
  have hinside := outsideQuotes_inside h []
  rw [List.append_nil] at hinside
  rw [outsideQuotes, if_pos hq, hinside, outsideQuotes]

theorem outsideQuotes_cons_eq_none {c : Char} {cs : List Char} (hq : isQuote c = false)
    (h : outsideQuotes none cs = none) : outsideQuotes none (c :: cs) = none := by
  simp [outsideQuotes, hq, h]

theorem isQuote_eq_false_of_mem_bracketPairs {left right : Char}
    (h : (left, right) ∈ bracketPairs) : isQuote left = false ∧ isQuote right = false := by
  rcases bracketPairs_cases h with ⟨rfl, rfl⟩ | ⟨rfl, rfl⟩ <;> decide

/-- A literal that is not closed stays so behind a text without a fault. -/
theorem outsideQuotes_append_eq_none {cs rest : List Char} (h : WellNested cs)
    (hr : outsideQuotes none rest = none) : outsideQuotes none (cs ++ rest) = none := by
  induction h generalizing rest with
  | nil => exact hr
  | ordinary hc _ ih => exact outsideQuotes_cons_eq_none (isQuote_of_isOrdinary hc) (ih hr)
  | literal hq hm _ ih =>
    simp [outsideQuotes, hq, outsideQuotes_inside hm, ih hr]
  | group hp _ _ ihinside ih =>
    obtain ⟨hleft, hright⟩ := isQuote_eq_false_of_mem_bracketPairs hp
    rw [List.cons_append, List.append_assoc, List.cons_append]
    exact outsideQuotes_cons_eq_none hleft
      (ihinside (outsideQuotes_cons_eq_none hright (ih hr)))

theorem outsideQuotes_eq_none_of_leavesOpen {cs rest : List Char} {opened : List Bracket}
    (h : LeavesOpen cs opened) (hr : outsideQuotes none rest = none) :
    outsideQuotes none (cs ++ rest) = none := by
  induction h generalizing rest with
  | nothing h => exact outsideQuotes_append_eq_none h hr
  | bracket _ hp hinside ih =>
    rw [List.append_assoc, List.cons_append]
    exact ih (outsideQuotes_cons_eq_none (isQuote_eq_false_of_mem_bracketPairs hp).1
      (outsideQuotes_append_eq_none hinside hr))

/-- Where the reader of templates finds all literals closed, so does the reader of expressions. -/
theorem tokenize_ne_unterminated {text outside : List Char}
    (h : outsideQuotes none text = some outside) (source : String) (offset : Nat) :
    tokenize (String.ofList text) ≠ .error (.unterminatedLiteral source offset) := by
  intro herror
  rcases outcome_tokenize (String.ofList text) with ⟨ts, hts, -⟩ | ⟨e, he, hfault⟩
  · cases hts.symm.trans herror
  · cases he.symm.trans herror
    cases hfault with
    | unclosedLiteral htext hopened hq hm =>
      rw [String.toList_ofList] at htext
      have hnone := outsideQuotes_eq_none_of_leavesOpen hopened (outsideQuotes_unclosed hq hm)
      rw [← htext, h] at hnone
      cases hnone

/-! ## Expressions of a template -/

/-- The reader of templates and the reader of expressions agree on the literals in an expression of a
template. -/
theorem skipped_regions_are_literals {value : String} {template : ValueTemplate} {e : List Char}
    (hv : ValueTemplate.parse value = .ok template) (he : .expression e ∈ template.parts) :
    (∀ source offset,
      tokenize (String.ofList e) ≠ .error (.unterminatedLiteral source offset)) ∧
    ∀ ts, tokenize (String.ofList e) = .ok ts →
      (∀ offset text, Skips e offset text ↔ ∃ t ∈ ts, t.kind = .stringLiteral ∧
        t.offset = some offset ∧ t.text = String.ofList text) ∧
      ∀ before c after, e = before ++ c :: after → c = '\x7b' ∨ c = '\x7d' →
        (∀ offset text, Skips e offset text → ¬(offset ≤ (String.ofList before).utf8ByteSize ∧
          (String.ofList before).utf8ByteSize < offset + (String.ofList text).utf8ByteSize)) →
        ∃ t ∈ ts, t.kind = .unknown ∧ t.offset = some (String.ofList before).utf8ByteSize ∧
          t.text = String.ofList [c] := by
  have hexpression : IsExpression e := (wellFormed_of_ofChars hv).1.each _ he
  obtain ⟨outside, houtside, hbalanced⟩ := hexpression.balanced
  refine ⟨tokenize_ne_unterminated houtside, fun ts hts => ?_⟩
  have hscan := (tokenize_eq_ok_iff.1 hts).1
  rw [String.toList_ofList] at hscan
  have hbraces : braces 0 ts = some 0 :=
    (closes_iff_braces hscan []).1 (splitExpression_iff.2 hexpression.balanced)
  obtain ⟨pieces, last, rfl, hlayout⟩ := exists_layout_of_scan hscan
  refine ⟨fun offset text => skips_iff_literal hlayout hbraces, ?_⟩
  intro before c after hsplit hc hfree
  simp only [utf8ByteSize_ofList] at hfree ⊢
  exact unknown_of_brace hlayout hbraces hsplit hc hfree

/-- Of three braces, the one in the literal is skipped, and the last one is a token. -/
theorem skipped_regions_of_map :
    ∃ template ts, ValueTemplate.parse "\x7bmap\x7b'\x7d':1\x7d\x7d" = .ok template ∧
      .expression "map\x7b'\x7d':1\x7d".toList ∈ template.parts ∧
      tokenize "map\x7b'\x7d':1\x7d" = .ok ts ∧
      (∀ offset text, Skips "map\x7b'\x7d':1\x7d".toList offset text ↔
        offset = 4 ∧ text = "'\x7d'".toList) ∧
      ∃ t ∈ ts, t.kind = .unknown ∧ t.offset = some 9 ∧ t.text = "\x7d" := by
  have hv : ValueTemplate.parse "\x7bmap\x7b'\x7d':1\x7d\x7d" =
      .ok ⟨[.expression "map\x7b'\x7d':1\x7d".toList], false⟩ := by decide +kernel
  have hts : tokenize "map\x7b'\x7d':1\x7d" = .ok
      [⟨.name, "map", some 0, false⟩, ⟨.unknown, "\x7b", some 3, false⟩,
        ⟨.stringLiteral, "'\x7d'", some 4, false⟩, ⟨.unknown, ":", some 7, false⟩,
        ⟨.numberLiteral, "1", some 8, false⟩, ⟨.unknown, "\x7d", some 9, false⟩] := by decide +kernel
  obtain ⟨-, hregions⟩ := skipped_regions_are_literals hv List.mem_cons_self
  rw [String.ofList_toList] at hregions
  obtain ⟨hskips, hbraces⟩ := hregions _ hts
  have honly : ∀ offset text, Skips "map\x7b'\x7d':1\x7d".toList offset text ↔
      offset = 4 ∧ text = "'\x7d'".toList := fun offset text => by
    have htext : "'\x7d'" = String.ofList text ↔ text = "'\x7d'".toList := by
      rw [eq_comm, ← String.toList_inj, String.toList_ofList]
    rw [hskips]
    simp [htext, @eq_comm _ 4 offset]
  refine ⟨_, _, hv, List.mem_cons_self, hts, honly, ?_⟩
  refine hbraces "map\x7b'\x7d':1".toList '\x7d' [] rfl (.inr rfl) fun offset text h => ?_
  obtain ⟨rfl, rfl⟩ := (honly offset text).1 h
  decide

end XslLowering.Stylesheet
