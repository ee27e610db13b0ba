import Mathlib.Data.List.Chain
import XslLowering.Proofs.Stylesheet.Settled

/-!
# Expressions in which only blanks change

`normalizeBlanks` goes through the characters of a text and knows of nothing but quotes: outside of
quoted strings it writes one space for every run of blanks, and none at the ends. Reading a text as
an expression and writing its tokens does the same:

* `squeezeBlanks_token`: a token is passed on as it is, since it has neither blanks nor quotes, or is
  a quoted string itself;
* `renderAfter_eq_squeezeBlanks`: tokens are written as the text that they were read from, squeezed;
* `compile_eq_normalizeBlanks`: an expression without calls to replace is compiled to its text with
  normalized blanks, whatever the functions are.
-/

namespace XslLowering.Stylesheet

open Expression Text

/-! ## Blanks in texts -/

/-- Writes one space for every run of blanks, but none for a run at the end. Quoted strings stay as
they are; `quote` is the quote of the string that the text starts in. -/
def squeezeBlanks (quote : Option Char) : List Char → List Char
  | [] => []
  | c :: cs =>
    match quote with
    | some q => c :: squeezeBlanks (if c = q then none else some q) cs
    | none =>
      if isQuote c then c :: squeezeBlanks (some c) cs
      else if isSpace c then
        -- A run of blanks is written when its last one is met.
        if cs.head?.all isSpace then squeezeBlanks none cs else ' ' :: squeezeBlanks none cs
      else c :: squeezeBlanks none cs

/-- The text with one space for every run of blanks outside of quoted strings, and without those at
its ends. -/
def normalizeBlanks (text : String) : String :=
  String.ofList (squeezeBlanks none (text.toList.dropWhile isSpace))

theorem squeezeBlanks_solid {cs : List Char} (h : ∀ c ∈ cs, isSolid c = true) (rest : List Char) :
    squeezeBlanks none (cs ++ rest) = cs ++ squeezeBlanks none rest := by
  induction cs with
  | nil => rfl
  | cons c cs ih =>
    rw [List.forall_mem_cons] at h
    obtain ⟨hc, hcs⟩ := h
    simp only [isSolid, Bool.and_eq_true, Bool.not_eq_true'] at hc
    simp only [List.cons_append, squeezeBlanks, hc.1, hc.2, Bool.false_eq_true, ↓reduceIte, ih hcs]

theorem squeezeBlanks_quoted {quote : Char} {content : List Char} (h : quote ∉ content)
    (rest : List Char) :
    squeezeBlanks (some quote) (content ++ quote :: rest) =
      content ++ quote :: squeezeBlanks none rest := by
  induction content with
  | nil => simp only [List.nil_append, squeezeBlanks, ↓reduceIte]
  | cons c content ih =>
    rw [List.mem_cons, not_or] at h
    simp only [List.cons_append, squeezeBlanks, if_neg (Ne.symm h.1), ih h.2]

/-- A blank is written if it is the last one of a run and something follows. -/
theorem squeezeBlanks_blank {b : Char} (h : isSpace b = true) (cs : List Char) :
    squeezeBlanks none (b :: cs) =
      if cs.head?.all isSpace then squeezeBlanks none cs else ' ' :: squeezeBlanks none cs := by
  have hquote : isQuote b = false := by
    rcases isSpace_cases h with rfl | rfl | rfl | rfl <;> decide
  simp only [squeezeBlanks, hquote, h, Bool.false_eq_true, ↓reduceIte]

theorem squeezeBlanks_end {blanks : List Char} (h : ∀ b ∈ blanks, isSpace b = true) :
    squeezeBlanks none blanks = [] := by
  induction blanks with
  | nil => rfl
  | cons b blanks ih =>
    rw [List.forall_mem_cons] at h
    have hnext : blanks.head?.all isSpace = true := by
      cases blanks with
      | nil => rfl
      | cons c blanks => exact h.2 c List.mem_cons_self
    rw [squeezeBlanks_blank h.1, if_pos hnext, ih h.2]

theorem squeezeBlanks_run {b : Char} {blanks : List Char} (h : ∀ a ∈ b :: blanks, isSpace a = true)
    {c : Char} (hc : isSpace c = false) (cs : List Char) :
    squeezeBlanks none (b :: blanks ++ c :: cs) = ' ' :: squeezeBlanks none (c :: cs) := by
  induction blanks generalizing b with
  | nil => simp [squeezeBlanks_blank (h b List.mem_cons_self), hc]
  | cons a blanks ih =>
    rw [List.forall_mem_cons] at h
    have hnext : (a :: blanks ++ c :: cs).head?.all isSpace = true := h.2 a List.mem_cons_self
    rw [List.cons_append, squeezeBlanks_blank h.1, if_pos hnext, ih h.2]

/-! ## Blanks between tokens -/

/-- A token is passed on as it is. -/
theorem squeezeBlanks_token {t : Token} (ht : t.HasText) (rest : List Char) :
    squeezeBlanks none (t.text.toList ++ rest) = t.text.toList ++ squeezeBlanks none rest := by
  by_cases hk : t.kind = .stringLiteral
  · obtain ⟨quote, content, hq, hc, he⟩ := exists_quote_of_hasText ht hk
    simp [he, squeezeBlanks, hq, squeezeBlanks_quoted hc]
  · exact squeezeBlanks_solid (isSolid_of_tokenText ht hk) rest

/-- What is written after a token of a text is what stood there, with its blanks squeezed. -/
theorem renderAfter_eq_squeezeBlanks {offset : Nat} {cs : List Char} {ts : List Token} {p : Token}
    (h : scan offset cs = (ts, none)) (hp : p.offset.isSome) :
    renderAfter p ts = squeezeBlanks none cs := by
  induction ts generalizing offset cs p with
  | nil => exact (squeezeBlanks_end (isSpace_of_scan_nil h)).symm
  | cons t ts ih =>
    obtain ⟨blanks, rest, rfl, hblanks, ho, hs, ht, he, hrest⟩ := scan_eq_cons h
    obtain ⟨c, ds, hcs, hc, -⟩ := lexeme?_of_tokenText ht he
    have hto : t.offset.isSome := by simp [ho]
    have htoken : squeezeBlanks none (c :: ds) = t.text.toList ++ renderAfter t ts := by
      rw [← hcs, squeezeBlanks_token ht, ih hrest hto]
    rw [renderAfter, gap_of_offset hp hto, hs, hcs]
    cases blanks with
    | nil =>
      show t.text.toList ++ renderAfter t ts = squeezeBlanks none (c :: ds)
      exact htoken.symm
    | cons b blanks =>
      show ' ' :: (t.text.toList ++ renderAfter t ts) = squeezeBlanks none (b :: blanks ++ c :: ds)
      rw [squeezeBlanks_run hblanks hc, htoken]

/-- The tokens of an expression are written as the expression with normalized blanks. -/
theorem renderTokens_eq_normalizeBlanks {e : String} {ts : List Token} (h : tokenize e = .ok ts) :
    String.ofList (renderTokens ts) = normalizeBlanks e := by
  have hscan : scan 0 e.toList = (ts, none) := (tokenize_eq_ok_iff.1 h).1
  rw [normalizeBlanks]
  congr 1
  cases ts with
  | nil =>
    rw [List.dropWhile_eq_nil_iff.2 (isSpace_of_scan_nil hscan)]
    rfl
  | cons t ts =>
    obtain ⟨blanks, rest, he, hblanks, ho, -, ht, hends, hrest⟩ := scan_eq_cons hscan
    rw [he, dropWhile_blanks hblanks ht hends, squeezeBlanks_token ht, renderTokens,
      renderAfter_eq_squeezeBlanks hrest (by simp [ho])]

/-- An expression in which no function of the map is called keeps its text, with normalized blanks. -/
theorem compile_eq_normalizeBlanks {functions : FunctionMap} {e : String} {ts : List Token}
    (ht : tokenize e = .ok ts)
    (hcalls : ts.IsChain fun t next =>
      ¬(t.kind = .name ∧ (functions.get? t.text).isSome = true ∧ next.kind = .leftParen))
    (place : Place) : (compile functions place e).result = .ok (normalizeBlanks e) := by
  have hquiet : Quiet functions ts := by
    rw [Quiet, List.isChain_map]
    refine hcalls.imp fun t next h hname hparen => ?_
    by_contra hget
    exact h ⟨hname, Option.isSome_iff_ne_none.2 hget, hparen⟩
  rw [result_compile_of_quiet ht hquiet, renderTokens_eq_normalizeBlanks ht]

/-- A function that is named but not called, one that is called by another name, and a string that
looks like a call. -/
theorem compile_eq_normalizeBlanks_beside_names :
    ∃ functions ts, tokenize " f\t[ 'f( \x22  )' ]\r\n|  e:f ( . ) " = .ok ts ∧
      (functions.get? "f").isSome = true ∧
      (ts.IsChain fun t next =>
        ¬(t.kind = .name ∧ (functions.get? t.text).isSome = true ∧ next.kind = .leftParen)) ∧
      (compile functions ⟨.empty, 0, none⟩ " f\t[ 'f( \x22  )' ]\r\n|  e:f ( . ) ").result =
        .ok "f [ 'f( \x22  )' ] | e:f ( . )" := by
  obtain ⟨functions, ts, ht, hf, hcalls⟩ :
      ∃ functions : FunctionMap, ∃ ts, tokenize " f\t[ 'f( \x22  )' ]\r\n|  e:f ( . ) " = .ok ts ∧
        (functions.get? "f").isSome = true ∧ ts.IsChain fun t next =>
          ¬(t.kind = .name ∧ (functions.get? t.text).isSome = true ∧ next.kind = .leftParen) :=
    ⟨⟨⟨[("f", .custom fun s _ => return ⟨[], s.cursor⟩)]⟩⟩,
      [⟨.name, "f", some 1, true⟩, ⟨.leftBracket, "[", some 3, true⟩,
        ⟨.stringLiteral, "'f( \x22  )'", some 5, true⟩, ⟨.rightBracket, "]", some 15, true⟩,
        ⟨.operator, "|", some 18, true⟩, ⟨.name, "e:f", some 21, true⟩,
        ⟨.leftParen, "(", some 25, true⟩, ⟨.dot, ".", some 27, true⟩,
        ⟨.rightParen, ")", some 29, true⟩], by decide +kernel, rfl, by decide⟩
  refine ⟨functions, ts, ht, hf, hcalls, ?_⟩
  rw [compile_eq_normalizeBlanks ht hcalls]
  decide

end XslLowering.Stylesheet
