import Mathlib.Data.List.Forall2
import XslLowering.Proofs.Expression.Rendering
import XslLowering.Stylesheet.ValueTemplate

/-!
# Texts as literals

Literals have no escapes, so a text with both kinds of quotes is written as several literals. Their
contents make up the text (`exists_contents_quoteLiteral`), and each of them is read as one token
(`tokenize_of_mem_quoteLiteral`).
-/

namespace XslLowering.Stylesheet

open Expression Text

/-! ## Segments -/

theorem segments_ne_nil (mark : Char) (cs : List Char) : segments mark cs ≠ [] := by
  cases cs with
  | nil => simp [segments]
  | cons c cs =>
    rw [segments]
    split
    · simp
    · split <;> simp

/-- A text is made up of its segments and of what separates them. -/
theorem eq_of_segments {mark : Char} {cs first : List Char} {others : List (List Char)}
    (h : segments mark cs = first :: others) : cs = first ++ others.flatMap (mark :: ·) := by
  induction cs generalizing first others with
  | nil =>
    cases h
    rfl
  | cons c cs ih =>
    rw [segments] at h
    split at h
    · rename_i hc
      cases h
      cases hs : segments mark cs with
      | nil => exact absurd hs (segments_ne_nil mark cs)
      | cons segment rest =>
        rw [ih hs, beq_iff_eq.1 hc]
        rfl
    · split at h
      · rename_i hs
        exact absurd hs (segments_ne_nil mark cs)
      · rename_i hs
        cases h
        rw [ih hs]
        rfl

theorem not_mem_of_mem_segments {mark : Char} {cs segment : List Char}
    (h : segment ∈ segments mark cs) : mark ∉ segment := by
  induction cs generalizing segment with
  | nil => simp_all [segments]
  | cons c cs ih =>
    rw [segments] at h
    split at h
    · rcases List.mem_cons.1 h with rfl | h
      · simp
      · exact ih h
    · rename_i hc
      have hne : mark ≠ c := fun he => hc (by simp [he])
      split at h
      · rw [List.mem_singleton.1 h]
        simpa using hne
      · rename_i first rest hsegments
        rcases List.mem_cons.1 h with rfl | h
        · have hfirst : mark ∉ first := ih (by simp [hsegments])
          simp [hne, hfirst]
        · exact ih (by simp [hsegments, h])

/-! ## Literals -/

/-- The literal has this content. -/
def Quotes (literal content : List Char) : Prop :=
  ∃ quote, isQuote quote = true ∧ quote ∉ content ∧ literal = quote :: (content ++ [quote])

theorem exists_contents_quoteSegment {segment : List Char} (h : '\x27' ∉ segment) :
    ∃ contents, List.Forall₂ Quotes (quoteSegment segment) contents ∧ contents.flatten = segment := by
  rw [quoteSegment]
  split
  · rename_i hempty
    exact ⟨[], .nil, (List.isEmpty_iff.1 hempty).symm⟩
  · exact ⟨[segment], .cons ⟨'\x27', rfl, h, rfl⟩ .nil, by simp⟩

theorem exists_contents_quoteSegments {segments : List (List Char)} (h : ∀ s ∈ segments, '\x27' ∉ s) :
    ∃ contents, List.Forall₂ Quotes
      (segments.flatMap fun segment => inDoubleQuotes ['\x27'] :: quoteSegment segment) contents ∧
        contents.flatten = segments.flatMap ('\x27' :: ·) := by
  induction segments with
  | nil => exact ⟨[], .nil, rfl⟩
  | cons segment segments ih =>
    rw [List.forall_mem_cons] at h
    obtain ⟨contents, hcontents, hsegment⟩ := exists_contents_quoteSegment h.1
    obtain ⟨rest, hrest, hflatten⟩ := ih h.2
    refine ⟨['\x27'] :: contents ++ rest, ?_, by simp [hsegment, hflatten]⟩
    exact List.rel_append (.cons ⟨'\x22', rfl, by decide, rfl⟩ hcontents) hrest

/-- A text is written as literals whose contents make it up. -/
theorem exists_contents_quoteLiteral (text : List Char) :
    ∃ contents, List.Forall₂ Quotes (quoteLiteral text) contents ∧ contents.flatten = text := by
  rw [quoteLiteral]
  split
  · rename_i hq
    exact ⟨[text], .cons ⟨'\x27', rfl, by simpa using hq, rfl⟩ .nil, by simp⟩
  split
  · rename_i hq
    exact ⟨[text], .cons ⟨'\x22', rfl, by simpa using hq, rfl⟩ .nil, by simp⟩
  split
  · rename_i hs
    exact absurd hs (segments_ne_nil '\x27' text)
  · rename_i first others hs
    have hmark : ∀ s ∈ first :: others, '\x27' ∉ s := fun s hm => not_mem_of_mem_segments (hs ▸ hm)
    rw [List.forall_mem_cons] at hmark
    obtain ⟨contents, hcontents, hfirst⟩ := exists_contents_quoteSegment hmark.1
    obtain ⟨rest, hrest, hflatten⟩ := exists_contents_quoteSegments hmark.2
    rw [eq_of_segments hs]
    exact ⟨contents ++ rest, List.rel_append hcontents hrest, by simp [hfirst, hflatten]⟩

theorem quoteLiteral_ne_nil (text : List Char) : quoteLiteral text ≠ [] := by
  intro he
  obtain ⟨contents, hcontents, rfl⟩ := exists_contents_quoteLiteral text
  rw [he] at hcontents
  -- without literals the text is empty, and the empty text is written as a literal
  cases hcontents
  cases he

/-- What a text is written as are literals. -/
theorem mem_quoteLiteral {text a : List Char} (h : a ∈ quoteLiteral text) :
    ∃ quote content, isQuote quote = true ∧ quote ∉ content ∧ a = quote :: (content ++ [quote]) := by
  obtain ⟨contents, hcontents, -⟩ := exists_contents_quoteLiteral text
  generalize quoteLiteral text = literals at h hcontents
  induction hcontents with
  | nil => cases h
  | cons hfirst _ ih =>
    rcases List.mem_cons.1 h with rfl | h
    · obtain ⟨quote, hquote⟩ := hfirst
      exact ⟨quote, _, hquote⟩
    · exact ih h

/-- A literal is read as one token. -/
theorem tokenize_of_quotes {literal content : List Char} (h : Quotes literal content) :
    tokenize (String.ofList literal) =
      .ok [⟨.stringLiteral, String.ofList literal, some 0, false⟩] := by
  obtain ⟨quote, hq, hc, rfl⟩ := h
  have htext :
      (Token.synthetic .stringLiteral (String.ofList (quote :: (content ++ [quote])))).HasText := by
    rw [Token.HasText, Token.synthetic, String.toList_ofList]
    exact .literal hq hc
  have hread := tokenize_renderTokens (List.forall_mem_singleton.2 htext) ⟨trivial, trivial⟩ rfl
  simpa [renderTokens, renderAfter, reread, rereadAfter, Token.synthetic] using hread

theorem tokenize_of_mem_quoteLiteral {text piece : List Char} (h : piece ∈ quoteLiteral text) :
    tokenize (String.ofList piece) = .ok [⟨.stringLiteral, String.ofList piece, some 0, false⟩] := by
  obtain ⟨quote, content, hliteral⟩ := mem_quoteLiteral h
  exact tokenize_of_quotes ⟨quote, hliteral⟩

/-- A text is written as one literal or more, each of which is read as one token, and what stands
between their quotes makes up the text. -/
theorem quoted_pieces_make_up_text (text : String) :
    quoteLiteral text.toList ≠ [] ∧
    (∀ piece ∈ quoteLiteral text.toList, tokenize (String.ofList piece) =
      .ok [⟨.stringLiteral, String.ofList piece, some 0, false⟩]) ∧
    ∃ contents, List.Forall₂ Quotes (quoteLiteral text.toList) contents ∧
      contents.flatten = text.toList :=
  ⟨quoteLiteral_ne_nil _, fun _ => tokenize_of_mem_quoteLiteral, exists_contents_quoteLiteral _⟩

example : (quoteLiteral "it's \x22so\x22".toList).map String.ofList =
    ["'it'", "\x22'\x22", "'s \x22so\x22'"] := by decide

end XslLowering.Stylesheet
