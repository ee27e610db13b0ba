import Mathlib.Data.List.Chain
import Mathlib.Data.List.TakeWhile
import XslLowering.Proofs.Attempt
import XslLowering.Proofs.Expression.TokenText
import XslLowering.Stylesheet.ValueTemplate

/-!
# The grammar of value templates

`WellFormedParts` says which parts a template can have, and `unparse` how they are written. Reading
and writing are inverse to each other:

* `splitExpression_iff`: an expression ends at the first brace before which its text has its quotes
  closed and its braces balanced;
* `wellFormed_of_ofChars`: what is read is well-formed, and is written as the text it was read from;
* `ofChars_unparse`: well-formed parts are read as they are;
* `parse_iff_unparse`: the parts of a value are the well-formed ones that are written as it.
-/

namespace XslLowering.Stylesheet

open Expression Text

/-! ## Balanced texts -/

/-- The characters of a text that stand outside of its quoted strings, quotes excepted. `quote` is
the quote of the string that the text starts in. There are none if a string is not closed. -/
def outsideQuotes : Option Char → List Char → Option (List Char)
  | none, [] => some []
  | some _, [] => none
  | some quote, c :: cs => outsideQuotes (if c = quote then none else some quote) cs
  | none, c :: cs =>
    if isQuote c then outsideQuotes (some c) cs else (outsideQuotes none cs).map (c :: ·)

/-- Every brace is closed, those that were open before the text included, and none is closed that
is not open. -/
structure Balanced (depth : Nat) (cs : List Char) : Prop where
  closed : depth + cs.count '\x7b' = cs.count '\x7d'
  opened : ∀ before, before <+: cs → before.count '\x7d' ≤ depth + before.count '\x7b'

theorem balanced_nil {depth : Nat} : Balanced depth [] ↔ depth = 0 := by
  constructor
  · intro h
    simpa using h.closed
  · rintro rfl
    exact ⟨rfl, fun before hb => by simp [List.prefix_nil.1 hb]⟩

/-- A character may change the number of open braces, but must not close more than there are. -/
theorem balanced_cons {depth : Nat} {c : Char} {cs : List Char} :
    Balanced depth (c :: cs) ↔ [c].count '\x7d' ≤ depth + [c].count '\x7b' ∧
      Balanced (depth + [c].count '\x7b' - [c].count '\x7d') cs := by
  have count (x : Char) (ds : List Char) : (c :: ds).count x = ds.count x + [c].count x := by
    simp [List.count_cons]
  constructor
  · intro h
    have hfirst := h.opened [c] (by simp)
    have hclosed := h.closed
    simp only [count _ cs] at hclosed
    refine ⟨hfirst, by omega, fun before hb => ?_⟩
    have hbefore := h.opened (c :: before) (List.cons_prefix_cons.2 ⟨rfl, hb⟩)
    simp only [count _ before] at hbefore
    omega
  · rintro ⟨hfirst, h⟩
    have hclosed := h.closed
    refine ⟨by simp only [count _ cs]; omega, fun before hb => ?_⟩
    cases before with
    | nil => simp
    | cons d before =>
      obtain ⟨rfl, hbefore⟩ := List.cons_prefix_cons.1 hb
      have hopened := h.opened before hbefore
      simp only [count _ before]
      omega

theorem balanced_open {depth : Nat} {cs : List Char} :
    Balanced depth ('\x7b' :: cs) ↔ Balanced (depth + 1) cs := by
  simp [balanced_cons]

theorem balanced_close {depth : Nat} {cs : List Char} :
    Balanced (depth + 1) ('\x7d' :: cs) ↔ Balanced depth cs := by
  simp [balanced_cons]

theorem not_balanced_close {cs : List Char} : ¬Balanced 0 ('\x7d' :: cs) := by
  simp [balanced_cons]

theorem balanced_of_ne {depth : Nat} {c : Char} {cs : List Char} (ho : c ≠ '\x7b') (hc : c ≠ '\x7d') :
    Balanced depth (c :: cs) ↔ Balanced depth cs := by
  simp [balanced_cons, ho, hc]

/-- An expression ends at a brace exactly if no string is open there and no brace. -/
theorem splitExpression_iff {quote : Option Char} {depth : Nat} {text after : List Char} :
    ValueTemplate.splitExpression quote depth (text ++ '\x7d' :: after) = some (text, after) ↔
      ∃ outside, outsideQuotes quote text = some outside ∧ Balanced depth outside := by
  induction text generalizing quote depth with
  | nil =>
    cases quote with
    | some q => simp [ValueTemplate.splitExpression, outsideQuotes]
    | none => cases depth <;> simp [ValueTemplate.splitExpression, outsideQuotes, balanced_nil]
  | cons c text ih =>
    -- a character that is kept leaves the question to the rest of the text
    have keep (quote' : Option Char) (depth' : Nat) :
        (ValueTemplate.splitExpression quote' depth' (text ++ '\x7d' :: after)).map
            (fun split => (c :: split.1, split.2)) = some (c :: text, after) ↔
          ∃ outside, outsideQuotes quote' text = some outside ∧ Balanced depth' outside := by
      rw [← ih, Option.map_eq_some_iff]
      simp [Prod.ext_iff]
    cases quote with
    | some q =>
      by_cases hq : c = q
      · simp only [List.cons_append, ValueTemplate.splitExpression, outsideQuotes, hq, beq_self_eq_true,
          ↓reduceIte]
        exact hq ▸ keep none depth
      · simp only [List.cons_append, ValueTemplate.splitExpression, outsideQuotes, beq_iff_eq, hq,
          ↓reduceIte]
        exact keep (some q) depth
    | none =>
      by_cases hq : isQuote c
      · have hq' : (c == '\x27' || c == '\x22') = true := hq
        simp only [List.cons_append, ValueTemplate.splitExpression, outsideQuotes, hq, hq', ↓reduceIte]
        exact keep (some c) depth
      have hq' : (c == '\x27' || c == '\x22') = false := Bool.eq_false_iff.2 hq
      have houtside (depth' : Nat) (h : ∀ outside, Balanced depth (c :: outside) ↔
          Balanced depth' outside) :
          (∃ outside, outsideQuotes none (c :: text) = some outside ∧ Balanced depth outside) ↔
            ∃ outside, outsideQuotes none text = some outside ∧ Balanced depth' outside := by
        simp [outsideQuotes, hq, h]
      by_cases ho : c = '\x7b'
      · subst ho
        rw [houtside (depth + 1) fun _ => balanced_open, ← keep]
        rfl
      by_cases hc : c = '\x7d'
      · subst hc
        cases depth with
        | zero => simp [ValueTemplate.splitExpression, outsideQuotes, hq, not_balanced_close]
        | succ outer =>
          rw [houtside outer fun _ => balanced_close, ← keep]
          rfl
      · rw [houtside depth fun _ => balanced_of_ne ho hc, ← keep]
        simp only [List.cons_append, ValueTemplate.splitExpression, hq', beq_iff_eq, ho, hc,
          ↓reduceIte, Bool.false_eq_true]

/-! ## Well-formed parts -/

theorem isEmpty_trimBlank_iff {cs : List Char} :
    (trimBlank cs).isEmpty = true ↔ ∀ c ∈ cs, isBlank c = true := by
  rw [trimBlank, List.isEmpty_iff, List.reverse_eq_nil_iff, List.dropWhile_eq_nil_iff]
  constructor
  · intro h
    rw [← List.dropWhile_eq_nil_iff]
    cases hd : cs.dropWhile isBlank with
    | nil => rfl
    | cons c rest =>
      have hfirst : isBlank c = false := head_dropWhile (p := isBlank) (l := cs) (by rw [hd]; rfl)
      have := h c (by simp [hd])
      rw [hfirst] at this
      cases this
  · intro h
    rw [List.dropWhile_eq_nil_iff.2 h]
    simp

/-- A text that can stand in braces as an expression. -/
structure IsExpression (text : List Char) : Prop where
  visible : ∃ c ∈ text, isBlank c = false
  /-- A second brace would make the first one text. -/
  lead : text.head? ≠ some '\x7b'
  balanced : ∃ outside, outsideQuotes none text = some outside ∧ Balanced 0 outside

def TemplatePart.WellFormed : TemplatePart → Prop
  | .literal text => text ≠ []
  | .expression text => IsExpression text

/-- The parts that a template can have. -/
structure WellFormedParts (parts : List TemplatePart) : Prop where
  each : ∀ part ∈ parts, part.WellFormed
  apart : parts.IsChain fun part next => ¬(part.isLiteral = true ∧ next.isLiteral = true)

/-- A character of text, as it is written in a template. -/
def escapeBrace (c : Char) : List Char := if c = '\x7b' ∨ c = '\x7d' then [c, c] else [c]

def TemplatePart.unparse : TemplatePart → List Char
  | .literal text => text.flatMap escapeBrace
  | .expression text => '\x7b' :: text ++ ['\x7d']

/-- The value that has the given parts. -/
def unparse (parts : List TemplatePart) : List Char := parts.flatMap TemplatePart.unparse

theorem wellFormedParts_nil : WellFormedParts [] := ⟨by simp, .nil⟩

theorem WellFormedParts.tail {part : TemplatePart} {parts : List TemplatePart}
    (h : WellFormedParts (part :: parts)) : WellFormedParts parts :=
  ⟨fun q hq => h.each q (List.mem_cons_of_mem _ hq), h.apart.tail⟩

theorem WellFormedParts.consExpression {text : List Char} {parts : List TemplatePart}
    (h : WellFormedParts parts) (ht : IsExpression text) :
    WellFormedParts (.expression text :: parts) := by
  refine ⟨List.forall_mem_cons.2 ⟨ht, h.each⟩, h.apart.cons fun _ _ => ?_⟩
  simp [TemplatePart.isLiteral]

/-- Parts that do not start with text can follow a text. -/
theorem WellFormedParts.consLiteral {text : List Char} {parts : List TemplatePart}
    (h : WellFormedParts parts) (ht : text ≠ []) (hp : ∀ next ∈ parts.head?, next.isLiteral = false) :
    WellFormedParts (.literal text :: parts) := by
  refine ⟨List.forall_mem_cons.2 ⟨ht, h.each⟩, h.apart.cons fun next hnext => ?_⟩
  simp [hp next hnext]

namespace ValueTemplate

/-- How a character of text comes in front of a template: in the text it starts with, or as a text
of its own. -/
theorem parts_consLiteral_cases (c : Char) (t : ValueTemplate) :
    (∃ text rest, t.parts = .literal text :: rest ∧
        (t.consLiteral c).parts = .literal (c :: text) :: rest) ∨
      (∀ next ∈ t.parts.head?, next.isLiteral = false) ∧
        (t.consLiteral c).parts = .literal [c] :: t.parts := by
  rw [ValueTemplate.consLiteral]
  split
  · rename_i text rest hparts
    exact .inl ⟨text, rest, hparts, rfl⟩
  · rename_i hparts
    refine .inr ⟨fun next hnext => ?_, rfl⟩
    cases next with
    | expression text => rfl
    | literal text =>
      obtain ⟨rest, hrest⟩ := List.head?_eq_some_iff.1 hnext
      exact absurd hrest (hparts text rest)

theorem wellFormedParts_consLiteral {c : Char} {t : ValueTemplate} (h : WellFormedParts t.parts) :
    WellFormedParts (t.consLiteral c).parts := by
  rcases parts_consLiteral_cases c t with ⟨text, rest, hparts, he⟩ | ⟨hnext, he⟩
  · rw [hparts] at h
    refine he ▸ h.tail.consLiteral (List.cons_ne_nil _ _) fun next hnext => ?_
    have := h.apart.rel_head? hnext
    simpa [TemplatePart.isLiteral] using this
  · exact he ▸ h.consLiteral (List.cons_ne_nil _ _) hnext

theorem unparse_consLiteral (c : Char) (t : ValueTemplate) :
    unparse (t.consLiteral c).parts = escapeBrace c ++ unparse t.parts := by
  rcases parts_consLiteral_cases c t with ⟨text, rest, hparts, he⟩ | ⟨-, he⟩
  · simp [he, hparts, unparse, TemplatePart.unparse]
  · simp [he, unparse, TemplatePart.unparse]

theorem isStatic_consLiteral (c : Char) (t : ValueTemplate) :
    (t.consLiteral c).isStatic = t.isStatic := by
  have hescaped : (t.consLiteral c).escaped = t.escaped := by
    rw [ValueTemplate.consLiteral]
    split <;> rfl
  rcases parts_consLiteral_cases c t with ⟨text, rest, hparts, he⟩ | ⟨-, he⟩
  · simp [isStatic, hescaped, he, hparts, TemplatePart.isLiteral]
  · simp [isStatic, hescaped, he, TemplatePart.isLiteral]

end ValueTemplate

/-! ## Reading what was written -/

/-- What is read is well-formed, and stands there as it is written. -/
theorem wellFormed_of_ofChars {cs : List Char} {t : ValueTemplate}
    (h : ValueTemplate.ofChars cs = .ok t) : WellFormedParts t.parts ∧ unparse t.parts = cs := by
  fun_induction ValueTemplate.ofChars cs generalizing t with
  | case1 =>
    cases h
    exact ⟨wellFormedParts_nil, rfl⟩
  | case2 c hc rest ih =>
    obtain ⟨t, ht, rfl⟩ := exists_of_map_eq_ok h
    obtain ⟨hparts, hwritten⟩ := ih ht
    rw [beq_iff_eq.1 hc, ← hwritten]
    exact ⟨ValueTemplate.wellFormedParts_consLiteral hparts, ValueTemplate.unparse_consLiteral _ t⟩
  | case3 => cases h
  | case4 => cases h
  | case5 c hc rest hne inside after hs hb ih =>
    obtain ⟨t, ht, rfl⟩ := exists_of_map_eq_ok h
    obtain ⟨hparts, hwritten⟩ := ih ht
    have hrest : rest = inside ++ '\x7d' :: after := ValueTemplate.splitExpression_eq_some hs
    have hexpression : IsExpression inside := by
      refine ⟨?_, fun hlead => ?_, splitExpression_iff.1 (hrest ▸ hs)⟩
      · by_contra hblank
        exact hb (isEmpty_trimBlank_iff.2 (by simpa using hblank))
      · obtain ⟨text, rfl⟩ := List.head?_eq_some_iff.1 hlead
        exact hne _ hrest
    refine ⟨hparts.consExpression hexpression, ?_⟩
    rw [beq_iff_eq.1 hc, hrest, ← hwritten]
    simp [unparse, ValueTemplate.consExpression, TemplatePart.unparse]
  | case6 c hc hc' rest ih =>
    obtain ⟨t, ht, rfl⟩ := exists_of_map_eq_ok h
    obtain ⟨hparts, hwritten⟩ := ih ht
    rw [beq_iff_eq.1 hc', ← hwritten]
    exact ⟨ValueTemplate.wellFormedParts_consLiteral hparts, ValueTemplate.unparse_consLiteral _ t⟩
  | case7 => cases h
  | case8 c cs hc hc' ih =>
    obtain ⟨t, ht, rfl⟩ := exists_of_map_eq_ok h
    obtain ⟨hparts, hwritten⟩ := ih ht
    rw [beq_iff_eq] at hc hc'
    refine ⟨ValueTemplate.wellFormedParts_consLiteral hparts, ?_⟩
    rw [ValueTemplate.unparse_consLiteral, hwritten]
    simp [escapeBrace, hc, hc']

/-- A template stands for itself if there is no brace in it. -/
theorem isStatic_iff_of_ofChars {cs : List Char} {t : ValueTemplate}
    (h : ValueTemplate.ofChars cs = .ok t) :
    t.isStatic = true ↔ '\x7b' ∉ cs ∧ '\x7d' ∉ cs := by
  fun_induction ValueTemplate.ofChars cs generalizing t with
  | case1 =>
    cases h
    simp [ValueTemplate.isStatic]
  | case2 c hc rest ih =>
    obtain ⟨t, ht, rfl⟩ := exists_of_map_eq_ok h
    simp [ValueTemplate.isStatic, ValueTemplate.consBrace]
  | case3 => cases h
  | case4 => cases h
  | case5 c hc rest hne inside after hs hb ih =>
    obtain ⟨t, ht, rfl⟩ := exists_of_map_eq_ok h
    simp_all [ValueTemplate.isStatic, ValueTemplate.consExpression, TemplatePart.isLiteral]
  | case6 c hc hc' rest ih =>
    obtain ⟨t, ht, rfl⟩ := exists_of_map_eq_ok h
    simp [ValueTemplate.isStatic, ValueTemplate.consBrace]
  | case7 => cases h
  | case8 c cs hc hc' ih =>
    obtain ⟨t, ht, rfl⟩ := exists_of_map_eq_ok h
    rw [beq_iff_eq] at hc hc'
    rw [ValueTemplate.isStatic_consLiteral, ih ht]
    simp [Ne.symm hc, Ne.symm hc']

/-! ## Writing what is read -/

/-- A character of text is read as it is written. -/
theorem ofChars_escapeBrace {cs : List Char} {t : ValueTemplate}
    (h : ValueTemplate.ofChars cs = .ok t) (c : Char) :
    ∃ t', ValueTemplate.ofChars (escapeBrace c ++ cs) = .ok t' ∧
      t'.parts = (t.consLiteral c).parts := by
  by_cases hopen : c = '\x7b'
  · refine ⟨t.consBrace c, ?_, rfl⟩
    subst hopen
    show ValueTemplate.ofChars ('\x7b' :: '\x7b' :: cs) = _
    rw [ValueTemplate.ofChars.eq_def]
    simp only [beq_self_eq_true, ↓reduceIte, h]
    rfl
  by_cases hclose : c = '\x7d'
  · refine ⟨t.consBrace c, ?_, rfl⟩
    subst hclose
    show ValueTemplate.ofChars ('\x7d' :: '\x7d' :: cs) = _
    rw [ValueTemplate.ofChars.eq_def]
    simp only [beq_self_eq_true, ↓reduceIte, h, beq_iff_eq, hopen]
    rfl
  · refine ⟨t.consLiteral c, ?_, rfl⟩
    have hescape : escapeBrace c = [c] := by simp [escapeBrace, hopen, hclose]
    rw [hescape, List.singleton_append, ValueTemplate.ofChars.eq_def]
    simp only [beq_iff_eq, hopen, hclose, ↓reduceIte, h]
    rfl

/-- A text is read as one literal, unless it is followed by one. -/
theorem ofChars_literal {text cs : List Char} {t : ValueTemplate} (ht : text ≠ [])
    (h : ValueTemplate.ofChars cs = .ok t) (hnext : ∀ next ∈ t.parts.head?, next.isLiteral = false) :
    ∃ t', ValueTemplate.ofChars (text.flatMap escapeBrace ++ cs) = .ok t' ∧
      t'.parts = .literal text :: t.parts := by
  induction text with
  | nil => exact absurd rfl ht
  | cons c text ih =>
    rw [List.flatMap_cons, List.append_assoc]
    cases text with
    | nil =>
      obtain ⟨t', ht', hparts⟩ := ofChars_escapeBrace h c
      refine ⟨t', ht', ?_⟩
      rcases ValueTemplate.parts_consLiteral_cases c t with ⟨text, rest, hlead, -⟩ | ⟨-, he⟩
      · have := hnext (.literal text) (by simp [hlead])
        cases this
      · rw [hparts, he]
    | cons d text =>
      obtain ⟨u, hu, huparts⟩ := ih (List.cons_ne_nil _ _)
      obtain ⟨t', ht', hparts⟩ := ofChars_escapeBrace hu c
      refine ⟨t', ht', ?_⟩
      rw [hparts, ValueTemplate.consLiteral, huparts]

theorem ofChars_expression {text cs : List Char} {t : ValueTemplate} (ht : IsExpression text)
    (h : ValueTemplate.ofChars cs = .ok t) :
    ValueTemplate.ofChars ('\x7b' :: text ++ ['\x7d'] ++ cs) = .ok (t.consExpression text) := by
  have hsplit : ValueTemplate.splitExpression none 0 (text ++ '\x7d' :: cs) = some (text, cs) :=
    splitExpression_iff.2 ht.balanced
  have hblank : (trimBlank text).isEmpty = false := by
    refine Bool.eq_false_iff.2 fun he => ?_
    obtain ⟨c, hc, hb⟩ := ht.visible
    rw [isEmpty_trimBlank_iff.1 he c hc] at hb
    cases hb
  have hcs : '\x7b' :: text ++ ['\x7d'] ++ cs = '\x7b' :: (text ++ '\x7d' :: cs) := by simp
  rw [hcs, ValueTemplate.ofChars.eq_def]
  simp only [beq_self_eq_true, ↓reduceIte]
  split
  · rename_i rest he
    cases text with
    | nil => cases he
    | cons c text =>
      cases he
      exact absurd rfl ht.lead
  · split
    · rename_i hs
      rw [hsplit] at hs
      cases hs
    · rename_i inside after hs
      rw [hsplit] at hs
      cases hs
      rw [hblank, h]
      rfl

/-- An expression in braces is a template of its own. -/
theorem ofChars_in_braces {text : List Char} (h : IsExpression text) :
    ValueTemplate.ofChars ('\x7b' :: text ++ ['\x7d']) = .ok ⟨[.expression text], false⟩ := by
  have hnil : ValueTemplate.ofChars [] = .ok ⟨[], false⟩ := by rw [ValueTemplate.ofChars]
  have hread := ofChars_expression h hnil
  rw [List.append_nil] at hread
  exact hread

/-- Well-formed parts are read as they are. -/
theorem ofChars_unparse {parts : List TemplatePart} (h : WellFormedParts parts) :
    ∃ t, ValueTemplate.ofChars (unparse parts) = .ok t ∧ t.parts = parts := by
  induction parts with
  | nil => exact ⟨⟨[], false⟩, by rw [unparse, List.flatMap_nil, ValueTemplate.ofChars], rfl⟩
  | cons part parts ih =>
    obtain ⟨t, ht, hparts⟩ := ih h.tail
    have hpart := h.each part List.mem_cons_self
    rw [unparse, List.flatMap_cons]
    cases part with
    | literal text =>
      obtain ⟨t', ht', hparts'⟩ := ofChars_literal hpart ht fun next hnext => by
        rw [hparts] at hnext
        have := h.apart.rel_head? hnext
        simpa [TemplatePart.isLiteral] using this
      exact ⟨t', ht', by rw [hparts', hparts]⟩
    | expression text =>
      exact ⟨t.consExpression text, ofChars_expression hpart ht, by
        rw [ValueTemplate.consExpression, hparts]⟩

/-- The parts of a value are exactly the well-formed parts that are written as that value, and a
value that has parts stands for itself exactly if there is no brace in it. -/
theorem parse_iff_unparse (value : String) (parts : List TemplatePart) :
    ((∃ t, ValueTemplate.parse value = .ok t ∧ t.parts = parts) ↔
        WellFormedParts parts ∧ String.ofList (unparse parts) = value) ∧
      ∀ t, ValueTemplate.parse value = .ok t →
        (t.isStatic = true ↔ '\x7b' ∉ value.toList ∧ '\x7d' ∉ value.toList) := by
  refine ⟨⟨?_, ?_⟩, fun t ht => isStatic_iff_of_ofChars ht⟩
  · rintro ⟨t, ht, rfl⟩
    obtain ⟨hparts, hwritten⟩ := wellFormed_of_ofChars ht
    exact ⟨hparts, by rw [hwritten, String.ofList_toList]⟩
  · rintro ⟨hparts, rfl⟩
    rw [ValueTemplate.parse, String.toList_ofList]
    exact ofChars_unparse hparts

/-- Of three braces in a row, the first two are text and the third one opens an expression; after it,
the first one closes it. -/
theorem parse_expression_in_written_braces :
    ∃ t, ValueTemplate.parse "\x7b\x7b\x7b$x\x7d\x7d\x7d" = .ok t ∧
      t.parts = [.literal ['\x7b'], .expression ['$', 'x'], .literal ['\x7d']] ∧
      t.isStatic = false := by
  have hx : Balanced 0 ['$', 'x'] := by
    rw [balanced_of_ne (by decide) (by decide), balanced_of_ne (by decide) (by decide), balanced_nil]
  have hexpression : IsExpression ['$', 'x'] := ⟨⟨'$', by simp, by decide⟩, by simp, _, rfl, hx⟩
  have hend : WellFormedParts [.literal ['\x7d']] := wellFormedParts_nil.consLiteral (by simp) (by simp)
  have hparts : WellFormedParts [.literal ['\x7b'], .expression ['$', 'x'], .literal ['\x7d']] :=
    (hend.consExpression hexpression).consLiteral (by simp) (by simp [TemplatePart.isLiteral])
  obtain ⟨hiff, hstatic⟩ := parse_iff_unparse "\x7b\x7b\x7b$x\x7d\x7d\x7d" _
  obtain ⟨t, ht, he⟩ := hiff.2 ⟨hparts, rfl⟩
  refine ⟨t, ht, he, Bool.eq_false_iff.2 fun h => ?_⟩
  exact ((hstatic t ht).1 h).1 (by simp)

end XslLowering.Stylesheet
