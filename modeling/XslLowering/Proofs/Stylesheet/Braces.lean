import XslLowering.Proofs.Stylesheet.Retokenizing
import XslLowering.Stylesheet.ValueTemplate

/-!
# Braces in expressions

A value template ends an expression at the first brace that closes none in it. Braces in literals do
not count, so what counts are the braces among the tokens of the expression (`braces`):

* `closes_iff_braces`: an expression ends at the brace after it exactly if its own braces are
  balanced;
* `braces_of_lowers`: lowering leaves braces as they were.
-/

namespace XslLowering.Stylesheet

open Expression Text ValueTemplate

/-- The number of braces that are open after a token; none if it closes a brace that is not open. -/
def brace (depth : Nat) (key : TokenKind × String) : Option Nat :=
  if key = (.unknown, "\x7b") then some (depth + 1)
  else if key = (.unknown, "\x7d") then
    match depth with
    | 0 => none
    | outer + 1 => some outer
  else some depth

/-- The number of braces that are open after some tokens. -/
def braces (depth : Nat) (ts : List Token) : Option Nat := (ts.map Token.key).foldlM brace depth

theorem braces_cons (depth : Nat) (t : Token) (ts : List Token) :
    braces depth (t :: ts) = (brace depth t.key).bind (braces · ts) := rfl

theorem braces_append (depth : Nat) (ts us : List Token) :
    braces depth (ts ++ us) = (braces depth ts).bind (braces · us) := by
  rw [braces, List.map_append, List.foldlM_append]
  rfl

theorem braces_congr {ts us : List Token} (h : ts.map Token.key = us.map Token.key) (depth : Nat) :
    braces depth ts = braces depth us := by
  rw [braces, braces, h]

theorem brace_of_kind {t : Token} (h : t.kind ≠ .unknown) (depth : Nat) :
    brace depth t.key = some depth := by
  simp [brace, Token.key, h]

theorem braces_cons_of_kind {t : Token} (h : t.kind ≠ .unknown) (depth : Nat) (ts : List Token) :
    braces depth (t :: ts) = braces depth ts := by
  rw [braces_cons, brace_of_kind h, Option.bind_some]

/-- Only tokens of no other kind are braces. -/
theorem braces_of_kinds {ts : List Token} (h : ∀ t ∈ ts, t.kind ≠ .unknown) (depth : Nat) :
    braces depth ts = some depth := by
  induction ts with
  | nil => rfl
  | cons t ts ih =>
    rw [List.forall_mem_cons] at h
    rw [braces_cons_of_kind h.1, ih h.2]

/-! ## The end of an expression -/

/-- The split of a text with `cs` put in front of it. -/
def prepend (cs : List Char) (split : List Char × List Char) : List Char × List Char :=
  (cs ++ split.1, split.2)

theorem prepend_append (cs ds : List Char) : prepend (cs ++ ds) = prepend cs ∘ prepend ds := by
  funext split
  simp [prepend]

/-- A character that is neither a quote nor a brace. -/
def isPlain (c : Char) : Bool := !isQuote c && c != '\x7b' && c != '\x7d'

theorem isPlain_of_isSpace {c : Char} (h : isSpace c = true) : isPlain c = true := by
  rcases isSpace_cases h with rfl | rfl | rfl | rfl <;> decide

theorem splitExpression_plain {cs : List Char} (h : ∀ c ∈ cs, isPlain c = true) (depth : Nat)
    (rest : List Char) :
    splitExpression none depth (cs ++ rest) =
      (splitExpression none depth rest).map (prepend cs) := by
  induction cs with
  | nil => exact Option.map_id'.symm
  | cons c cs ih =>
    rw [List.forall_mem_cons] at h
    obtain ⟨hc, hcs⟩ := h
    simp only [isPlain, isQuote, Bool.and_eq_true, Bool.not_eq_true', bne_iff_ne, ne_eq] at hc
    obtain ⟨⟨hq, ho⟩, hclose⟩ := hc
    simp only [List.cons_append, splitExpression, hq, beq_eq_false_iff_ne.2 ho,
      beq_eq_false_iff_ne.2 hclose, ih hcs, Option.map_map, Bool.false_eq_true, ↓reduceIte]
    rfl

theorem splitExpression_inside {quote : Char} {cs : List Char} (h : quote ∉ cs) (depth : Nat)
    (rest : List Char) :
    splitExpression (some quote) depth (cs ++ rest) =
      (splitExpression (some quote) depth rest).map (prepend cs) := by
  induction cs with
  | nil => exact Option.map_id'.symm
  | cons c cs ih =>
    rw [List.mem_cons, not_or] at h
    have hc : (c == quote) = false := beq_eq_false_iff_ne.2 (Ne.symm h.1)
    simp only [List.cons_append, splitExpression, hc, Bool.false_eq_true, ↓reduceIte, ih h.2,
      Option.map_map]
    rfl

theorem splitExpression_quoted {quote : Char} {content : List Char} (h : quote ∉ content)
    (depth : Nat) (rest : List Char) :
    splitExpression (some quote) depth (content ++ quote :: rest) =
      (splitExpression none depth rest).map (prepend (content ++ [quote])) := by
  rw [splitExpression_inside h, prepend_append, ← Option.map_map]
  simp only [splitExpression, beq_self_eq_true, ↓reduceIte]
  rfl

theorem splitExpression_literal {quote : Char} {content : List Char} (hq : isQuote quote = true)
    (hc : quote ∉ content) (depth : Nat) (rest : List Char) :
    splitExpression none depth (quote :: (content ++ [quote]) ++ rest) =
      (splitExpression none depth rest).map (prepend (quote :: (content ++ [quote]))) := by
  have hquote : (quote == '\x27' || quote == '\x22') = true := hq
  simp only [List.cons_append, List.append_assoc, List.nil_append, splitExpression, hquote, ↓reduceIte,
    splitExpression_quoted hc, Option.map_map]
  rfl

/-- Quotes stand only around literals, and braces are tokens of their own. -/
theorem isPlain_of_tokenText {kind : TokenKind} {text : List Char} (h : TokenText kind text)
    (hk : kind ≠ .stringLiteral) (ho : text ≠ ['\x7b']) (hc : text ≠ ['\x7d']) :
    ∀ c ∈ text, isPlain c = true := by
  rcases chars_of_tokenText h hk with ⟨c, rfl, hs⟩ | hchars
  · simp only [isStray, Bool.and_eq_true, Bool.not_eq_true'] at hs
    simp_all [isPlain]
  · intro c hm
    rcases hchars c hm with hname | hmark
    · simp [isPlain, isQuote, ne_of_isNameChar hname (show isNameChar '\x27' = false by decide),
        ne_of_isNameChar hname (show isNameChar '\x22' = false by decide),
        ne_of_isNameChar hname (show isNameChar '\x7b' = false by decide),
        ne_of_isNameChar hname (show isNameChar '\x7d' = false by decide)]
    · have hmarks : marks.all isPlain = true := by decide
      exact List.all_eq_true.1 hmarks c hmark

/-- How a token is read that stands at the start of what is left of a template. -/
theorem splitExpression_token {t : Token} (ht : t.HasText) (depth : Nat) (rest : List Char) :
    splitExpression none depth (t.text.toList ++ rest) =
      match brace depth t.key with
      | none => some ([], rest)
      | some depth' => (splitExpression none depth' rest).map (prepend t.text.toList) := by
  by_cases hopen : t.text.toList = ['\x7b']
  · rw [key_eq_of_hasText ht rfl hopen, hopen]
    rfl
  by_cases hclose : t.text.toList = ['\x7d']
  · rw [key_eq_of_hasText ht rfl hclose, hclose]
    cases depth <;> rfl
  have hbrace : brace depth t.key = some depth := by
    have ne {c : Char} (h : t.text.toList ≠ [c]) : t.key ≠ (.unknown, String.ofList [c]) :=
      fun he => h (by rw [show t.text = String.ofList [c] from congrArg Prod.snd he,
        String.toList_ofList])
    unfold brace
    rw [if_neg (ne hopen), if_neg (ne hclose)]
  rw [hbrace]
  by_cases hk : t.kind = .stringLiteral
  · obtain ⟨quote, content, hq, hc, he⟩ := exists_quote_of_hasText ht hk
    rw [he]
    exact splitExpression_literal hq hc depth rest
  · exact splitExpression_plain (isPlain_of_tokenText ht hk hopen hclose) depth rest

/-- How an expression is read at the start of what is left of a template: to its end, or up to a
brace that it does not open. -/
theorem splitExpression_scan {offset : Nat} {cs : List Char} {ts : List Token}
    (h : scan offset cs = (ts, none)) (depth : Nat) (rest : List Char) :
    match braces depth ts with
    | none => ∃ inside after, splitExpression none depth (cs ++ rest) = some (inside, after) ∧
      inside.length < cs.length
    | some depth' => splitExpression none depth (cs ++ rest) =
      (splitExpression none depth' rest).map (prepend cs) := by
  induction ts generalizing offset cs depth with
  | nil => exact splitExpression_plain (fun c hc => isPlain_of_isSpace (isSpace_of_scan_nil h c hc)) ..
  | cons t ts ih =>
    obtain ⟨blanks, cs, rfl, hblanks, -, -, ht, -, hscan⟩ := scan_eq_cons h
    rw [List.append_assoc, List.append_assoc,
      splitExpression_plain fun c hc => isPlain_of_isSpace (hblanks c hc),
      splitExpression_token ht, braces_cons]
    cases hbrace : brace depth t.key with
    | none =>
      have := List.length_pos_iff.2 ht.ne_nil
      refine ⟨blanks, cs ++ rest, by simp [prepend], ?_⟩
      simp only [List.length_append]
      omega
    | some depth' =>
      have hrest := ih hscan depth'
      simp only [Option.bind_some]
      cases hbraces : braces depth' ts with
      | none =>
        rw [hbraces] at hrest
        obtain ⟨inside, after, hsplit, hlt⟩ := hrest
        refine ⟨blanks ++ (t.text.toList ++ inside), after, ?_, ?_⟩
        · simp [hsplit, prepend]
        · simp only [List.length_append]
          omega
      | some depth'' =>
        rw [hbraces] at hrest
        simp only [hrest, Option.map_map, prepend_append]

/-- An expression ends at the brace after it exactly if its own braces are balanced. -/
theorem closes_iff_braces {offset : Nat} {cs : List Char} {ts : List Token}
    (h : scan offset cs = (ts, none)) (after : List Char) :
    splitExpression none 0 (cs ++ '\x7d' :: after) = some (cs, after) ↔ braces 0 ts = some 0 := by
  have hsplit := splitExpression_scan h 0 ('\x7d' :: after)
  cases hbraces : braces 0 ts with
  | none =>
    rw [hbraces] at hsplit
    obtain ⟨inside, after', hs, hlt⟩ := hsplit
    rw [hs]
    simp only [Option.some.injEq, Prod.mk.injEq, reduceCtorEq, iff_false, not_and]
    rintro rfl
    exact absurd hlt (Nat.lt_irrefl _)
  | some depth =>
    rw [hbraces] at hsplit
    rw [hsplit]
    cases depth with
    | zero => simp [splitExpression, prepend]
    | succ outer =>
      have hne (split : List Char × List Char) :
          prepend cs ('\x7d' :: split.1, split.2) ≠ (cs, after) := by
        intro he
        have := congrArg (List.length ∘ Prod.fst) he
        simp [prepend] at this
      simp [splitExpression, hne]

/-! ## Braces of lowered expressions -/

theorem braces_withSpacing (depth : Nat) (spaced : Bool) (tokens us : List Token) :
    braces depth (withSpacing spaced tokens ++ us) = braces depth (tokens ++ us) := by
  cases tokens <;> rfl

theorem braces_isGroupingTokens {tokens : List Token} (h : IsGroupingTokens tokens) (depth : Nat) :
    braces depth tokens = some depth := by
  rcases h with rfl | rfl | ⟨id, -, rfl | rfl⟩ <;> rfl

theorem braces_callbackTokens (name : String) (rest : List Token) (depth : Nat) :
    braces depth (callbackTokens name rest) = some depth := by
  obtain ⟨commas, he, hcommas⟩ := callbackTokens_eq name rest
  refine braces_of_kinds ?_ depth
  rw [he]
  rcases hcommas with rfl | rfl <;>
    simp [kind_ofString, Token.ofName, Token.leftParen, Token.comma, Token.synthetic]

/-- Lowering leaves braces as they were. -/
theorem braces_of_lowers {functions : FunctionMap} {ts us : List Token}
    (h : Lowers functions ts us) (depth : Nat) : braces depth us = braces depth ts := by
  induction h generalizing depth with
  | nil => rfl
  | keep _ _ ih =>
    rw [braces_cons, braces_cons]
    simp only [ih]
  | callback hk ho _ ih =>
    rw [braces_withSpacing, braces_append, braces_callbackTokens, Option.bind_some, ih,
      braces_cons_of_kind (by simp [hk]), braces_cons_of_kind (by simp [ho])]
  | grouping hk ho hc hg _ ih =>
    rw [braces_withSpacing, braces_append, braces_isGroupingTokens hg, Option.bind_some, ih,
      braces_cons_of_kind (by simp [hk]), braces_cons_of_kind (by simp [ho]),
      braces_cons_of_kind (by simp [hc])]

theorem braces_fuse (ts : List Token) (depth : Nat) : braces depth (fuse ts) = braces depth ts := by
  induction ts using fuse.induct generalizing depth with
  | case1 => rfl
  | case2 a => rfl
  | case3 a b ts hf ih =>
    rw [fuse, if_pos hf, braces_cons_of_kind (by simp [Token.doubled]), ih,
      braces_cons_of_kind (t := a) (by simp [hf.1]), braces_cons_of_kind (by simp [hf.2.1])]
  | case4 a b ts hf ih =>
    rw [fuse, if_neg hf, braces_cons, braces_cons]
    simp only [ih]

end XslLowering.Stylesheet
