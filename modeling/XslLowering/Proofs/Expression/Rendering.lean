import Mathlib.Data.List.TakeWhile
import XslLowering.Expression.Stream
import XslLowering.Proofs.Expression.TokenText

/-!
# Reading what was written

Tokens that are written one after the other are read again as they were if each of them ends where
the next one is written (`Apart`):

* `apart_of_scan`: the tokens of a text stand apart when they are written with normalized blanks;
* `scan_renderTokens`: tokens that stand apart are read again as `reread` says, with the same kinds
  and texts, and writing those gives the same text;
* `tokenize_eq_ok_iff`: an expression is accepted if its tokens can be read and its brackets are
  well nested (`nesting`).
-/

namespace XslLowering.Expression

open Text

/-! ## What no token goes on with -/

/-- A character that no token goes on with. -/
def isDivider (c : Char) : Bool :=
  isSpace c || isQuote c || [',', '(', ')', '[', ']', '$', '@', '{', '}'].contains c

theorem isDivider_classes {c : Char} (h : isDivider c = true) :
    isNameChar c = false ∧ isNameStart c = false ∧ c.isDigit = false ∧
      c ∉ [':', '.', '/', '=', '|', '*'] := by
  simp only [isDivider, isSpace, isQuote, List.contains_eq_mem, List.mem_cons, List.not_mem_nil,
    or_false, Bool.or_eq_true, beq_iff_eq, decide_eq_true_eq] at h
  rcases h with ((((rfl | rfl) | rfl) | rfl) | rfl | rfl) | rfl | rfl | rfl | rfl | rfl | rfl | rfl |
    rfl | rfl <;> decide

theorem goesOn_divider {c : Char} (h : isDivider c = true) (kind : TokenKind) (text : List Char)
    (next : Option Char) : goesOn kind text c next = false := by
  obtain ⟨h₁, h₂, h₃, h₄⟩ := isDivider_classes h
  simp only [List.mem_cons, List.not_mem_nil, or_false, not_or] at h₄
  cases kind <;> simp [goesOn, h₁, h₂, h₃, h₄]

theorem endsBefore_divider {c : Char} (h : isDivider c = true) (kind : TokenKind)
    (text cs : List Char) : EndsBefore kind text (c :: cs) :=
  goesOn_divider h kind text _

/-! ## What the next text shows of itself -/

/-- A character that can follow the colon of a qualified name. -/
def startsLocalName (c : Char) : Bool := isNameStart c || c == '*'

/-- The text `ds` can go on a qualified name after its colon only if `cs` can. -/
def LeadsAs (cs ds : List Char) : Prop :=
  ds.head?.any startsLocalName = true → cs.head?.any startsLocalName = true

theorem goesOn_next {kind : TokenKind} {text : List Char} {c : Char} {next next' : Option Char}
    (h : goesOn kind text c next = false)
    (hn : next'.any startsLocalName = true → next.any startsLocalName = true) :
    goesOn kind text c next' = false := by
  have he (o : Option Char) :
      (o.any fun d => isNameStart d || d == '*') = o.any startsLocalName := rfl
  cases hl : next'.any startsLocalName <;> cases kind <;> simp_all [goesOn]

/-- A token that ends before a text ends before every text that starts alike. -/
theorem endsBefore_append {kind : TokenKind} {text lead cs ds : List Char}
    (h : EndsBefore kind text (lead ++ cs)) (hl : lead ≠ []) (hs : LeadsAs cs ds) :
    EndsBefore kind text (lead ++ ds) := by
  obtain ⟨c, lead, rfl⟩ := List.exists_cons_of_ne_nil hl
  cases lead with
  | nil => exact goesOn_next (show goesOn kind text c cs.head? = false from h) hs
  | cons d lead => exact h

theorem leadsAs_nil (cs : List Char) : LeadsAs cs [] := by
  simp [LeadsAs]

theorem leadsAs_of_head {d : Char} (h : startsLocalName d = false) (cs ds : List Char) :
    LeadsAs cs (d :: ds) := by
  simp [LeadsAs, h]

theorem leadsAs_divider {d : Char} (h : isDivider d = true) (cs ds : List Char) :
    LeadsAs cs (d :: ds) := by
  obtain ⟨-, hstart, -, hstar⟩ := isDivider_classes h
  simp only [List.mem_cons, not_or] at hstar
  exact leadsAs_of_head (by simp [startsLocalName, hstart, hstar]) cs ds

theorem leadsAs_append {lead : List Char} (h : lead ≠ []) (cs ds : List Char) :
    LeadsAs (lead ++ cs) (lead ++ ds) := by
  obtain ⟨c, lead, rfl⟩ := List.exists_cons_of_ne_nil h
  simp [LeadsAs]

/-! ## Tokens that stand apart -/

/-- The text of a token is one of its kind. -/
def Token.HasText (t : Token) : Prop := TokenText t.kind t.text.toList

/-- Every token ends where the next one is written. -/
def Apart : List Token → Prop
  | [] => True
  | t :: ts => EndsBefore t.kind t.text.toList (renderAfter t ts) ∧ Apart ts

theorem Token.HasText.ne_nil {t : Token} (h : t.HasText) : t.text.toList ≠ [] := by
  intro he
  obtain ⟨c, cs, hc, -⟩ := lexeme?_of_tokenText h (show EndsBefore t.kind t.text.toList [] from trivial)
  simp [he] at hc

theorem qualifiedName_of_hasText {t : Token} (h : t.HasText) (hk : t.kind = .name) :
    QualifiedName t.text.toList := by
  rw [Token.HasText, hk] at h
  generalize t.text.toList = text at h
  cases h with
  | name hq => exact hq
  | fixed hm => simp [fixedTexts] at hm

theorem exists_quote_of_hasText {t : Token} (h : t.HasText) (hk : t.kind = .stringLiteral) :
    ∃ quote content, isQuote quote = true ∧ quote ∉ content ∧
      t.text.toList = quote :: (content ++ [quote]) := by
  rw [Token.HasText, hk] at h
  generalize t.text.toList = text at h
  cases h with
  | literal hq hc => exact ⟨_, _, hq, hc, rfl⟩
  | fixed hm => simp [fixedTexts] at hm

theorem hasText_synthetic {kind : TokenKind} {c : Char} {cs : List Char} (hs : isSpace c = false)
    (hl : lexeme? c cs = some ⟨kind, c :: cs, []⟩) :
    (Token.synthetic kind (String.ofList (c :: cs))).HasText := by
  have h := (tokenText_of_lexeme? hs hl).1
  simpa [Token.HasText, Token.synthetic] using h

theorem gap_of_offset {p t : Token} (hp : p.offset.isSome) (ht : t.offset.isSome) :
    p.gap t = if t.spaced then [' '] else [] := by
  obtain ⟨a, ha⟩ := Option.isSome_iff_exists.1 hp
  obtain ⟨b, hb⟩ := Option.isSome_iff_exists.1 ht
  simp [Token.gap, Token.isSynthetic, ha, hb]

/-! ## Reading -/

theorem scan_of_blank {cs : List Char} (h : cs.dropWhile isSpace = []) (offset : Nat) :
    scan offset cs = ([], none) := by
  rw [scan]
  split
  · rfl
  · rename_i hd
    rw [h] at hd
    cases hd

theorem scan_of_lexeme? {offset : Nat} {blanks cs : List Char} {c : Char} {l : Lexeme}
    (hb : ∀ b ∈ blanks, isSpace b = true) (hc : isSpace c = false) (hl : lexeme? c cs = some l) :
    scan offset (blanks ++ c :: cs) =
      (⟨l.kind, String.ofList l.text, some (offset + byteLength blanks), !blanks.isEmpty⟩ ::
        (scan (offset + byteLength blanks + byteLength l.text) l.rest).1,
        (scan (offset + byteLength blanks + byteLength l.text) l.rest).2) := by
  have hr : ∀ d ∈ (c :: cs).head?, isSpace d = false := by simpa using hc
  have hd : (blanks ++ c :: cs).dropWhile isSpace = c :: cs := dropWhile_append hb hr
  have ht : (blanks ++ c :: cs).takeWhile isSpace = blanks := takeWhile_append hb hr
  rw [scan]
  split
  · rename_i h
    rw [hd] at h
    cases h
  · rename_i d ds h
    rw [hd] at h
    cases h
    simp only [ht]
    split
    · rename_i h
      rw [hl] at h
      cases h
    · rename_i l' h
      rw [hl] at h
      cases h
      rfl

/-- Only a literal that is not closed cannot be split off. -/
theorem lexeme?_eq_none {c : Char} {cs : List Char} (h : lexeme? c cs = none) :
    isQuote c = true ∧ c ∉ cs := by
  unfold lexeme? at h
  split at h
  · rename_i hq
    unfold literal? at h
    split at h
    · rename_i hd
      refine ⟨hq, fun hm => ?_⟩
      simpa using List.dropWhile_eq_nil_iff.1 hd c hm
    · cases h
  · split at h
    · cases h
    · split at h
      · cases h
      · split at h
        · split at h <;> cases h
        · cases h

/-- What a text consists of that starts with no token. -/
theorem scan_eq_nil {offset : Nat} {cs : List Char} {fault : Option Nat}
    (h : scan offset cs = ([], fault)) :
    (fault = none ∧ ∀ c ∈ cs, isSpace c = true) ∨
      ∃ blanks quote rest, cs = blanks ++ quote :: rest ∧ (∀ b ∈ blanks, isSpace b = true) ∧
        isQuote quote = true ∧ quote ∉ rest ∧ fault = some (offset + byteLength blanks) := by
  rw [scan] at h
  split at h
  · rename_i hd
    cases h
    exact .inl ⟨rfl, List.dropWhile_eq_nil_iff.1 hd⟩
  rename_i c rest hd
  split at h
  · rename_i hl
    cases h
    obtain ⟨hq, hm⟩ := lexeme?_eq_none hl
    refine .inr ⟨cs.takeWhile isSpace, c, rest, ?_,
      fun b hb => List.all_eq_true.1 List.all_takeWhile b hb, hq, hm, rfl⟩
    rw [← hd, List.takeWhile_append_dropWhile]
  · cases h

theorem isSpace_of_scan_nil {offset : Nat} {cs : List Char} (h : scan offset cs = ([], none)) :
    ∀ c ∈ cs, isSpace c = true := by
  rcases scan_eq_nil h with ⟨-, hblank⟩ | ⟨_, _, _, -, -, -, -, hfault⟩
  · exact hblank
  · cases hfault

/-- What a text consists of that starts with a token. -/
theorem scan_eq_cons {offset : Nat} {cs : List Char} {t : Token} {ts : List Token}
    {fault : Option Nat} (h : scan offset cs = (t :: ts, fault)) :
    ∃ blanks rest, cs = blanks ++ (t.text.toList ++ rest) ∧ (∀ b ∈ blanks, isSpace b = true) ∧
      t.offset = some (offset + byteLength blanks) ∧ t.spaced = !blanks.isEmpty ∧ t.HasText ∧
      EndsBefore t.kind t.text.toList rest ∧
      scan (offset + byteLength blanks + byteLength t.text.toList) rest = (ts, fault) := by
  rw [scan] at h
  split at h
  · cases h
  rename_i c ds hd
  split at h
  · cases h
  rename_i l hl
  obtain ⟨happ, -⟩ := lexeme?_append hl
  have hc : isSpace c = false := head_dropWhile (p := isSpace) (l := cs) (by rw [hd]; rfl)
  obtain ⟨htext, hends⟩ := tokenText_of_lexeme? hc hl
  simp only [Prod.mk.injEq, List.cons.injEq] at h
  obtain ⟨⟨rfl, hts⟩, hf⟩ := h
  refine ⟨cs.takeWhile isSpace, l.rest, ?_, fun b hb => List.all_eq_true.1 List.all_takeWhile b hb,
    rfl, rfl, ?_, ?_, ?_⟩
  · rw [String.toList_ofList, happ, ← hd, List.takeWhile_append_dropWhile]
  · rwa [Token.HasText, String.toList_ofList]
  · rwa [String.toList_ofList]
  · rw [String.toList_ofList]
    exact Prod.ext hts hf

/-- Blanks before a token end where it starts. -/
theorem dropWhile_blanks {blanks rest : List Char} {t : Token} (h : ∀ b ∈ blanks, isSpace b = true)
    (ht : t.HasText) (he : EndsBefore t.kind t.text.toList rest) :
    (blanks ++ (t.text.toList ++ rest)).dropWhile isSpace = t.text.toList ++ rest := by
  obtain ⟨c, ds, hcs, hc, -⟩ := lexeme?_of_tokenText ht he
  rw [hcs]
  exact dropWhile_append h (by simpa using hc)

/-- What is written after a token of a text is, up to blanks, what stood there. -/
theorem renderAfter_of_scan {offset : Nat} {cs : List Char} {t p : Token} {ts : List Token}
    (h : scan offset cs = (t :: ts, none)) (hp : p.offset.isSome) :
    (∃ rest, renderAfter p (t :: ts) = ' ' :: rest) ∨
      ∃ offset' rest, cs = t.text.toList ++ rest ∧ scan offset' rest = (ts, none) ∧
        renderAfter p (t :: ts) = t.text.toList ++ renderAfter t ts := by
  obtain ⟨blanks, rest, hcs, -, ho, hs, -, -, hrest⟩ := scan_eq_cons h
  have hg : p.gap t = if t.spaced then [' '] else [] := gap_of_offset hp (by simp [ho])
  cases blanks with
  | nil =>
    refine .inr ⟨_, rest, hcs, hrest, ?_⟩
    simp [renderAfter, hg, hs]
  | cons b bs =>
    refine .inl ⟨t.text.toList ++ renderAfter t ts, ?_⟩
    simp [renderAfter, hg, hs]

theorem leadsAs_of_scan {offset : Nat} {cs : List Char} {p : Token} {ts : List Token}
    (h : scan offset cs = (ts, none)) (hp : p.offset.isSome) : LeadsAs cs (renderAfter p ts) := by
  cases ts with
  | nil => exact leadsAs_nil cs
  | cons t ts =>
    rcases renderAfter_of_scan h hp with ⟨rest, hr⟩ | ⟨_, rest, hcs, -, hr⟩
    · rw [hr]
      exact leadsAs_of_head (d := ' ') (by decide) cs rest
    · obtain ⟨_, _, -, -, -, -, ht, -⟩ := scan_eq_cons h
      rw [hr, hcs]
      exact leadsAs_append ht.ne_nil rest (renderAfter t ts)

theorem endsBefore_of_scan {offset : Nat} {cs text : List Char} {p : Token} {ts : List Token}
    {kind : TokenKind} (h : scan offset cs = (ts, none)) (hp : p.offset.isSome)
    (he : EndsBefore kind text cs) : EndsBefore kind text (renderAfter p ts) := by
  cases ts with
  | nil => trivial
  | cons t ts =>
    obtain ⟨_, _, -, -, ho, -, ht, -⟩ := scan_eq_cons h
    rcases renderAfter_of_scan h hp with ⟨rest, hr⟩ | ⟨_, rest, hcs, hrest, hr⟩
    · rw [hr]
      exact endsBefore_divider (by decide) ..
    · rw [hr]
      rw [hcs] at he
      exact endsBefore_append he ht.ne_nil (leadsAs_of_scan hrest (by simp [ho]))

/-- The tokens of a text stand apart. -/
theorem apart_of_scan {offset : Nat} {cs : List Char} {ts : List Token}
    (h : scan offset cs = (ts, none)) : Apart ts := by
  induction ts generalizing offset cs with
  | nil => trivial
  | cons t ts ih =>
    obtain ⟨_, rest, -, -, ho, -, -, he, hrest⟩ := scan_eq_cons h
    exact ⟨endsBefore_of_scan hrest (by simp [ho]) he, ih hrest⟩

theorem hasText_of_scan {offset : Nat} {cs : List Char} {ts : List Token}
    (h : scan offset cs = (ts, none)) : ∀ t ∈ ts, t.HasText ∧ t.offset.isSome := by
  induction ts generalizing offset cs with
  | nil => simp
  | cons t ts ih =>
    obtain ⟨_, rest, -, -, ho, -, ht, -, hrest⟩ := scan_eq_cons h
    exact List.forall_mem_cons.2 ⟨⟨ht, by simp [ho]⟩, ih hrest⟩

/-! ## Reading again -/

/-- The tokens that are read at `offset` when `ts` were written after `p`. -/
def rereadAfter (p : Token) (offset : Nat) : List Token → List Token
  | [] => []
  | t :: ts =>
    let start := offset + byteLength (p.gap t)
    ⟨t.kind, t.text, some start, !(p.gap t).isEmpty⟩ ::
      rereadAfter t (start + byteLength t.text.toList) ts

/-- The tokens that are read when `ts` were written as an expression. -/
def reread : List Token → List Token
  | [] => []
  | t :: ts => ⟨t.kind, t.text, some 0, false⟩ :: rereadAfter t (byteLength t.text.toList) ts

theorem gap_cases (p t : Token) : p.gap t = [] ∨ p.gap t = [' '] := by
  simp only [Token.gap]
  split
  · exact .inr rfl
  · exact .inl rfl

/-- Tokens still stand apart if something is written after them that starts with a divider. -/
theorem apart_append {ts us : List Token} {d : Token} {c : Char} {cs : List Char}
    (hd : d.text.toList = c :: cs) (hc : isDivider c = true) (ht : ∀ t ∈ ts, t.HasText)
    (h : Apart ts) (hu : Apart (d :: us)) : Apart (ts ++ d :: us) := by
  have hlead (p : Token) : ∃ e es, renderAfter p (d :: us) = e :: es ∧ isDivider e = true := by
    rw [renderAfter, hd]
    rcases gap_cases p d with hg | hg <;> rw [hg]
    · exact ⟨c, _, rfl, hc⟩
    · exact ⟨' ', _, rfl, by decide⟩
  have hleads (p : Token) (ts : List Token) (ht : ∀ t ∈ ts, t.HasText) :
      LeadsAs (renderAfter p ts) (renderAfter p (ts ++ d :: us)) := by
    cases ts with
    | nil =>
      obtain ⟨e, es, he, hdivider⟩ := hlead p
      rw [List.nil_append, he]
      exact leadsAs_divider hdivider _ es
    | cons t ts =>
      rw [List.cons_append, renderAfter, renderAfter]
      exact leadsAs_append (by simp [(List.forall_mem_cons.1 ht).1.ne_nil]) _ _
  induction ts with
  | nil => exact hu
  | cons t ts ih =>
    rw [List.forall_mem_cons] at ht
    rw [List.cons_append, Apart]
    refine ⟨?_, ih ht.2 h.2⟩
    cases ts with
    | nil =>
      obtain ⟨e, es, he, hdivider⟩ := hlead t
      rw [List.nil_append, he]
      exact endsBefore_divider hdivider ..
    | cons next ts =>
      have hends := h.1
      rw [List.forall_mem_cons] at ht
      rw [renderAfter] at hends
      rw [List.cons_append, renderAfter]
      exact endsBefore_append hends (by simp [ht.2.1.ne_nil]) (hleads next ts ht.2.2)

/-- A written token is read again where it was written. -/
theorem scan_token {t : Token} {rest blanks : List Char} (ht : t.HasText)
    (he : EndsBefore t.kind t.text.toList rest) (hb : ∀ b ∈ blanks, isSpace b = true)
    (offset : Nat) :
    scan offset (blanks ++ (t.text.toList ++ rest)) =
      (⟨t.kind, t.text, some (offset + byteLength blanks), !blanks.isEmpty⟩ ::
        (scan (offset + byteLength blanks + byteLength t.text.toList) rest).1,
        (scan (offset + byteLength blanks + byteLength t.text.toList) rest).2) := by
  obtain ⟨c, cs, hcs, hc, hl⟩ := lexeme?_of_tokenText ht he
  rw [hcs, scan_of_lexeme? hb hc hl, String.ofList_toList]

theorem scan_renderAfter {p : Token} {ts : List Token} (ht : ∀ t ∈ ts, t.HasText)
    (ha : Apart ts) (offset : Nat) :
    scan offset (renderAfter p ts) = (rereadAfter p offset ts, none) := by
  induction ts generalizing p offset with
  | nil => exact scan_of_blank rfl offset
  | cons t ts ih =>
    obtain ⟨ht, hts⟩ := List.forall_mem_cons.1 ht
    obtain ⟨he, ha⟩ := ha
    have hb : ∀ b ∈ p.gap t, isSpace b = true := by
      rcases gap_cases p t with h | h <;> simp [h, isSpace]
    rw [renderAfter, List.append_assoc, scan_token ht he hb, ih hts ha, rereadAfter]

/-- Tokens that stand apart are read again when they have been written. -/
theorem scan_renderTokens {ts : List Token} (ht : ∀ t ∈ ts, t.HasText) (ha : Apart ts) :
    scan 0 (renderTokens ts) = (reread ts, none) := by
  cases ts with
  | nil => exact scan_of_blank rfl 0
  | cons t ts =>
    obtain ⟨ht, hts⟩ := List.forall_mem_cons.1 ht
    obtain ⟨he, ha⟩ := ha
    have hb : ∀ b ∈ ([] : List Char), isSpace b = true := by simp
    have h := scan_token ht he hb 0
    simp only [List.nil_append, byteLength_nil, Nat.add_zero, Nat.zero_add] at h
    rw [renderTokens, h, scan_renderAfter hts ha, reread]
    rfl

/-- The kind and the text of a token. -/
def Token.key (t : Token) : TokenKind × String := (t.kind, t.text)

/-- A character that is a token of some kind wherever it stands is one of no other kind. -/
theorem key_eq_of_hasText {t : Token} (h : t.HasText) {c : Char} {kind : TokenKind}
    (hl : lexeme? c [] = some ⟨kind, [c], []⟩) (hc : t.text.toList = [c]) :
    t.key = (kind, String.ofList [c]) := by
  obtain ⟨d, ds, hd, -, hlexeme⟩ :=
    lexeme?_of_tokenText h (show EndsBefore t.kind t.text.toList [] from trivial)
  rw [hc, List.append_nil] at hd
  rw [hc] at hlexeme
  cases hd
  have hk : kind = t.kind := congrArg Lexeme.kind (Option.some.inj (hl.symm.trans hlexeme))
  rw [Token.key, hk, ← hc, String.ofList_toList]

theorem map_key_rereadAfter (p : Token) (offset : Nat) (ts : List Token) :
    (rereadAfter p offset ts).map Token.key = ts.map Token.key := by
  induction ts generalizing p offset with
  | nil => rfl
  | cons t ts ih => simp [rereadAfter, ih, Token.key]

@[simp] theorem map_key_reread (ts : List Token) :
    (reread ts).map Token.key = ts.map Token.key := by
  cases ts with
  | nil => rfl
  | cons t ts => simp [reread, map_key_rereadAfter, Token.key]

theorem renderAfter_rereadAfter {q : Token} (hq : q.offset.isSome) (p : Token) (offset : Nat)
    (ts : List Token) : renderAfter q (rereadAfter p offset ts) = renderAfter p ts := by
  induction ts generalizing p q offset with
  | nil => rfl
  | cons t ts ih =>
    have hg : q.gap ⟨t.kind, t.text, some (offset + byteLength (p.gap t)), !(p.gap t).isEmpty⟩ =
        p.gap t := by
      rw [gap_of_offset hq rfl]
      rcases gap_cases p t with h | h <;> simp [h]
    simp only [rereadAfter, renderAfter, hg]
    rw [ih rfl]

/-- Writing what was read again gives the same text. -/
@[simp] theorem renderTokens_reread (ts : List Token) : renderTokens (reread ts) = renderTokens ts := by
  cases ts with
  | nil => rfl
  | cons t ts => rw [reread, renderTokens, renderTokens, renderAfter_rereadAfter rfl]

/-! ## Brackets -/

/-- The brackets among the tokens: which character they are, and whether they open or close. -/
theorem bracket?_eq_some {t : Token} {b : Bracket} (h : t.HasText) (hb : t.bracket? = some b) :
    t.text.toList = [b.delimiter] ∧ b.offset = t.offset.getD 0 ∧
      (b.delimiter ∈ ['(', '['] ∨ b.delimiter ∈ [')', ']']) := by
  have hfixed (hk : t.kind ∈ [.leftParen, .rightParen, .leftBracket, .rightBracket]) :
      (t.kind, t.text.toList) ∈ fixedTexts := by
    rw [Token.HasText] at h
    generalize t.kind = kind, t.text.toList = text at h hk ⊢
    cases h with
    | fixed hm => exact hm
    | _ => simp at hk
  unfold Token.bracket? at hb
  split at hb <;> cases hb <;> rename_i hk <;> simp [hk, fixedTexts] at hfixed <;> simp [hfixed]

/-- The brackets that are open after a token, the innermost first; none if it closes a bracket that
is not the innermost. -/
def nest (opened : List Char) (kind : TokenKind) : Option (List Char) :=
  match kind, opened with
  | .leftParen, opened => some ('(' :: opened)
  | .leftBracket, opened => some ('[' :: opened)
  | .rightParen, '(' :: outer => some outer
  | .rightBracket, '[' :: outer => some outer
  | .rightParen, _ => none
  | .rightBracket, _ => none
  | _, opened => some opened

/-- The brackets that are open after some tokens. -/
def nesting (opened : List Char) (ts : List Token) : Option (List Char) :=
  ts.foldlM (fun opened t => nest opened t.kind) opened

@[simp] theorem nesting_nil (opened : List Char) : nesting opened [] = some opened := rfl

theorem nesting_cons (opened : List Char) (t : Token) (ts : List Token) :
    nesting opened (t :: ts) = (nest opened t.kind).bind (nesting · ts) := rfl

theorem nesting_append (opened : List Char) (us vs : List Token) :
    nesting opened (us ++ vs) = (nesting opened us).bind (nesting · vs) :=
  List.foldlM_append ..

/-- Brackets that were open before stay open. -/
theorem nesting_frame {opened opened' : List Char} {ts : List Token}
    (h : nesting opened ts = some opened') (outer : List Char) :
    nesting (opened ++ outer) ts = some (opened' ++ outer) := by
  have hnest {opened opened' : List Char} {kind : TokenKind} (h : nest opened kind = some opened') :
      nest (opened ++ outer) kind = some (opened' ++ outer) := by
    unfold nest at h
    split at h <;> cases h <;> first | rfl | (unfold nest; split <;> simp_all)
  induction ts generalizing opened with
  | nil =>
    cases h
    rfl
  | cons t ts ih =>
    rw [nesting_cons] at h ⊢
    obtain ⟨middle, hm, h⟩ := Option.bind_eq_some_iff.1 h
    rw [hnest hm, Option.bind_some, ih h]

/-- Brackets are checked by their kinds alone. -/
theorem nesting_congr {us vs : List Token} (h : us.map Token.key = vs.map Token.key)
    (opened : List Char) : nesting opened us = nesting opened vs := by
  induction us generalizing vs opened with
  | nil =>
    cases vs with
    | nil => rfl
    | cons v vs => cases h
  | cons u us ih =>
    cases vs with
    | nil => cases h
    | cons v vs =>
      simp only [List.map_cons, List.cons.injEq, Token.key, Prod.mk.injEq] at h
      rw [nesting_cons, nesting_cons, h.1.1]
      cases nest opened v.kind with
      | none => rfl
      | some opened => exact ih h.2 opened

theorem nest_right {kind : TokenKind} {d : Char} (hk : kind = .rightParen ∧ d = '(' ∨
      kind = .rightBracket ∧ d = '[') (innermost : Char) (outer : List Char) :
    nest (innermost :: outer) kind = if innermost = d then some outer else none := by
  rcases hk with ⟨rfl, rfl⟩ | ⟨rfl, rfl⟩ <;>
  · split
    · rename_i h
      rw [h]
      rfl
    · rename_i h
      unfold nest
      split <;> simp_all

/-- The check of brackets finds what `nesting` does. -/
theorem nesting_eq_closeBrackets (opened : List Bracket) (ts : List Token) :
    nesting (opened.map (·.delimiter)) ts =
      (closeBrackets opened ts).toOption.map (List.map (·.delimiter)) := by
  induction ts generalizing opened with
  | nil => rfl
  | cons t ts ih =>
    have skip (hb : t.bracket? = none)
        (hn : nest (opened.map (·.delimiter)) t.kind = some (opened.map (·.delimiter))) :
        nesting (opened.map (·.delimiter)) (t :: ts) =
          (closeBrackets opened (t :: ts)).toOption.map (List.map (·.delimiter)) := by
      rw [nesting_cons, hn, Option.bind_some, ih, closeBrackets, hb]
    have close (d e : Char) (hb : t.bracket? = some ⟨e, t.offset.getD 0⟩) (ho : opening e = d)
        (he : (e == '(' || e == '[') = false)
        (hk : t.kind = .rightParen ∧ d = '(' ∨ t.kind = .rightBracket ∧ d = '[') :
        nesting (opened.map (·.delimiter)) (t :: ts) =
          (closeBrackets opened (t :: ts)).toOption.map (List.map (·.delimiter)) := by
      rw [nesting_cons, closeBrackets, hb]
      simp only [he, ho]
      cases opened with
      | nil => rcases hk with ⟨hk, -⟩ | ⟨hk, -⟩ <;> rw [hk] <;> rfl
      | cons b outer =>
        rw [List.map_cons, nest_right hk]
        by_cases h : b.delimiter = d
        · simp [h, ih]
        · simp [h]
          rfl
    cases hk : t.kind with
    | leftParen =>
      have hb : t.bracket? = some ⟨'(', t.offset.getD 0⟩ := by simp [Token.bracket?, hk]
      rw [nesting_cons, hk, closeBrackets, hb]
      exact ih (⟨'(', t.offset.getD 0⟩ :: opened)
    | leftBracket =>
      have hb : t.bracket? = some ⟨'[', t.offset.getD 0⟩ := by simp [Token.bracket?, hk]
      rw [nesting_cons, hk, closeBrackets, hb]
      exact ih (⟨'[', t.offset.getD 0⟩ :: opened)
    | rightParen =>
      exact close '(' ')' (by simp [Token.bracket?, hk]) rfl rfl (.inl ⟨hk, rfl⟩)
    | rightBracket =>
      exact close '[' ']' (by simp [Token.bracket?, hk]) rfl rfl (.inr ⟨hk, rfl⟩)
    | _ => exact skip (by simp [Token.bracket?, hk]) (by rw [hk]; rfl)

/-- An expression is accepted if it can be read to its end and its brackets are well nested. -/
theorem tokenize_eq_ok_iff {source : String} {ts : List Token} :
    tokenize source = .ok ts ↔ scan 0 source.toList = (ts, none) ∧ nesting [] ts = some [] := by
  have hn := nesting_eq_closeBrackets [] (scan 0 source.toList).1
  rw [List.map_nil] at hn
  unfold tokenize
  generalize scan 0 source.toList = read at hn
  obtain ⟨tokens, fault⟩ := read
  dsimp only at hn ⊢
  generalize closeBrackets [] tokens = checked at hn ⊢
  cases checked with
  | error b =>
    simp only [reduceCtorEq, false_iff, not_and, Prod.mk.injEq]
    rintro ⟨rfl, -⟩
    simp [hn, Except.toOption]
  | ok opened =>
    cases fault with
    | some offset => simp
    | none =>
      cases opened with
      | nil =>
        simp only [Except.ok.injEq, Prod.mk.injEq, and_true]
        constructor
        · rintro rfl
          exact ⟨rfl, hn⟩
        · exact And.left
      | cons b outer =>
        simp only [reduceCtorEq, false_iff, not_and, Prod.mk.injEq]
        rintro ⟨rfl, -⟩
        simp [hn, Except.toOption]

/-- Tokens that stand apart with well nested brackets are an expression. -/
theorem tokenize_renderTokens {ts : List Token} (ht : ∀ t ∈ ts, t.HasText) (ha : Apart ts)
    (hn : nesting [] ts = some []) :
    tokenize (String.ofList (renderTokens ts)) = .ok (reread ts) := by
  rw [tokenize_eq_ok_iff, String.toList_ofList]
  exact ⟨scan_renderTokens ht ha, (nesting_congr (map_key_reread ts) []).trans hn⟩

end XslLowering.Expression
