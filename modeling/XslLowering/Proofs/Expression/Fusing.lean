import XslLowering.Proofs.Expression.Rendering

/-!
# Slashes that fuse

Two slashes that are written side by side are read as one token. `fuse` makes one token of them
beforehand, which changes neither the text (`renderTokens_fuse`) nor the brackets (`nesting_fuse`),
and leaves tokens that stand apart if slashes were all that did not (`apart_fuse`).
-/

namespace XslLowering.Expression

/-- Two slashes that are written side by side. -/
def Fuses (a b : Token) : Prop := a.kind = .slash ∧ b.kind = .slash ∧ b.spaced = false

instance (a b : Token) : Decidable (Fuses a b) := inferInstanceAs (Decidable (_ ∧ _))

/-- The token that a slash becomes with the slash after it. -/
def Token.doubled (t : Token) : Token := { t with kind := .doubleSlash, text := "//" }

/-- Makes one token of two slashes that fuse. -/
def fuse : List Token → List Token
  | [] => []
  | [a] => [a]
  | a :: b :: ts => if Fuses a b then a.doubled :: fuse ts else a :: fuse (b :: ts)

/-- Every token ends where the next one is written, or fuses with it. -/
def NearlyApart : List Token → Prop
  | [] => True
  | t :: ts =>
    (EndsBefore t.kind t.text.toList (renderAfter t ts) ∨ ∃ next ∈ ts.head?, Fuses t next) ∧
      NearlyApart ts

/-! ## Tokens that can stand before others -/

/-- Only a slash goes on with a slash. -/
theorem goesOn_solidus {kind : TokenKind} (h : kind ≠ .slash) (text : List Char)
    (next : Option Char) : goesOn kind text '/' next = false := by
  have hn : isNameChar '/' = false ∧ isNameStart '/' = false := by decide
  cases kind <;> simp_all [goesOn]

/-- A token that is no word and does not go on with a name goes on with none. -/
theorem goesOn_nameStart {kind : TokenKind} {text : List Char} {c d : Char} {n n' : Option Char}
    (hw : kind.isWordLike = false) (hc : isNameStart c = true) (hd : isNameStart d = true)
    (h : goesOn kind text c n = false) : goesOn kind text d n' = false := by
  have ne {e : Char} (he : isNameStart e = false) : d ≠ e := ne_of_isNameStart hd he
  have hdigit := isDigit_eq_false_of_isNameStart hd
  cases kind with
  | name => cases hw
  | varRef => cases hw
  | numberLiteral => cases hw
  | slash => simp [goesOn, ne (show isNameStart '/' = false by decide)]
  | dot => simp [goesOn, hdigit, ne (show isNameStart '.' = false by decide)]
  | operator =>
    simp [goesOn, ne (show isNameStart '=' = false by decide),
      ne (show isNameStart '|' = false by decide)]
  | unknown =>
    simp only [goesOn, hc, hd, Bool.true_and, Bool.or_eq_false_iff] at h ⊢
    simp [h.2, ne (show isNameStart ':' = false by decide)]
  | _ => rfl

/-- A token can stand before one whose first character it does not go on with. -/
theorem nearlyApart_cons {t next : Token} {ts : List Token} {c : Char} {cs : List Char}
    (hc : next.text.toList = c :: cs) (hg : ∀ n, goesOn t.kind t.text.toList c n = false)
    (h : NearlyApart (next :: ts)) : NearlyApart (t :: next :: ts) := by
  refine ⟨.inl ?_, h⟩
  rw [renderAfter, hc]
  rcases gap_cases t next with hgap | hgap
  · rw [hgap]
    exact hg _
  · rw [hgap]
    exact endsBefore_divider (by decide) ..

theorem nearlyApart_cons_divider {t next : Token} {ts : List Token} {c : Char} {cs : List Char}
    (hc : next.text.toList = c :: cs) (hd : isDivider c = true) (h : NearlyApart (next :: ts)) :
    NearlyApart (t :: next :: ts) :=
  nearlyApart_cons hc (fun _ => goesOn_divider hd ..) h

/-- A token that never goes on can stand before all others. -/
theorem nearlyApart_cons_closed {t : Token} {ts : List Token}
    (hg : ∀ c n, goesOn t.kind t.text.toList c n = false) (h : NearlyApart ts) :
    NearlyApart (t :: ts) := by
  refine ⟨.inl ?_, h⟩
  cases renderAfter t ts with
  | nil => trivial
  | cons c cs => exact hg c _

theorem renderAfter_congr {p q : Token} (h : ∀ t, p.gap t = q.gap t) (ts : List Token) :
    renderAfter p ts = renderAfter q ts := by
  cases ts with
  | nil => rfl
  | cons t ts => rw [renderAfter, renderAfter, h]

theorem renderAfter_spaced (t : Token) (spaced : Bool) (ts : List Token) :
    renderAfter { t with spaced } ts = renderAfter t ts := by
  refine renderAfter_congr (fun u => ?_) ts
  rfl

theorem nearlyApart_spaced {t : Token} {ts : List Token} (h : NearlyApart (t :: ts))
    (spaced : Bool) : NearlyApart ({ t with spaced } :: ts) := by
  rw [NearlyApart, renderAfter_spaced]
  exact h

/-! ## The text -/

theorem Token.HasText.text_slash {t : Token} (h : t.HasText) (hk : t.kind = .slash) :
    t.text = "/" := by
  rw [Token.HasText, hk] at h
  generalize hc : t.text.toList = text at h
  cases h with
  | fixed hm =>
    have : text = ['/'] := by simpa [fixedTexts] using hm
    rw [← String.ofList_toList (s := t.text), hc, this]

theorem Token.hasText_doubled (t : Token) : t.doubled.HasText := by
  have h : TokenText .doubleSlash ['/', '/'] := .fixed (by decide)
  simpa [Token.HasText, doubled] using h

theorem gap_before {p t : Token} (h : t.kind.isWordLike = false) :
    p.gap t = if t.spaced then [' '] else [] := by
  simp [Token.gap, h]

theorem gap_after {p t : Token} (h : p.kind.isWordLike = false) :
    p.gap t = if t.spaced then [' '] else [] := by
  simp [Token.gap, h]

theorem not_wordLike_of_gap {p t : Token} (h : p.gap t = []) (ht : t.offset = none) :
    t.spaced = false ∧ (p.kind.isWordLike = false ∨ t.kind.isWordLike = false) := by
  cases hp : p.kind.isWordLike <;> cases hk : t.kind.isWordLike <;>
    simp_all [Token.gap, Token.isSynthetic]

/-- Slashes that fuse are written as the one token that they make. -/
theorem text_append_renderAfter_of_fuses {a b : Token} (hf : Fuses a b) (ha : a.HasText)
    (hb : b.HasText) (ts : List Token) :
    a.text.toList ++ renderAfter a (b :: ts) = a.doubled.text.toList ++ renderAfter a.doubled ts := by
  obtain ⟨hka, hkb, hs⟩ := hf
  have hab : a.gap b = [] := by
    rw [gap_before (by rw [hkb]; rfl), hs]
    rfl
  have hrest : renderAfter b ts = renderAfter a.doubled ts :=
    renderAfter_congr (fun t => by rw [gap_after (by rw [hkb]; rfl), gap_after rfl]) ts
  simp [renderAfter, hab, hrest, ha.text_slash hka, hb.text_slash hkb, Token.doubled]

theorem renderAfter_fuse {ts : List Token} (h : ∀ t ∈ ts, t.HasText) (p : Token) :
    renderAfter p (fuse ts) = renderAfter p ts := by
  induction ts using fuse.induct generalizing p with
  | case1 => rfl
  | case2 a => rfl
  | case3 a b ts hf ih =>
    simp only [List.forall_mem_cons] at h
    obtain ⟨ha, hb, hts⟩ := h
    have hg : p.gap a.doubled = p.gap a := by
      rw [gap_before rfl, gap_before (by rw [hf.1]; rfl)]
      rfl
    rw [fuse, if_pos hf, renderAfter, hg, ih hts, List.append_assoc,
      ← text_append_renderAfter_of_fuses hf ha hb, ← List.append_assoc]
    rfl
  | case4 a b ts hf ih =>
    rw [fuse, if_neg hf, renderAfter, ih (List.forall_mem_cons.1 h).2]
    rfl

theorem renderTokens_fuse {ts : List Token} (h : ∀ t ∈ ts, t.HasText) :
    renderTokens (fuse ts) = renderTokens ts := by
  match ts with
  | [] => rfl
  | [a] => rfl
  | a :: b :: ts =>
    simp only [List.forall_mem_cons] at h
    obtain ⟨ha, hb, hts⟩ := h
    rw [fuse]
    split
    · rename_i hf
      rw [renderTokens, renderAfter_fuse hts, ← text_append_renderAfter_of_fuses hf ha hb,
        renderTokens]
    · rw [renderTokens, renderAfter_fuse (List.forall_mem_cons.2 ⟨hb, hts⟩), renderTokens]

/-! ## The tokens -/

theorem hasText_fuse {ts : List Token} (h : ∀ t ∈ ts, t.HasText) : ∀ t ∈ fuse ts, t.HasText := by
  induction ts using fuse.induct with
  | case1 => exact h
  | case2 a => exact h
  | case3 a b ts hf ih =>
    simp only [List.forall_mem_cons] at h
    rw [fuse, if_pos hf, List.forall_mem_cons]
    exact ⟨a.hasText_doubled, ih h.2.2⟩
  | case4 a b ts hf ih =>
    rw [List.forall_mem_cons] at h
    rw [fuse, if_neg hf, List.forall_mem_cons]
    exact ⟨h.1, ih h.2⟩

/-- Once slashes are fused, tokens that nearly stand apart do. -/
theorem apart_fuse {ts : List Token} (h : ∀ t ∈ ts, t.HasText) (ha : NearlyApart ts) :
    Apart (fuse ts) := by
  induction ts using fuse.induct with
  | case1 => trivial
  | case2 a => exact ⟨trivial, trivial⟩
  | case3 a b ts hf ih =>
    simp only [List.forall_mem_cons] at h
    rw [fuse, if_pos hf]
    refine ⟨?_, ih h.2.2 ha.2.2⟩
    cases renderAfter a.doubled (fuse ts) with
    | nil => trivial
    | cons c cs => rfl
  | case4 a b ts hf ih =>
    rw [List.forall_mem_cons] at h
    rw [fuse, if_neg hf]
    refine ⟨?_, ih h.2 ha.2⟩
    rw [renderAfter_fuse h.2]
    rcases ha.1 with he | ⟨next, hn, hfuse⟩
    · exact he
    · cases hn
      exact absurd hfuse hf

theorem nesting_fuse (ts : List Token) (opened : List Char) :
    nesting opened (fuse ts) = nesting opened ts := by
  induction ts using fuse.induct generalizing opened with
  | case1 => rfl
  | case2 a => rfl
  | case3 a b ts hf ih =>
    have hnest : nest opened .slash = some opened := rfl
    rw [fuse, if_pos hf, nesting_cons, nesting_cons, hf.1, hnest, Option.bind_some, nesting_cons,
      hf.2.1, hnest]
    exact ih opened
  | case4 a b ts hf ih =>
    rw [fuse, if_neg hf, nesting_cons, nesting_cons]
    cases nest opened a.kind with
    | none => rfl
    | some opened => exact ih opened

theorem fuse_of_isChain {ts : List Token} (h : ts.IsChain fun a b => ¬Fuses a b) : fuse ts = ts := by
  induction ts using fuse.induct with
  | case1 => rfl
  | case2 a => rfl
  | case3 a b ts hf ih => exact absurd hf (List.isChain_cons_cons.1 h).1
  | case4 a b ts hf ih => rw [fuse, if_neg hf, ih (List.isChain_cons_cons.1 h).2]

/-- Every two slashes that fuse make the list shorter. -/
theorem length_fuse_le (ts : List Token) : (fuse ts).length ≤ ts.length := by
  induction ts using fuse.induct with
  | case1 => exact Nat.le_refl _
  | case2 a => exact Nat.le_refl _
  | case3 a b ts hf ih =>
    rw [fuse, if_pos hf]
    simp only [List.length_cons]
    omega
  | case4 a b ts hf ih =>
    rw [fuse, if_neg hf]
    exact Nat.succ_le_succ ih

theorem length_fuse_lt {ts : List Token} (h : ¬ts.IsChain fun a b => ¬Fuses a b) :
    (fuse ts).length < ts.length := by
  induction ts using fuse.induct with
  | case1 => exact absurd .nil h
  | case2 a => exact absurd (.singleton a) h
  | case3 a b ts hf ih =>
    have := length_fuse_le ts
    rw [fuse, if_pos hf]
    simp only [List.length_cons]
    omega
  | case4 a b ts hf ih =>
    rw [fuse, if_neg hf]
    exact Nat.succ_lt_succ (ih fun hc => h (List.isChain_cons_cons.2 ⟨hf, hc⟩))

end XslLowering.Expression
