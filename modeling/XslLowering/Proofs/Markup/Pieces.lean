import XslLowering.Markup.Piece

/-!
# Pieces that stand by themselves

Where a piece of markup ends is decided by the piece alone: whatever follows it, the same piece is
found again. This is said scanner by scanner, each time of the text that was scanned and an arbitrary
rest.

* `framed_subsetRest`, `framed_doctypeRest`: the end of a document type declaration;
* `next_cases`: what the first piece of a text can be; pieces that are kept as they were written
  stand alone (`StandsAlone`).
-/

namespace XslLowering.Markup

open Text

/-! ## Sequences -/

theorem exists_of_dropWhile_eq_cons {p : Char → Bool} {mark : Char} {cs after : List Char}
    (h : cs.dropWhile p = mark :: after) :
    ∃ before, cs = before ++ mark :: after ∧ (∀ c ∈ before, p c = true) ∧ p mark = false := by
  refine ⟨cs.takeWhile p, ?_, fun c hc => ?_, ?_⟩
  · rw [← h, List.takeWhile_append_dropWhile]
  · exact List.all_eq_true.1 List.all_takeWhile c hc
  · have := List.head?_dropWhile_not p cs
    rwa [h] at this

theorem dropWhile_eq_self {p : Char → Bool} {cs : List Char}
    (h : ∀ c, cs.head? = some c → p c = false) : cs.dropWhile p = cs :=
  dropWhile_append (List.forall_mem_nil _) h

/-- What a text starts with is seen before a character that the sought sequence does not have. -/
theorem isPrefixOf_append_of_mem {mark : Char} {lead part : List Char} (hp : mark ∈ part)
    (hl : mark ∉ lead) (rest : List Char) :
    lead.isPrefixOf (part ++ rest) = lead.isPrefixOf part := by
  rw [Bool.eq_iff_iff, List.isPrefixOf_iff_prefix, List.isPrefixOf_iff_prefix]
  constructor
  · intro h
    rcases List.prefix_or_prefix_of_prefix h (List.prefix_append part rest) with h | h
    · exact h
    · exact absurd (h.subset hp) hl
  · exact fun h => h.trans (List.prefix_append part rest)

theorem splitAtSeq_frame {seq cs before after : List Char} (hne : seq ≠ [])
    (h : splitAtSeq seq cs = some (before, after)) (rest : List Char) :
    splitAtSeq seq (before ++ seq ++ rest) = some (before, rest) := by
  induction cs generalizing before with
  | nil => simp [splitAtSeq, hne] at h
  | cons c cs ih =>
    have hcs := splitAtSeq_eq_some h
    rw [splitAtSeq] at h
    split at h
    · cases h
      obtain ⟨s, seq, rfl⟩ := List.exists_cons_of_ne_nil hne
      simp [splitAtSeq]
    · rename_i hp
      obtain ⟨⟨b, a⟩, hs, he⟩ := Option.map_eq_some_iff.1 h
      cases he
      -- The sequence does not start here: it would lie within the part that was scanned.
      have hnot : seq.isPrefixOf (c :: b ++ seq ++ rest) = false := by
        rw [← Bool.not_eq_true, List.isPrefixOf_iff_prefix]
        intro hpre
        refine hp (List.isPrefixOf_iff_prefix.2 ?_)
        have hlen : seq.length ≤ (c :: b ++ seq).length := by
          rw [List.length_append]
          omega
        have hpart : seq <+: c :: b ++ seq :=
          List.prefix_of_prefix_length_le hpre (List.prefix_append _ rest) hlen
        rw [hcs]
        exact hpart.trans (List.prefix_append _ after)
      rw [show c :: b ++ seq ++ rest = c :: (b ++ seq ++ rest) from rfl] at hnot ⊢
      rw [splitAtSeq, hnot, ih hs]
      rfl

theorem afterSeq_frame {seq cs after : List Char} (hne : seq ≠ []) (h : afterSeq seq cs = some after) :
    ∃ part, cs = part ++ after ∧ seq <:+ part ∧ ∀ rest, afterSeq seq (part ++ rest) = some rest := by
  obtain ⟨⟨before, after⟩, hs, rfl⟩ := Option.map_eq_some_iff.1 h
  refine ⟨before ++ seq, splitAtSeq_eq_some hs, List.suffix_append .., fun rest => ?_⟩
  rw [afterSeq, splitAtSeq_frame hne hs rest]
  rfl

theorem stripLead_append (lead rest : List Char) : stripLead lead (lead ++ rest) = some rest := by
  rw [stripLead, if_pos (List.isPrefixOf_iff_prefix.2 (List.prefix_append ..)), List.drop_left]

/-! ## Tags -/

theorem splitAtGt_frame {quote : Option Char} {cs before after : List Char}
    (h : splitAtGt quote cs = .ok (before, after)) (rest : List Char) :
    splitAtGt quote (before ++ '>' :: rest) = .ok (before, rest) := by
  induction cs generalizing quote before with
  | nil => cases quote <;> cases h
  | cons c cs ih =>
    have step {q : Option Char} (h : (splitAtGt q cs).map (fun ba => (c :: ba.1, ba.2)) =
        .ok (before, after)) : ∃ b, before = c :: b ∧ splitAtGt q (b ++ '>' :: rest) = .ok (b, rest) := by
      cases hs : splitAtGt q cs with
      | error e => rw [hs] at h; cases h
      | ok ba =>
        rw [hs] at h
        cases h
        exact ⟨_, rfl, ih hs⟩
    cases quote with
    | none =>
      simp only [splitAtGt] at h
      split at h
      · cases h
        simp [splitAtGt]
      · rename_i hc
        obtain ⟨b, rfl, hb⟩ := step h
        simp only [List.cons_append, splitAtGt, hc, hb]
        rfl
    | some q =>
      obtain ⟨b, rfl, hb⟩ := step h
      simp only [List.cons_append, splitAtGt, hb]
      rfl

/-! ## Document type declarations -/

/-- A text is a part that ends with a `>`, and the part is found again before any rest. -/
def Framed (scan : List Char → Option (List Char)) (cs after : List Char) : Prop :=
  ∃ part, cs = part ++ after ∧ '>' ∈ part ∧ ∀ rest, scan (part ++ rest) = some rest

/-- After a lead that is always there, the rest of a scan decides. -/
theorem Framed.lead {scan : List Char → Option (List Char)} {cs after : List Char}
    (h : Framed scan cs after) (lead : List Char) {scan' : List Char → Option (List Char)}
    (hscan : ∀ part rest, '>' ∈ part → scan (part ++ rest) = some rest →
      scan' (lead ++ part ++ rest) = some rest) : Framed scan' (lead ++ cs) after := by
  obtain ⟨part, rfl, hm, hframe⟩ := h
  exact ⟨lead ++ part, by simp, by simp [hm], fun rest => hscan part rest hm (hframe rest)⟩

theorem framed_afterSeq {seq cs after : List Char} (hm : '>' ∈ seq) (h : afterSeq seq cs = some after) :
    Framed (afterSeq seq) cs after := by
  obtain ⟨part, rfl, hsuffix, hframe⟩ := afterSeq_frame (List.ne_nil_of_mem hm) h
  exact ⟨part, rfl, hsuffix.subset hm, hframe⟩

theorem framed_afterSubsetMarkup {cs after : List Char} (h : afterSubsetMarkup cs = some after) :
    Framed afterSubsetMarkup cs after := by
  rw [afterSubsetMarkup] at h
  split at h
  · rename_i hcomment
    obtain ⟨tail, rfl⟩ := List.isPrefixOf_iff_prefix.1 hcomment
    refine (framed_afterSeq (by simp) h).lead _ fun part rest _ hpart => ?_
    rw [afterSubsetMarkup, if_pos (by simp)]
    simpa using hpart
  · rename_i hcomment
    split at h
    · rename_i hpi
      obtain ⟨tail, rfl⟩ := List.isPrefixOf_iff_prefix.1 hpi
      refine (framed_afterSeq (by simp) h).lead _ fun part rest _ hpart => ?_
      rw [afterSubsetMarkup, if_neg (by simp), if_pos (by simp)]
      simpa using hpart
    · rename_i hpi
      -- What decides between the kinds of markup stands before the first `>`.
      have look {part : List Char} (hcs : cs = part ++ after) (hm : '>' ∈ part) {lead : List Char}
          (hl : '>' ∉ lead) (rest : List Char) :
          lead.isPrefixOf (part ++ rest) = lead.isPrefixOf cs := by
        rw [hcs, isPrefixOf_append_of_mem hm hl, isPrefixOf_append_of_mem hm hl]
      split at h
      · rename_i hliteral
        split at h
        · rename_i before _ hs
          cases h
          have hcs : cs = before ++ ['>'] ++ after := by simp [splitAtGt_eq_ok hs]
          refine ⟨before ++ ['>'], hcs, by simp, fun rest => ?_⟩
          rw [afterSubsetMarkup, look hcs (by simp) (by decide), if_neg hcomment,
            look hcs (by simp) (by decide), if_neg hpi, look hcs (by simp) (by decide),
            look hcs (by simp) (by decide), look hcs (by simp) (by decide), if_pos hliteral,
            List.append_assoc, List.singleton_append, splitAtGt_frame hs rest]
        · cases h
      · rename_i hliteral
        obtain ⟨part, hcs, hm, hframe⟩ := framed_afterSeq (by simp) h
        refine ⟨part, hcs, hm, fun rest => ?_⟩
        rw [afterSubsetMarkup, look hcs hm (by decide), if_neg hcomment, look hcs hm (by decide),
          if_neg hpi, look hcs hm (by decide), look hcs hm (by decide), look hcs hm (by decide),
          if_neg hliteral, hframe]

theorem framed_subsetRest {cs after : List Char} (h : subsetRest cs = some after) :
    Framed subsetRest cs after := by
  fun_induction subsetRest cs with
  | case1 => cases h
  | case2 c cs hc =>
    refine (framed_afterSeq (by simp) h).lead [c] fun part rest _ hpart => ?_
    simp [subsetRest, hc, hpart]
  | case3 c cs hc hlt cs' hs ih =>
    obtain ⟨part, rfl, hm, hframe⟩ := framed_afterSubsetMarkup hs
    refine (ih h).lead (c :: part) fun part' rest _ hpart => ?_
    rw [List.cons_append, List.cons_append, subsetRest, if_neg hc, if_pos hlt]
    split
    · rename_i found hfound
      rw [List.append_assoc, hframe] at hfound
      cases hfound
      exact hpart
    · rename_i hfound
      rw [List.append_assoc, hframe] at hfound
      cases hfound
  | case4 => cases h
  | case5 c cs hc hlt ih =>
    refine (ih h).lead [c] fun part rest _ hpart => ?_
    simp [subsetRest, hc, hlt, hpart]

theorem framed_doctypeRest {cs after : List Char} (h : doctypeRest cs = some after) :
    Framed doctypeRest cs after := by
  fun_induction doctypeRest cs with
  | case1 => cases h
  | case2 c cs hc =>
    cases h
    obtain rfl : c = '>' := eq_of_beq hc
    exact ⟨['>'], rfl, by simp, fun rest => by simp [doctypeRest]⟩
  | case3 c cs hc hb =>
    refine (framed_subsetRest h).lead [c] fun part rest _ hpart => ?_
    simp [doctypeRest, hc, hb, hpart]
  | case4 => cases h
  | case5 c cs hc hb hq closing cs' hd ih =>
    -- The literal up to its closing quote is passed as a whole.
    obtain ⟨content, rfl, hcontent, hclosing⟩ := exists_of_dropWhile_eq_cons hd
    have hlead : c :: (content ++ closing :: cs') = (c :: content ++ [closing]) ++ cs' := by simp
    rw [hlead]
    refine (ih h).lead _ fun part rest _ hpart => ?_
    have htext : c :: content ++ [closing] ++ part ++ rest =
        c :: (content ++ closing :: (part ++ rest)) := by simp
    have hdrop : (content ++ closing :: (part ++ rest)).dropWhile (· != c) = closing :: (part ++ rest) :=
      dropWhile_append hcontent (not_head?_cons (p := (· != c)) hclosing _)
    rw [htext, doctypeRest, if_neg hc, if_neg hb, if_pos hq]
    split
    · rename_i hfound
      cases hdrop.symm.trans hfound
    · rename_i hfound
      cases hdrop.symm.trans hfound
      exact hpart
  | case6 c cs hc hb hq ih =>
    refine (ih h).lead [c] fun part rest _ hpart => ?_
    rw [List.singleton_append, List.cons_append, doctypeRest, if_neg hc, if_neg hb, if_neg hq, hpart]

/-! ## Pieces -/

/-- The text starts with a part that is kept as it is written, and this part is found again before
any rest. -/
def Cuts (scan : List Char → Except Fault (Event × List Char)) (cs : List Char) (event : Event)
    (after : List Char) : Prop :=
  ∃ kind part, event = .raw kind ∧ cs = part ++ after ∧ part ≠ [] ∧
    ∀ rest, scan (part ++ rest) = .ok (event, rest)

/-- A part is found by every scan that treats texts with its first character alike. -/
theorem Cuts.of_head {scan scan' : List Char → Except Fault (Event × List Char)} {c : Char}
    {cs after : List Char} {event : Event} (h : Cuts scan (c :: cs) event after)
    (hscan : ∀ tail, scan' (c :: tail) = scan (c :: tail)) : Cuts scan' (c :: cs) event after := by
  obtain ⟨kind, part, hkind, hcs, hne, hframe⟩ := h
  obtain ⟨p, part, rfl⟩ := List.exists_cons_of_ne_nil hne
  obtain ⟨rfl, rfl⟩ := List.cons.inj hcs
  exact ⟨kind, c :: part, hkind, rfl, hne, fun rest => (hscan _).trans (hframe rest)⟩

theorem cuts_nextInstruction {cs after : List Char} {event : Event}
    (h : nextInstruction cs = .ok (event, after)) : Cuts nextInstruction cs event after := by
  rw [nextInstruction] at h
  split at h
  · cases h
  · rename_i hgt
    split at h
    · rename_i content _ hs
      cases h
      have hcs := splitAtSeq_eq_some hs
      refine ⟨_, content ++ ['?', '>'], rfl, hcs, by simp, fun rest => ?_⟩
      have hgt' : ¬ ['>'].isPrefixOf (content ++ ['?', '>'] ++ rest) = true := by
        rw [hcs] at hgt
        cases content with
        | nil => simp
        | cons c content => simpa using hgt
      rw [nextInstruction, if_neg hgt', splitAtSeq_frame (by simp) hs rest]
    · cases h

theorem cuts_nextDelimited {kind : RawKind} {fault : Fault} {lead tail cs after : List Char}
    (ht : tail ≠ []) {event : Event} (h : nextDelimited kind fault lead tail cs = .ok (event, after)) :
    Cuts (nextDelimited kind fault lead tail) cs event after := by
  rw [nextDelimited] at h
  split at h
  · cases h
  · rename_i inner hl
    split at h
    · rename_i hr
      cases h
      obtain ⟨part, rfl, htail, hframe⟩ := afterSeq_frame ht hr
      have hne : lead ++ part ≠ [] := by
        rintro he
        rw [List.append_eq_nil_iff] at he
        exact ht (List.suffix_nil.1 (he.2 ▸ htail))
      refine ⟨kind, lead ++ part, rfl, by rw [stripLead_eq_some hl, List.append_assoc], hne,
        fun rest => ?_⟩
      rw [nextDelimited, List.append_assoc, stripLead_append]
      simp only [hframe]
    · cases h

/-- The keyword stands before the `>` that ends a declaration. -/
theorem length_of_startsDoctype {part rest : List Char} (hm : '>' ∈ part)
    (h : startsDoctype (part ++ rest) = true) : 7 ≤ part.length := by
  refine Nat.le_of_not_lt fun hlt => ?_
  have hkeyword : ((part ++ rest).take 7).map Char.toUpper = "DOCTYPE".toList := eq_of_beq h
  have hgt : '>' ∈ (part ++ rest).take 7 := by
    rw [List.take_append, List.take_of_length_le (by omega)]
    exact List.mem_append_left _ hm
  have hupper : Char.toUpper '>' ∈ "DOCTYPE".toList := hkeyword ▸ List.mem_map_of_mem hgt
  exact absurd hupper (by decide)

theorem cuts_nextDoctype {cs after : List Char} {event : Event}
    (h : nextDoctype cs = .ok (event, after)) : Cuts nextDoctype cs event after := by
  rw [nextDoctype] at h
  split at h
  · cases h
  · rename_i hd
    obtain ⟨part, rfl, hm, hframe⟩ := framed_doctypeRest hd
    split at h
    · rename_i hs
      have hlength : 7 ≤ part.length := length_of_startsDoctype hm hs
      -- The content is that of the part, since it ends before the last character of it.
      have hcontent (rest : List Char) :
          (part ++ rest).take ((part ++ rest).length - rest.length - 1) = part.take (part.length - 1) := by
        rw [List.length_append, Nat.add_sub_cancel, List.take_append_of_le_length (by omega)]
      have hkeyword (rest : List Char) : startsDoctype (part ++ rest) = startsDoctype part := by
        rw [startsDoctype, startsDoctype, List.take_append_of_le_length hlength]
      simp only [hcontent] at h
      split at h
      · cases h
      · rename_i hblank
        cases h
        refine ⟨.doctype, part, rfl, rfl, List.ne_nil_of_mem hm, fun rest => ?_⟩
        rw [hkeyword] at hs
        rw [nextDoctype, hframe]
        simp only [hkeyword, hs, hcontent, ↓reduceIte]
        rw [if_neg hblank]
    · cases h

theorem cuts_nextBang {cs after : List Char} {event : Event} (h : nextBang cs = .ok (event, after)) :
    Cuts nextBang cs event after := by
  rw [nextBang.eq_def] at h
  split at h
  · exact (cuts_nextDelimited (by decide) h).of_head fun _ => rfl
  · exact (cuts_nextDelimited (by decide) h).of_head fun _ => rfl
  · exact (cuts_nextDoctype h).of_head fun _ => rfl
  · exact (cuts_nextDoctype h).of_head fun _ => rfl
  · cases h

/-- Markup that is read as one piece of this kind, whatever follows it. -/
def StandsAlone (kind : RawKind) (markup : List Char) : Prop :=
  ∃ part, markup = '<' :: part ∧ ∀ rest, next '<' (part ++ rest) = .ok (.raw kind, rest)

theorem Cuts.standsAlone {scan : List Char → Except Fault (Event × List Char)} {lead : Char}
    {cs after : List Char} {event : Event} (h : Cuts scan cs event after)
    (hscan : ∀ rest, next '<' (lead :: rest) = scan rest) :
    ∃ kind part, event = .raw kind ∧ lead :: cs = part ++ after ∧ StandsAlone kind ('<' :: part) := by
  obtain ⟨kind, part, rfl, rfl, -, hframe⟩ := h
  refine ⟨kind, lead :: part, rfl, rfl, lead :: part, rfl, fun rest => ?_⟩
  rw [List.cons_append, hscan, hframe]

/-- What is written between `&` and `;` in a reference. -/
def IsReferenceText (cs : List Char) : Prop := ∀ c ∈ cs, (c != '&' && c != '<' && c != ';') = true

theorem next_reference {name : List Char} (h : IsReferenceText name) (rest : List Char) :
    next '&' (name ++ ';' :: rest) = .ok (.reference, rest) := by
  show nextReference (name ++ ';' :: rest) = _
  rw [nextReference, dropWhile_append h (not_head?_cons (by decide) _)]
  rfl

/-- What a first piece can be: a reference, markup that is kept as it is, a tag, or a text. -/
theorem next_cases {c : Char} {cs after : List Char} {event : Event}
    (h : next c cs = .ok (event, after)) :
    (∃ name, event = .reference ∧ c = '&' ∧ cs = name ++ ';' :: after ∧ IsReferenceText name) ∨
      (∃ kind part, event = .raw kind ∧ cs = part ++ after ∧ StandsAlone kind (c :: part)) ∨
      (c = '<' ∧ nextTag cs = .ok (event, after)) ∨
      (event = .text ∧ isTextChar c = true ∧ after = cs.dropWhile isTextChar) := by
  unfold next at h
  split at h
  · rename_i hc
    unfold nextReference at h
    split at h
    · rename_i hd
      cases h
      obtain ⟨name, hcs, hname, -⟩ := exists_of_dropWhile_eq_cons hd
      exact .inl ⟨name, rfl, eq_of_beq hc, hcs, hname⟩
    · cases h
  · rename_i hamp
    split at h
    · rename_i hc
      obtain rfl : c = '<' := eq_of_beq hc
      split at h
      · exact .inr (.inl ((cuts_nextBang h).standsAlone fun _ => rfl))
      · exact .inr (.inl ((cuts_nextInstruction h).standsAlone fun _ => rfl))
      · exact .inr (.inr (.inl ⟨rfl, h⟩))
    · rename_i hlt
      cases h
      exact .inr (.inr (.inr ⟨rfl, by simp_all [isTextChar], rfl⟩))

/-- A tag is nothing but a tag. -/
theorem nextTag_cases {cs after : List Char} {event : Event} (h : nextTag cs = .ok (event, after)) :
    (∃ content, event = .opening content ∨ event = .empty content ∨ event = .closing content) := by
  unfold nextTag at h
  split at h
  · cases h
  · split at h
    · cases h
      exact ⟨_, .inr (.inr rfl)⟩
    · unfold tagEvent at h
      split at h
      · cases h
        exact ⟨_, .inr (.inl rfl)⟩
      · cases h
        exact ⟨_, .inl rfl⟩

end XslLowering.Markup
