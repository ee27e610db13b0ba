import XslLowering.Proofs.Expression.Fusing
import XslLowering.Proofs.Stylesheet.Lowering

/-!
# Reading a lowered expression

Lowered tokens are written next to tokens that they were not read with. They are read again as they
are, except for two slashes side by side, which are read as one token:

* `nearlyApart_of_lowers`: every lowered token ends where the next one is written, or fuses with it;
* `tokenize_renderTokens_of_lowers`: what is read is what was written, with slashes fused;
* `rereads_iff_no_fused_slashes`: lowered tokens are read again with the same kinds and texts exactly
  if no two slashes fuse.
-/

namespace XslLowering.Stylesheet

open Expression Text

/-! ## The tokens of a replacement -/

/-- What a replacement of a call starts with: a name, or a character that no token but a slash goes
on with. -/
def IsLead (t : Token) : Prop :=
  t.offset = none ∧ ∃ c cs, t.text.toList = c :: cs ∧
    (t.kind = .name ∧ isNameStart c = true ∨ isDivider c = true ∨ t.kind = .slash ∧ c = '/')

/-- Tokens that can be put in place of a call, whatever stands around it. -/
structure Insertable (tokens : List Token) : Prop where
  hasText : ∀ t ∈ tokens, t.HasText
  nearlyApart : ∀ us, NearlyApart us → NearlyApart (tokens ++ us)
  lead : ∃ t ∈ tokens.head?, IsLead t

theorem toList_ofVariable (name : String) :
    (Token.ofVariable name).text.toList = '$' :: name.toList := by
  simp [Token.ofVariable, Token.synthetic]

/-- The name of a variable of a grouping. -/
theorem hasText_ofVariable {stem id : String} {c : Char} {cs : List Char}
    (hs : stem.toList = c :: cs) (hc : isNameStart c = true) (hcs : cs.all isNameChar = true)
    (hid : isGroupId id = true) : (Token.ofVariable (stem ++ id)).HasText := by
  have hname : SimpleName (c :: (cs ++ id.toList)) := by
    refine .mk hc fun d hd => ?_
    rcases List.mem_append.1 hd with hd | hd
    · exact List.all_eq_true.1 hcs d hd
    · exact List.all_eq_true.1 hid d hd
  have htext : TokenText .varRef ('$' :: c :: (cs ++ id.toList)) := .varRef (.simple hname)
  simpa [Token.HasText, Token.ofVariable, Token.synthetic, hs] using htext

/-- A literal with the name of a function. -/
theorem hasText_ofString {name : String} (h : QualifiedName name.toList) :
    (Token.ofString name).HasText := by
  have hq : '\x27' ∉ name.toList := h.not_mem (by decide) (by decide)
  have htext : TokenText .stringLiteral ('\x27' :: (name.toList ++ ['\x27'])) := .literal rfl hq
  simpa [Token.HasText, Token.ofString, Token.synthetic, hq] using htext

/-! ## Every replacement can be put in place of a call -/

theorem insertable_emptySelection : Insertable emptySelection := by
  refine ⟨?_, fun us hus => ?_, ?_⟩
  · simp only [emptySelection, List.forall_mem_cons, List.not_mem_nil, false_imp_iff, implies_true,
      and_true]
    refine ⟨?_, ?_, ?_, ?_⟩ <;> exact hasText_synthetic rfl rfl
  · refine nearlyApart_cons String.toList_ofList (fun _ => rfl) ?_
    refine nearlyApart_cons String.toList_ofList (fun _ => goesOn_solidus (by nofun) ..) ?_
    refine nearlyApart_cons String.toList_ofList (fun _ => rfl) ?_
    exact nearlyApart_cons_closed (fun _ _ => rfl) hus
  · exact ⟨_, rfl, rfl, '/', [], String.toList_ofList, .inr (.inr ⟨rfl, rfl⟩)⟩

theorem insertable_emptyString : Insertable [.ofString ""] := by
  have htext : (Token.ofString "").text.toList = ['\x27', '\x27'] := by decide
  refine ⟨?_, fun us hus => ?_, ?_⟩
  · have h : TokenText .stringLiteral ['\x27', '\x27'] :=
      .literal (show isQuote '\x27' = true from rfl) List.not_mem_nil
    rw [← htext] at h
    simp only [List.forall_mem_singleton]
    exact h
  · exact nearlyApart_cons_closed (fun _ _ => rfl) hus
  · exact ⟨_, rfl, rfl, _, _, htext, .inr (.inl rfl)⟩

theorem insertable_groupSelection {id : String} (hid : isGroupId id = true) :
    Insertable (groupSelection id) := by
  refine ⟨?_, fun us hus => ?_, ?_⟩
  · simp only [groupSelection, List.forall_mem_cons, List.not_mem_nil, false_imp_iff, implies_true,
      and_true]
    have hpopulation : (Token.ofVariable ("current-un-grouped-" ++ id)).HasText :=
      hasText_ofVariable String.toList_ofList rfl (by decide) hid
    have hgroup : (Token.ofVariable ("current-group-" ++ id)).HasText :=
      hasText_ofVariable String.toList_ofList rfl (by decide) hid
    refine ⟨hpopulation, ?_, ?_, ?_, ?_, ?_, ?_, hgroup, ?_, ?_, ?_⟩ <;>
      exact hasText_synthetic rfl rfl
  · -- `$current-un-grouped-id[generate-id(.)`
    refine nearlyApart_cons_divider String.toList_ofList rfl ?_
    refine nearlyApart_cons_closed (fun _ _ => rfl) ?_
    refine nearlyApart_cons_divider String.toList_ofList rfl ?_
    refine nearlyApart_cons_closed (fun _ _ => rfl) ?_
    refine nearlyApart_cons_divider String.toList_ofList rfl ?_
    refine nearlyApart_cons_closed (fun _ _ => rfl) ?_
    -- `=$current-group-id//xsl:element-id]`
    refine nearlyApart_cons_divider (toList_ofVariable _) rfl ?_
    refine nearlyApart_cons String.toList_ofList (fun _ => goesOn_solidus (by nofun) ..) ?_
    refine nearlyApart_cons_closed (fun _ _ => rfl) ?_
    refine nearlyApart_cons_divider String.toList_ofList rfl ?_
    exact nearlyApart_cons_closed (fun _ _ => rfl) hus
  · exact ⟨_, rfl, rfl, '$', _, toList_ofVariable _, .inr (.inl rfl)⟩

theorem insertable_groupKey {id : String} (hid : isGroupId id = true) :
    Insertable (groupKey id) := by
  refine ⟨?_, fun us hus => ?_, ?_⟩
  · simp only [groupKey, List.forall_mem_cons, List.not_mem_nil, false_imp_iff, implies_true,
      and_true]
    have hgroup : (Token.ofVariable ("current-group-" ++ id)).HasText :=
      hasText_ofVariable String.toList_ofList rfl (by decide) hid
    refine ⟨?_, ?_, hgroup, ?_, ?_, ?_, ?_⟩ <;> exact hasText_synthetic rfl rfl
  · refine nearlyApart_cons_divider String.toList_ofList rfl ?_
    refine nearlyApart_cons_closed (fun _ _ => rfl) ?_
    refine nearlyApart_cons String.toList_ofList (fun _ => goesOn_solidus (by nofun) ..) ?_
    refine nearlyApart_cons_divider String.toList_ofList rfl ?_
    refine nearlyApart_cons_closed (fun _ _ => rfl) ?_
    refine nearlyApart_cons_divider String.toList_ofList rfl ?_
    exact nearlyApart_cons_closed (fun _ _ => rfl) hus
  · exact ⟨_, rfl, rfl, 's', _, String.toList_ofList, .inl ⟨rfl, by decide⟩⟩

theorem insertable_of_isGroupingTokens {tokens : List Token} (h : IsGroupingTokens tokens) :
    Insertable tokens := by
  rcases h with rfl | rfl | ⟨id, hid, rfl | rfl⟩
  · exact insertable_emptySelection
  · exact insertable_emptyString
  · exact insertable_groupSelection hid
  · exact insertable_groupKey hid

theorem kind_ofString (content : String) : (Token.ofString content).kind = .stringLiteral := by
  unfold Token.ofString
  split <;> rfl

/-- What a call of a callback starts with, with a comma or without. -/
theorem callbackTokens_eq (name : String) (rest : List Token) :
    ∃ commas, callbackTokens name rest =
        .ofName "ext:call" :: .leftParen :: .ofString name :: commas ∧
      (commas = [] ∨ commas = [.comma]) := by
  rw [callbackTokens, show callbackQualifier ++ ":call" = "ext:call" by decide]
  split
  · exact ⟨_, rfl, .inr rfl⟩
  · exact ⟨_, rfl, .inl rfl⟩

theorem insertable_callbackTokens {name : String} (h : QualifiedName name.toList)
    (rest : List Token) : Insertable (callbackTokens name rest) := by
  obtain ⟨commas, he, hcommas⟩ := callbackTokens_eq name rest
  have hclosed (c : Char) (n : Option Char) :
      goesOn (Token.ofString name).kind (Token.ofString name).text.toList c n = false := by
    rw [kind_ofString]
    rfl
  rw [he]
  refine ⟨?_, fun us hus => ?_, ?_⟩
  · simp only [List.forall_mem_cons]
    refine ⟨hasText_synthetic rfl rfl, hasText_synthetic rfl rfl, hasText_ofString h, ?_⟩
    rcases hcommas with rfl | rfl
    · simp
    · rw [List.forall_mem_singleton]
      exact hasText_synthetic rfl rfl
  · refine nearlyApart_cons_divider String.toList_ofList rfl ?_
    refine nearlyApart_cons_closed (fun _ _ => rfl) ?_
    refine nearlyApart_cons_closed hclosed ?_
    rcases hcommas with rfl | rfl
    · exact hus
    · exact nearlyApart_cons_closed (fun _ _ => rfl) hus
  · exact ⟨_, rfl, rfl, 'e', _, String.toList_ofList, .inl ⟨rfl, by decide⟩⟩

/-- A replacement can be put in place of a call with the blank that stood before the call. -/
theorem Insertable.withSpacing {tokens : List Token} (h : Insertable tokens) (spaced : Bool) :
    Insertable (withSpacing spaced tokens) := by
  obtain ⟨hasText, nearlyApart, t, ht, hlead⟩ := h
  cases tokens with
  | nil => cases ht
  | cons first more =>
    cases ht
    rw [List.forall_mem_cons] at hasText
    exact ⟨List.forall_mem_cons.2 hasText,
      fun us hus => nearlyApart_spaced (nearlyApart us hus) spaced, _, rfl, hlead⟩

/-! ## Lowered tokens -/

/-- What is written after a token of the expression where a call was replaced. -/
theorem renderAfter_insertable {p t : Token} {tokens : List Token} (hp : p.offset.isSome)
    (ht : t.HasText) (hto : t.offset.isSome) (hk : t.kind = .name) (hi : Insertable tokens)
    (ts us : List Token) :
    (∃ d ds, renderAfter p (withSpacing t.spaced tokens ++ us) = d :: ds ∧ isDivider d = true) ∨
    (∃ ds, renderAfter p (withSpacing t.spaced tokens ++ us) = '/' :: ds ∧
      ∃ next ∈ (withSpacing t.spaced tokens ++ us).head?, next.kind = .slash ∧ next.spaced = false) ∨
    (p.kind.isWordLike = false ∧ ∃ c cs d ds, renderAfter p (t :: ts) = c :: cs ∧
      isNameStart c = true ∧ renderAfter p (withSpacing t.spaced tokens ++ us) = d :: ds ∧
      isNameStart d = true) := by
  obtain ⟨-, -, first, hfirst, hsynthetic, d, ds, hd, hlead⟩ := hi
  cases tokens with
  | nil => cases hfirst
  | cons _ more =>
    cases hfirst
    have hr : renderAfter p (withSpacing t.spaced (first :: more) ++ us) =
        p.gap { first with spaced := t.spaced } ++
          d :: (ds ++ renderAfter { first with spaced := t.spaced } (more ++ us)) := by
      simp [withSpacing, renderAfter, hd]
    rcases gap_cases p { first with spaced := t.spaced } with hg | hg
    · obtain ⟨hs, hw⟩ := not_wordLike_of_gap hg hsynthetic
      rw [hg] at hr
      rcases hlead with ⟨hname, hstart⟩ | hdivider | ⟨hslash, rfl⟩
      · obtain ⟨c, cs, hc, hcs⟩ := (qualifiedName_of_hasText ht hk).head
        have hp' : p.kind.isWordLike = false := hw.resolve_right (by simp [hname, TokenKind.isWordLike])
        refine .inr (.inr ⟨hp', c, cs ++ renderAfter t ts, d, _, ?_, hcs, hr, hstart⟩)
        simp [renderAfter, gap_of_offset hp hto, show t.spaced = false from hs, hc]
      · exact .inl ⟨d, _, hr, hdivider⟩
      · exact .inr (.inl ⟨_, hr, _, rfl, hslash, hs⟩)
    · rw [hg] at hr
      exact .inl ⟨' ', _, hr, rfl⟩

/-- Tokens that follow a token of the expression can be read after a colon once they are lowered
only if they could be read before. -/
theorem leadsAs_of_lowers {functions : FunctionMap} {ts us : List Token}
    (h : Lowers functions ts us) (ht : ∀ t ∈ ts, t.HasText ∧ t.offset.isSome) {p : Token}
    (hp : p.offset.isSome) : LeadsAs (renderAfter p ts) (renderAfter p us) := by
  have insertable {t : Token} {rest tokens us : List Token} (ht : t.HasText ∧ t.offset.isSome)
      (hk : t.kind = .name) (hi : Insertable tokens) :
      LeadsAs (renderAfter p (t :: rest)) (renderAfter p (withSpacing t.spaced tokens ++ us)) := by
    rcases renderAfter_insertable hp ht.1 ht.2 hk hi rest us with ⟨d, ds, hr, hd⟩ | ⟨ds, hr, -⟩ |
      ⟨-, c, cs, d, ds, ho, hc, hr, -⟩
    · rw [hr]
      exact leadsAs_divider hd _ ds
    · rw [hr]
      exact leadsAs_of_head (by decide) _ ds
    · intro _
      simp [ho, startsLocalName, hc]
  cases h with
  | nil => exact leadsAs_nil _
  | @keep t ts us hc h =>
    rw [List.forall_mem_cons] at ht
    rw [renderAfter, renderAfter]
    exact leadsAs_append (by simp [ht.1.1.ne_nil]) _ _
  | callback hk _ _ =>
    rw [List.forall_mem_cons] at ht
    exact insertable ht.1 hk (insertable_callbackTokens (qualifiedName_of_hasText ht.1.1 hk) _)
  | grouping hk _ _ hg _ =>
    rw [List.forall_mem_cons] at ht
    exact insertable ht.1 hk (insertable_of_isGroupingTokens hg)

/-- A token of the expression ends where the lowered tokens are written, or fuses with them. -/
theorem endsBefore_of_lowers {functions : FunctionMap} {ts us : List Token}
    (h : Lowers functions ts us) (ht : ∀ t ∈ ts, t.HasText ∧ t.offset.isSome) {p : Token}
    (hp : p.offset.isSome) (he : EndsBefore p.kind p.text.toList (renderAfter p ts)) :
    EndsBefore p.kind p.text.toList (renderAfter p us) ∨ ∃ next ∈ us.head?, Fuses p next := by
  have insertable {t : Token} {rest tokens us : List Token} (ht : t.HasText ∧ t.offset.isSome)
      (hk : t.kind = .name) (hi : Insertable tokens)
      (he : EndsBefore p.kind p.text.toList (renderAfter p (t :: rest))) :
      EndsBefore p.kind p.text.toList (renderAfter p (withSpacing t.spaced tokens ++ us)) ∨
        ∃ next ∈ (withSpacing t.spaced tokens ++ us).head?, Fuses p next := by
    rcases renderAfter_insertable hp ht.1 ht.2 hk hi rest us with ⟨d, ds, hr, hd⟩ |
      ⟨ds, hr, next, hnext, hslash, hs⟩ | ⟨hw, c, cs, d, ds, ho, hc, hr, hd⟩
    · rw [hr]
      exact .inl (endsBefore_divider hd ..)
    · by_cases hps : p.kind = .slash
      · exact .inr ⟨next, hnext, hps, hslash, hs⟩
      · rw [hr]
        exact .inl (goesOn_solidus hps ..)
    · rw [hr]
      rw [ho] at he
      exact .inl (goesOn_nameStart hw hc hd he)
  cases h with
  | nil => exact .inl trivial
  | @keep t ts us hc h =>
    rw [List.forall_mem_cons] at ht
    rw [renderAfter] at he ⊢
    exact .inl (endsBefore_append he (by simp [ht.1.1.ne_nil]) (leadsAs_of_lowers h ht.2 ht.1.2))
  | callback hk _ _ =>
    rw [List.forall_mem_cons] at ht
    exact insertable ht.1 hk (insertable_callbackTokens (qualifiedName_of_hasText ht.1.1 hk) _) he
  | grouping hk _ _ hg _ =>
    rw [List.forall_mem_cons] at ht
    exact insertable ht.1 hk (insertable_of_isGroupingTokens hg) he

/-- Lowered tokens have texts of their kinds and nearly stand apart. -/
theorem nearlyApart_of_lowers {functions : FunctionMap} {ts us : List Token}
    (h : Lowers functions ts us) (ht : ∀ t ∈ ts, t.HasText ∧ t.offset.isSome) (ha : Apart ts) :
    (∀ u ∈ us, u.HasText) ∧ NearlyApart us := by
  have insertable {tokens us : List Token} (hi : Insertable tokens) (spaced : Bool)
      (hus : (∀ u ∈ us, u.HasText) ∧ NearlyApart us) :
      (∀ u ∈ withSpacing spaced tokens ++ us, u.HasText) ∧
        NearlyApart (withSpacing spaced tokens ++ us) := by
    have hi' := hi.withSpacing spaced
    exact ⟨List.forall_mem_append.2 ⟨hi'.hasText, hus.1⟩, hi'.nearlyApart us hus.2⟩
  induction h with
  | nil => exact ⟨by simp, trivial⟩
  | @keep t ts us hc h ih =>
    rw [List.forall_mem_cons] at ht
    obtain ⟨he, ha⟩ := ha
    obtain ⟨htext, hapart⟩ := ih ht.2 ha
    exact ⟨List.forall_mem_cons.2 ⟨ht.1.1, htext⟩, endsBefore_of_lowers h ht.2 ht.1.2 he, hapart⟩
  | @callback t opening ts us hk _ h ih =>
    simp only [List.forall_mem_cons] at ht
    exact insertable (insertable_callbackTokens (qualifiedName_of_hasText ht.1.1 hk) ts) _
      (ih ht.2.2 ha.2.2)
  | grouping hk _ _ hg h ih =>
    simp only [List.forall_mem_cons] at ht
    exact insertable (insertable_of_isGroupingTokens hg) _ (ih ht.2.2.2 ha.2.2.2)

/-! ## Brackets -/

theorem nesting_withSpacing (opened : List Char) (spaced : Bool) (tokens us : List Token) :
    nesting opened (withSpacing spaced tokens ++ us) = nesting opened (tokens ++ us) := by
  cases tokens <;> rfl

theorem nesting_isGroupingTokens {tokens : List Token} (h : IsGroupingTokens tokens)
    (opened : List Char) : nesting opened tokens = some opened := by
  rcases h with rfl | rfl | ⟨id, -, rfl | rfl⟩ <;> rfl

theorem nesting_callbackTokens (name : String) (rest : List Token) (opened : List Char) :
    nesting opened (callbackTokens name rest) = some ('(' :: opened) := by
  obtain ⟨commas, he, hcommas⟩ := callbackTokens_eq name rest
  have hstring (opened : List Char) : nest opened (Token.ofString name).kind = some opened := by
    rw [kind_ofString]
    rfl
  rw [he, nesting_cons, Token.ofName, Token.synthetic]
  simp only [nest, Option.bind_some]
  rw [nesting_cons, Token.leftParen, Token.synthetic]
  simp only [nest, Option.bind_some]
  rw [nesting_cons, hstring]
  rcases hcommas with rfl | rfl <;> rfl

/-- Lowering leaves brackets as well nested as they were. -/
theorem nesting_of_lowers {functions : FunctionMap} {ts us : List Token}
    (h : Lowers functions ts us) (opened : List Char) : nesting opened us = nesting opened ts := by
  have hname (opened : List Char) : nest opened .name = some opened := rfl
  induction h generalizing opened with
  | nil => rfl
  | @keep t ts us hc h ih =>
    rw [nesting_cons, nesting_cons]
    simp only [ih]
  | callback hk ho h ih =>
    rw [nesting_withSpacing, nesting_append, nesting_callbackTokens, Option.bind_some, ih,
      nesting_cons, hk, hname, Option.bind_some, nesting_cons, ho]
    rfl
  | grouping hk ho hc hg h ih =>
    rw [nesting_withSpacing, nesting_append, nesting_isGroupingTokens hg, Option.bind_some, ih,
      nesting_cons, hk, hname, Option.bind_some, nesting_cons, ho]
    simp only [nest, Option.bind_some]
    rw [nesting_cons, hc]
    rfl

/-! ## Reading lowered tokens again -/

/-- What is read is what was written, with slashes fused. -/
theorem tokenize_renderTokens_of_lowers {functions : FunctionMap} {source : String}
    {ts us : List Token} (ht : tokenize source = .ok ts) (h : Lowers functions ts us) :
    tokenize (String.ofList (renderTokens us)) = .ok (reread (fuse us)) := by
  obtain ⟨hscan, hnest⟩ := tokenize_eq_ok_iff.1 ht
  obtain ⟨htext, hapart⟩ := nearlyApart_of_lowers h (hasText_of_scan hscan) (apart_of_scan hscan)
  rw [← renderTokens_fuse htext]
  refine tokenize_renderTokens (hasText_fuse htext) (apart_fuse htext hapart) ?_
  rw [nesting_fuse, nesting_of_lowers h, hnest]

/-- Written tokens of a lowered expression are read again as they were exactly if no slash stands
directly before a slash. -/
theorem rereads_iff_no_fused_slashes {registry : Callback.Registry} {functions : FunctionMap}
    (hf : functions.BuiltFrom registry) {place : Place} {source : String} {tokens : List Token}
    {s : TokenStream} {count : Nat} (ht : tokenize source = .ok tokens)
    (hs : (replaceCalls functions place ⟨source, tokens, 0⟩).result = .ok (s, count)) :
    (∃ again, tokenize s.render = .ok again ∧ again.map Token.key = s.tokens.map Token.key) ↔
      s.tokens.IsChain fun a b => ¬(a.kind = .slash ∧ b.kind = .slash ∧ b.spaced = false) := by
  rw [replaceCalls_eq_lowerCalls hf.plain] at hs
  cases hl : lowerCalls functions place source tokens with
  | error e =>
    rw [hl] at hs
    cases hs
  | ok result =>
    obtain ⟨us, n⟩ := result
    rw [hl] at hs
    cases hs
    have hread : tokenize (String.ofList (renderTokens us)) = .ok (reread (fuse us)) :=
      tokenize_renderTokens_of_lowers ht (lowers_of_lowerCalls hf.plain hl)
    constructor
    · rintro ⟨again, hagain, hkeys⟩
      have he : again = reread (fuse us) := Except.ok.inj (hagain.symm.trans hread)
      rw [he, map_key_reread] at hkeys
      by_contra hchain
      have hlt : (fuse us).length < us.length := length_fuse_lt hchain
      have hlength := congrArg List.length hkeys
      simp only [List.length_map] at hlength
      omega
    · intro hchain
      refine ⟨_, hread, ?_⟩
      rw [map_key_reread, fuse_of_isChain hchain]

/-- A slash before a call that selects nothing is read together with the slash that the call
becomes. -/
theorem not_rereads_slash_before_call :
    ∃ functions tokens s, FunctionMap.BuiltFrom .empty functions ∧
      tokenize "/current-group()" = .ok tokens ∧
      (replaceCalls functions ⟨.empty, 0, some "select"⟩ ⟨"/current-group()", tokens, 0⟩).result =
        .ok (s, 1) ∧
      s.render = "//xs:sequence/*" ∧
      ¬∃ again, tokenize s.render = .ok again ∧ again.map Token.key = s.tokens.map Token.key := by
  have hf : FunctionMap.BuiltFrom .empty
      ⟨⟨[("current-group", .currentGroup), ("current-grouping-key", .currentGroupingKey)]⟩⟩ := by
    rw [FunctionMap.BuiltFrom, show Callback.Registry.empty.names = [] from List.mergeSort_nil]
    rfl
  have ht : tokenize "/current-group()" = .ok [⟨.slash, "/", some 0, false⟩,
      ⟨.name, "current-group", some 1, false⟩, ⟨.leftParen, "(", some 14, false⟩,
      ⟨.rightParen, ")", some 15, false⟩] := by decide +kernel
  have hs : (replaceCalls
        ⟨⟨[("current-group", .currentGroup), ("current-grouping-key", .currentGroupingKey)]⟩⟩
        ⟨.empty, 0, some "select"⟩ ⟨"/current-group()", [⟨.slash, "/", some 0, false⟩,
          ⟨.name, "current-group", some 1, false⟩, ⟨.leftParen, "(", some 14, false⟩,
          ⟨.rightParen, ")", some 15, false⟩], 0⟩).result =
      .ok (⟨"/current-group()", ⟨.slash, "/", some 0, false⟩ :: emptySelection, 5⟩, 1) := by decide +kernel
  refine ⟨_, _, _, hf, ht, hs, by decide +kernel, ?_⟩
  rw [rereads_iff_no_fused_slashes hf ht hs]
  decide

end XslLowering.Stylesheet
