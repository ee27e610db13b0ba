import Mathlib.Data.List.Infix
import XslLowering.Text.Search

/-!
# Where a text can occur in another

A text cannot occur across a character that it does not have (`infix_append_cons_iff`). More
generally, a `Barrier` is a text across which another one cannot occur: one that starts and ends with
characters that the other one does not have, and in which it does not occur itself
(`barrier_of_ends`). Texts can be told to have the same occurrences piece by piece, from the last one
to the first one (`OccursAlike`), and a text that is made up of others has the occurrences that they
have (`OccursInSome`), if something separates them.
-/

namespace XslLowering.Text

theorem containsSeq_iff {x cs : List Char} : containsSeq x cs = true ↔ x <:+: cs := by
  induction cs with
  | nil =>
    rw [List.infix_nil, containsSeq, splitAtSeq]
    cases x <;> simp
  | cons c cs ih =>
    rw [List.infix_cons_iff, ← List.isPrefixOf_iff_prefix, ← ih, containsSeq, splitAtSeq]
    split <;> simp_all [containsSeq]

variable {x : List Char}

theorem infix_append_cons_iff {c : Char} (hc : c ∉ x) {a b : List Char} :
    x <:+: a ++ c :: b ↔ x <:+: a ∨ x <:+: b := by
  have hlead {l : List Char} (hl : l <+: c :: b) (hlx : l <:+: x) : l = [] := by
    rcases List.prefix_cons_iff.1 hl with rfl | ⟨t, rfl, -⟩
    · rfl
    · exact absurd (hlx.subset List.mem_cons_self) hc
  rw [List.infix_append_iff, List.infix_cons_iff]
  constructor
  · rintro (h | (h | h) | ⟨l₁, l₂, rfl, h₁, h₂⟩)
    · exact .inl h
    · rw [hlead h List.infix_rfl]
      exact .inl List.nil_infix
    · exact .inr h
    · rw [hlead h₂ (List.suffix_append _ _).isInfix, List.append_nil]
      exact .inl h₁.isInfix
  · rintro (h | h)
    · exact .inl h
    · exact .inr (.inl (.inr h))

/-- What a text starts with can be left out, unless it starts with the first character of what is
looked for. -/
theorem infix_cons_iff_of_head {c : Char} (hc : x.head? ≠ some c) {b : List Char} (hx : x ≠ []) :
    x <:+: c :: b ↔ x <:+: b := by
  rw [List.infix_cons_iff, or_iff_right_iff_imp]
  intro h
  rcases List.prefix_cons_iff.1 h with rfl | ⟨t, rfl, -⟩
  · exact absurd rfl hx
  · exact absurd rfl hc

theorem infix_append_iff_of_head {d : Char} (hd : x.head? = some d) {a b : List Char} (ha : d ∉ a) :
    x <:+: a ++ b ↔ x <:+: b := by
  have hx : x ≠ [] := by
    rintro rfl
    cases hd
  induction a with
  | nil => rfl
  | cons c a ih =>
    rw [List.mem_cons, not_or] at ha
    have hc : x.head? ≠ some c := by
      rw [hd]
      exact fun he => ha.1 (Option.some.inj he)
    exact (infix_cons_iff_of_head hc hx).trans (ih ha.2)

/-- A character at the end can be left out, unless it is the last one of what is looked for. -/
theorem infix_concat_iff_of_getLast {c : Char} (hc : x.getLast? ≠ some c) {a : List Char}
    (hx : x ≠ []) : x <:+: a ++ [c] ↔ x <:+: a := by
  rw [List.infix_concat_iff, or_iff_right_iff_imp]
  intro h
  rcases List.suffix_concat_iff.1 h with rfl | ⟨t, rfl, -⟩
  · exact absurd rfl hx
  · simp at hc

theorem infix_between_iff {d e : Char} (hd : d ∉ x) (he : e ∉ x) (hx : x ≠ []) {m : List Char} :
    x <:+: d :: (m ++ [e]) ↔ x <:+: m := by
  rw [← List.nil_append (d :: (m ++ [e])), infix_append_cons_iff hd, infix_append_cons_iff he]
  simp [hx]

/-- A text across which `x` cannot occur. -/
def Barrier (x s : List Char) : Prop := ∀ a b, x <:+: a ++ (s ++ b) ↔ x <:+: a ∨ x <:+: b

theorem barrier_singleton {c : Char} (hc : c ∉ x) : Barrier x [c] :=
  fun _ _ => infix_append_cons_iff hc

theorem Barrier.append {s u : List Char} (hs : Barrier x s) (hu : Barrier x u) (hx : x ≠ []) :
    Barrier x (s ++ u) := by
  intro a b
  have hnil : ¬x <:+: [] := by simpa using hx
  rw [List.append_assoc, hs, ← List.nil_append (u ++ b), hu, or_iff_right hnil]

/-- A barrier goes on to the left over every character but the last one of the text. -/
theorem Barrier.cons {c : Char} {s : List Char} (hs : Barrier x s) (hx : x ≠ [])
    (hc : x.getLast? ≠ some c) : Barrier x (c :: s) := by
  intro a b
  have h := hs (a ++ [c]) b
  rwa [infix_concat_iff_of_getLast hc hx, List.append_assoc] at h

theorem Barrier.appendLeft {d : Char} {before s : List Char} (hs : Barrier x s)
    (hd : x.getLast? = some d) (hb : d ∉ before) : Barrier x (before ++ s) := by
  have hx : x ≠ [] := by
    rintro rfl
    cases hd
  induction before with
  | nil => exact hs
  | cons c before ih =>
    rw [List.mem_cons, not_or] at hb
    have hc : x.getLast? ≠ some c := by
      rw [hd]
      exact fun he => hb.1 (Option.some.inj he)
    exact (ih hb.2).cons hx hc

theorem not_infix_of_not_mem {c : Char} {s : List Char} (hc : c ∈ x) (hs : c ∉ s) : ¬x <:+: s :=
  fun h => hs (h.subset hc)

/-- A text between two characters that `x` does not have, without one that `x` has. -/
theorem barrier_of_ends {d e c : Char} {m : List Char} (hd : d ∉ x) (he : e ∉ x) (hc : c ∈ x)
    (hm : c ∉ m) : Barrier x (d :: (m ++ [e])) := by
  intro a b
  have hcons : d :: (m ++ [e]) ++ b = d :: (m ++ e :: b) := by simp
  rw [hcons, infix_append_cons_iff hd, infix_append_cons_iff he,
    or_iff_right (not_infix_of_not_mem hc hm)]

/-- A text of characters that `x` does not have. -/
theorem barrier_of_forall {s : List Char} (hs : s ≠ []) (hx : x ≠ []) (h : ∀ c ∈ s, c ∉ x) :
    Barrier x s := by
  induction s with
  | nil => exact absurd rfl hs
  | cons c s ih =>
    rw [List.forall_mem_cons] at h
    cases s with
    | nil => exact barrier_singleton h.1
    | cons d s => exact (barrier_singleton h.1).append (ih (List.cons_ne_nil d s) h.2) hx

/-- Whatever stands before them, `x` occurs in both texts or in neither. -/
def OccursAlike (x u v : List Char) : Prop := ∀ a, x <:+: a ++ u ↔ x <:+: a ++ v

namespace OccursAlike

variable {u v : List Char}

theorem refl (x u : List Char) : OccursAlike x u u := fun _ => Iff.rfl

theorem infix_iff (h : OccursAlike x u v) : x <:+: u ↔ x <:+: v := h []

theorem append (h : OccursAlike x u v) (s : List Char) : OccursAlike x (s ++ u) (s ++ v) := by
  intro a
  rw [← List.append_assoc, ← List.append_assoc]
  exact h (a ++ s)

/-- What stands in the same place need not be the same, if nothing can occur across it. -/
theorem barriers (h : OccursAlike x u v) {s s' : List Char} (hs : Barrier x s) (hs' : Barrier x s') :
    OccursAlike x (s ++ u) (s' ++ v) := by
  intro a
  rw [hs, hs', h.infix_iff]

end OccursAlike

/-- `x` occurs in one of the texts. -/
def OccursInSome (x : List Char) (texts : List (List Char)) : Prop := ∃ text ∈ texts, x <:+: text

@[simp] theorem occursInSome_nil : ¬OccursInSome x [] := by
  simp [OccursInSome]

@[simp] theorem occursInSome_cons {t : List Char} {ts : List (List Char)} :
    OccursInSome x (t :: ts) ↔ x <:+: t ∨ OccursInSome x ts := by
  simp [OccursInSome]

@[simp] theorem occursInSome_append {ts us : List (List Char)} :
    OccursInSome x (ts ++ us) ↔ OccursInSome x ts ∨ OccursInSome x us := by
  simp [OccursInSome, or_and_right, exists_or]

/-- Where texts are separated by a character that `x` does not have, it occurs in one of them. -/
theorem infix_flatMap_iff {c : Char} (hc : c ∉ x) {first : List Char} {others : List (List Char)} :
    x <:+: first ++ others.flatMap (c :: ·) ↔ OccursInSome x (first :: others) := by
  induction others generalizing first with
  | nil => simp
  | cons other others ih =>
    rw [List.flatMap_cons, List.cons_append, infix_append_cons_iff hc, ih,
      occursInSome_cons (t := first)]

end XslLowering.Text
