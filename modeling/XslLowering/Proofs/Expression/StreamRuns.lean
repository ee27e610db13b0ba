import XslLowering.Expression.Stream
import XslLowering.Proofs.Expression.Rendering

/-!
# Runs of operations on token streams

Whoever replaces calls may move about in a stream and splice it, in any order and with any indices
(`Reaches`). Whatever is done, the cursor does not leave the stream, and the tokens of the expression
that are still there stand as they were read (`StemsFrom`).

* `increasing_of_scan`: tokens that were read have ever larger offsets;
* `StemsFrom.seek`, `StemsFrom.splice`: what one operation keeps;
* `Reaches.stemsFrom`: what a run of operations keeps;
* `stream_sound_after_operations`: the same for the stream of an expression, with what its cursor and
  its offsets then are.
-/

namespace XslLowering.Expression

open Text

/-! ## Offsets of tokens that were read -/

theorem increasing_of_scan {offset : Nat} {cs : List Char} {ts : List Token} {fault : Option Nat}
    (h : scan offset cs = (ts, fault)) :
    (∀ place ∈ ts.filterMap Token.offset, offset ≤ place) ∧
      (ts.filterMap Token.offset).Pairwise (· < ·) := by
  induction ts generalizing offset cs with
  | nil => simp
  | cons t ts ih =>
    obtain ⟨blanks, rest, -, -, ho, -, ht, -, hrest⟩ := scan_eq_cons h
    obtain ⟨hlater, hincreasing⟩ := ih hrest
    have hpos := byteLength_pos ht.ne_nil
    have hafter (place : Nat) (hplace : place ∈ ts.filterMap Token.offset) :
        offset + byteLength blanks < place := by
      have := hlater place hplace
      omega
    rw [List.filterMap_cons_some ho, List.forall_mem_cons, List.pairwise_cons]
    refine ⟨⟨by omega, fun place hplace => ?_⟩, hafter, hincreasing⟩
    have := hafter place hplace
    omega

/-! ## Operations -/

namespace TokenStream

/-- Operations lead from the first stream to the second one. The tokens that they put in come from no
expression. -/
inductive Reaches (s : TokenStream) : TokenStream → Prop
  | refl : Reaches s s
  | seek {r : TokenStream} (h : Reaches s r) (index : Nat) : Reaches s (r.seek index)
  | advance {r : TokenStream} (h : Reaches s r) : Reaches s r.advance
  | splice {r : TokenStream} (h : Reaches s r) (start stop : Nat) (replacement : List Token)
    (hr : ∀ t ∈ replacement, t.offset = none) : Reaches s (r.splice start stop replacement)

/-- The cursor is not beyond the end, and the tokens that have an offset are some of `original`, in
their order there. -/
structure StemsFrom (s : TokenStream) (original : List Token) : Prop where
  cursor_le : s.cursor ≤ s.tokens.length
  sublist : (s.tokens.filter (·.offset.isSome)).Sublist original

namespace StemsFrom

variable {s : TokenStream} {original : List Token} (h : s.StemsFrom original)

include h

theorem seek (index : Nat) : (s.seek index).StemsFrom original :=
  ⟨cursor_seek_le s index, h.sublist⟩

/-- However the indices are chosen, what is left of the old tokens is a part of them. -/
theorem splice (start stop : Nat) {replacement : List Token}
    (hr : ∀ t ∈ replacement, t.offset = none) :
    (s.splice start stop replacement).StemsFrom original := by
  refine ⟨cursor_splice_le s start stop replacement, ?_⟩
  have hnew : replacement.filter (·.offset.isSome) = [] := by
    rw [List.filter_eq_nil_iff]
    intro t ht
    simp [hr t ht]
  -- The range is brought into the stream from its end, so that a start behind the end moves back to it.
  have hkept (i j : Nat) (hij : i ≤ j) : (s.tokens.take i ++ s.tokens.drop j).Sublist s.tokens := by
    have hdrop : (s.tokens.drop j).Sublist (s.tokens.drop i) := List.drop_sublist_drop_left _ hij
    have hjoined := hdrop.append_left (s.tokens.take i)
    rwa [List.take_append_drop] at hjoined
  have hfilter := (hkept _ _ (Nat.min_le_right start (min stop s.tokens.length))).filter
    (·.offset.isSome)
  rw [List.filter_append] at hfilter
  rw [TokenStream.splice, tokens_seek, List.filter_append, List.filter_append, hnew,
    List.append_nil]
  exact hfilter.trans h.sublist

theorem atEnd_iff : s.atEnd = true ↔ s.cursor = s.size := by
  rw [atEnd, decide_eq_true_iff]
  exact ⟨fun hend => Nat.le_antisymm h.cursor_le hend, fun hend => Nat.le_of_eq hend.symm⟩

/-- Tokens that are left keep the order of their offsets. -/
theorem increasing (ho : (original.filterMap Token.offset).Pairwise (· < ·)) :
    (s.tokens.filterMap Token.offset).Pairwise (· < ·) := by
  have hplaced : (s.tokens.filter (·.offset.isSome)).filterMap Token.offset =
      s.tokens.filterMap Token.offset := by
    rw [List.filterMap_filter]
    refine List.filterMap_congr fun t _ => ?_
    cases t.offset <;> rfl
  rw [← hplaced]
  exact ho.sublist (h.sublist.filterMap _)

end StemsFrom

theorem current?_eq_none_iff (s : TokenStream) : s.current? = none ↔ s.atEnd = true := by
  rw [current?, peek?, Nat.add_zero, List.getElem?_eq_none_iff, atEnd, decide_eq_true_iff]

theorem Reaches.stemsFrom {s r : TokenStream} {original : List Token} (hr : s.Reaches r)
    (h : s.StemsFrom original) : r.StemsFrom original := by
  induction hr with
  | refl => exact h
  | seek _ index ih => exact ih.seek index
  | advance _ ih => exact ih.seek _
  | splice _ start stop _ hr ih => exact ih.splice start stop hr

theorem tokenize_of_read {source : String} {s : TokenStream} (h : (read source).result = .ok s) :
    tokenize source = .ok s.tokens ∧ s.cursor = 0 := by
  rw [read] at h
  split at h
  · cases h
  · rename_i ts hts
    cases h
    exact ⟨hts, rfl⟩

/-- After any operations on the stream of an expression the cursor is within the stream, and at a
token unless it is at the end; splicing takes both indices back into the stream; and the tokens with
an offset are tokens of the expression, unchanged and in the order of their offsets. -/
theorem stream_sound_after_operations {source : String} {s r : TokenStream}
    (h : (read source).result = .ok s) (hr : s.Reaches r) :
    r.cursor ≤ r.size ∧ (r.current? = none ↔ r.atEnd = true) ∧
    (r.atEnd = true ↔ r.cursor = r.size) ∧
    (∀ start stop replacement, (r.splice start stop replacement).tokens =
      r.tokens.take (min start (min stop r.size)) ++ replacement ++
        r.tokens.drop (min stop r.size)) ∧
    (r.tokens.filter (·.offset.isSome)).Sublist s.tokens ∧
    (r.tokens.filterMap Token.offset).Pairwise (· < ·) := by
  obtain ⟨htokens, hcursor⟩ := tokenize_of_read h
  have hstart : s.StemsFrom s.tokens := ⟨hcursor ▸ Nat.zero_le _, List.filter_sublist⟩
  have hr' := hr.stemsFrom hstart
  have hincreasing := (increasing_of_scan (tokenize_eq_ok_iff.1 htokens).1).2
  exact ⟨hr'.cursor_le, r.current?_eq_none_iff, hr'.atEnd_iff, fun _ _ _ => rfl, hr'.sublist,
    hr'.increasing hincreasing⟩

/-- A range that ends before it starts, one that reaches beyond the end, and a cursor that is taken
back when the stream gets shorter. -/
theorem stream_sound_after_wild_indices :
    ∃ s r, (read "a + f() + b").result = .ok s ∧ s.Reaches r ∧
      r.tokens.map Token.text = ["a", "+", "y", "x", "+"] ∧ r.cursor = 5 ∧ r.current? = none ∧
      (r.tokens.filter (·.offset.isSome)).Sublist s.tokens ∧
      r.tokens.filterMap Token.offset = [0, 2, 8] := by
  have hread : (read "a + f() + b").result = .ok ⟨"a + f() + b",
      [⟨.name, "a", some 0, false⟩, ⟨.operator, "+", some 2, true⟩, ⟨.name, "f", some 4, true⟩,
        ⟨.leftParen, "(", some 5, false⟩, ⟨.rightParen, ")", some 6, false⟩,
        ⟨.operator, "+", some 8, true⟩, ⟨.name, "b", some 10, true⟩], 0⟩ := by decide +kernel
  have hreaches (s : TokenStream) :=
    (((((Reaches.refl : s.Reaches s).seek 100).splice 2 5 [.ofName "x"] (by decide)).splice 9 2
      [.ofName "y"] (by decide)).splice 5 40 [] (by decide)).advance
  obtain ⟨-, hend, -, -, hsublist, -⟩ := stream_sound_after_operations hread (hreaches _)
  exact ⟨_, _, hread, hreaches _, by decide +kernel, by decide +kernel, hend.2 (by decide +kernel),
    hsublist, by decide +kernel⟩

end TokenStream

end XslLowering.Expression
