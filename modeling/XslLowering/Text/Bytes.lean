/-!
# Positions in bytes

Positions in markup and expressions count the bytes of the UTF-8 form of a text. `byteLength`
measures a text that way, and `splitBytes?` divides it at such a position, unless that lies inside a
character.
-/

namespace XslLowering.Text

/-- The number of bytes of the UTF-8 form of a text. -/
def byteLength : List Char → Nat
  | [] => 0
  | c :: cs => c.utf8Size + byteLength cs

@[simp] theorem byteLength_nil : byteLength [] = 0 := rfl

@[simp] theorem byteLength_cons (c : Char) (cs : List Char) :
    byteLength (c :: cs) = c.utf8Size + byteLength cs := rfl

@[simp] theorem byteLength_append (cs ds : List Char) :
    byteLength (cs ++ ds) = byteLength cs + byteLength ds := by
  induction cs with
  | nil => simp
  | cons c cs ih => simp [ih, Nat.add_assoc]

theorem byteLength_pos {cs : List Char} (h : cs ≠ []) : 0 < byteLength cs := by
  obtain ⟨c, cs, rfl⟩ := List.exists_cons_of_ne_nil h
  exact Nat.add_pos_left c.utf8Size_pos _

theorem utf8ByteSize_ofList (cs : List Char) : (String.ofList cs).utf8ByteSize = byteLength cs := by
  induction cs with
  | nil => rfl
  | cons c cs ih =>
    rw [String.ofList_cons, String.utf8ByteSize_append, String.utf8ByteSize_singleton, ih,
      byteLength_cons]

/-- The first `count` bytes of a text and what is left of it; none if that divides a character or if
there are not as many. -/
def splitBytes? : Nat → List Char → Option (List Char × List Char)
  | 0, cs => some ([], cs)
  | _ + 1, [] => none
  | count + 1, c :: cs =>
    if c.utf8Size ≤ count + 1 then
      (splitBytes? (count + 1 - c.utf8Size) cs).map fun parts => (c :: parts.1, parts.2)
    else none

/-- A part of a text is divided from what follows it by its length. -/
theorem splitBytes?_append (cs ds : List Char) :
    splitBytes? (byteLength cs) (cs ++ ds) = some (cs, ds) := by
  induction cs with
  | nil => rw [byteLength_nil, splitBytes?, List.nil_append]
  | cons c cs ih =>
    obtain ⟨count, hcount⟩ : ∃ count, byteLength (c :: cs) = count + 1 :=
      Nat.exists_eq_add_one.2 (byteLength_pos (List.cons_ne_nil c cs))
    have hrest : count + 1 - c.utf8Size = byteLength cs := by
      rw [← hcount, byteLength_cons, Nat.add_sub_cancel_left]
    have hle : c.utf8Size ≤ count + 1 := by
      rw [← hcount, byteLength_cons]
      exact Nat.le_add_right _ _
    rw [hcount, List.cons_append, splitBytes?, if_pos hle, hrest, ih]
    rfl

end XslLowering.Text
