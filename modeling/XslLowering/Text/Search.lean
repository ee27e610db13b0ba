/-!
# Finding one text in another

`splitAtSeq` cuts a text around the first place where a given sequence stands, `cutAt` around the
first place of one character.
-/

namespace XslLowering.Text

/-- The texts before and after the first occurrence of `seq`. -/
def splitAtSeq (seq : List Char) : List Char → Option (List Char × List Char)
  | [] => if seq.isEmpty then some ([], []) else none
  | c :: cs =>
    if seq.isPrefixOf (c :: cs) then some ([], (c :: cs).drop seq.length)
    else (splitAtSeq seq cs).map fun (before, after) => (c :: before, after)

/-- What follows the first occurrence of `seq`. -/
def afterSeq (seq : List Char) (cs : List Char) : Option (List Char) :=
  (splitAtSeq seq cs).map Prod.snd

def containsSeq (seq : List Char) (cs : List Char) : Bool :=
  (splitAtSeq seq cs).isSome

/-- The texts before and after the first `mark`. -/
def cutAt (mark : Char) (s : String) : Option (String × String) :=
  match s.toList.dropWhile (· != mark) with
  | [] => none
  | _ :: after => some (String.ofList (s.toList.takeWhile (· != mark)), String.ofList after)

/-- What is left of a text after `lead`, if it starts with it. -/
def stripLead (lead : List Char) (cs : List Char) : Option (List Char) :=
  if lead.isPrefixOf cs then some (cs.drop lead.length) else none

def startsWithSeq (lead : String) (s : String) : Bool :=
  lead.toList.isPrefixOf s.toList

def endsWithSeq (tail : String) (s : String) : Bool :=
  tail.toList.isSuffixOf s.toList

theorem stripLead_eq_some {lead cs rest : List Char} (h : stripLead lead cs = some rest) :
    cs = lead ++ rest := by
  unfold stripLead at h
  split at h
  · rename_i hp
    cases h
    obtain ⟨tail, rfl⟩ := List.isPrefixOf_iff_prefix.1 hp
    simp
  · cases h

theorem takeWhile_append {α : Type} {p : α → Bool} {l r : List α} (hl : ∀ a ∈ l, p a = true)
    (hr : ∀ a ∈ r.head?, p a = false) : (l ++ r).takeWhile p = l := by
  rw [List.takeWhile_append_of_pos hl]
  cases r with
  | nil => simp
  | cons a r => simp [hr a rfl]

theorem dropWhile_append {α : Type} {p : α → Bool} {l r : List α} (hl : ∀ a ∈ l, p a = true)
    (hr : ∀ a ∈ r.head?, p a = false) : (l ++ r).dropWhile p = r := by
  rw [List.dropWhile_append_of_pos hl]
  cases r with
  | nil => rfl
  | cons a r => simp [hr a rfl]

theorem not_head?_cons {α : Type} {p : α → Bool} {a : α} (h : p a = false) (l : List α) :
    ∀ b ∈ (a :: l).head?, p b = false := by
  intro b hb
  cases hb
  exact h

theorem splitAtSeq_eq_some {seq cs before after : List Char}
    (h : splitAtSeq seq cs = some (before, after)) : cs = before ++ seq ++ after := by
  induction cs generalizing before with
  | nil =>
    simp only [splitAtSeq] at h
    split at h
    · next he => simp_all
    · cases h
  | cons c cs ih =>
    simp only [splitAtSeq] at h
    split at h
    · next hp =>
      cases h
      obtain ⟨rest, hr⟩ := List.isPrefixOf_iff_prefix.1 hp
      simp [← hr]
    · obtain ⟨⟨b, a⟩, hs, he⟩ := Option.map_eq_some_iff.1 h
      cases he
      simp [ih hs]

/-- The text after a sequence is shorter by at least the sequence. -/
theorem length_afterSeq {seq cs rest : List Char} (h : afterSeq seq cs = some rest) :
    rest.length + seq.length ≤ cs.length := by
  obtain ⟨⟨before, after⟩, hs, rfl⟩ := Option.map_eq_some_iff.1 h
  have := congrArg List.length (splitAtSeq_eq_some hs)
  simp only [List.length_append] at this
  show after.length + seq.length ≤ cs.length
  omega

end XslLowering.Text
