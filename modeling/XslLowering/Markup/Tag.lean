import XslLowering.Document.Node
import XslLowering.Markup.Reference
import XslLowering.Text.Blank

/-!
# Tags

`splitAtGt` finds the `>` that ends a tag: the first one outside quotes. `tagName` and
`readAttributes` read what stands before it.
-/

namespace XslLowering.Markup

open Text

/-- The texts before and after the first `>` outside quotes, for a text that starts inside the
given quotes. Fails with the quotes that are open at the end. -/
def splitAtGt : Option Char → List Char → Except (Option Char) (List Char × List Char)
  | quote, [] => .error quote
  | none, c :: cs =>
    if c == '>' then .ok ([], cs)
    else (splitAtGt (if c == '\x27' || c == '\x22' then some c else none) cs).map
      fun (before, after) => (c :: before, after)
  | some quote, c :: cs =>
    (splitAtGt (if c == quote then none else some quote) cs).map
      fun (before, after) => (c :: before, after)

theorem splitAtGt_eq_ok {quote : Option Char} {cs before after : List Char}
    (h : splitAtGt quote cs = .ok (before, after)) : cs = before ++ '>' :: after := by
  induction cs generalizing quote before with
  | nil => cases quote <;> cases h
  | cons c cs ih =>
    have step {q : Option Char} (h : (splitAtGt q cs).map (fun (b, a) => (c :: b, a)) =
        .ok (before, after)) : c :: cs = before ++ '>' :: after := by
      cases hs : splitAtGt q cs with
      | error e => rw [hs] at h; cases h
      | ok ba =>
        rw [hs] at h
        cases h
        simp [ih hs]
    cases quote with
    | none =>
      simp only [splitAtGt] at h
      split at h
      · next hc =>
        cases h
        simp_all
      · exact step h
    | some q => exact step h

theorem length_splitAtGt {quote : Option Char} {cs before after : List Char}
    (h : splitAtGt quote cs = .ok (before, after)) : before.length + after.length < cs.length := by
  simp [splitAtGt_eq_ok h]

/-- The name that a tag starts with: everything up to the first blank. -/
def tagName (content : List Char) : List Char := content.takeWhile fun c => !isSpace c

/-- The name in an end tag: blanks after it do not belong to it, unless there is nothing else. -/
def endTagName (content : List Char) : List Char :=
  if content.all isSpace then content else (content.reverse.dropWhile isSpace).reverse

/-- A fault of a tag: in its form, or in a reference of a value. -/
inductive TagFault where
  | form (fault : AttributeFault)
  | escape (fault : EscapeFault)
deriving DecidableEq

/-- An attribute as it is written, the position of its name, and what follows it. -/
structure WrittenAttribute where
  name : List Char
  position : Nat
  value : List Char
  rest : List Char

/-- A character that a name of an attribute goes on with. -/
def isKeyChar (c : Char) : Bool := c != '=' && !isSpace c

/-- The value that follows an equals sign, and what comes after it. -/
def readValue (total : Nat) (cs : List Char) : Except AttributeFault (List Char × List Char) :=
  match cs.dropWhile isSpace with
  | [] => .error (.expectedValue total)
  | quote :: rest =>
    if quote == '\x27' || quote == '\x22' then
      match rest.dropWhile (· != quote) with
      | [] => .error (.expectedQuote total quote)
      | _ :: after => .ok (rest.takeWhile (· != quote), after)
    else .error (.unquotedValue (total - byteLength (quote :: rest)))

/-- The attribute that starts with `c` in a tag whose content has `total` bytes. The names read
before it are given with their positions; a name that is used again is refused before its value is
looked at. -/
def readAttribute (total : Nat) (seen : List (List Char × Nat)) (c : Char) (cs : List Char) :
    Except AttributeFault WrittenAttribute :=
  let position := total - byteLength (c :: cs)
  let name := c :: cs.takeWhile isKeyChar
  match (cs.dropWhile isKeyChar).dropWhile isSpace with
  | '=' :: rest =>
    match seen.lookup name with
    | some previous => .error (.duplicated position previous)
    | none =>
      match readValue total rest with
      | .ok (value, after) => .ok ⟨name, position, value, after⟩
      | .error fault => .error fault
  | rest => .error (.expectedEq (total - byteLength rest))

theorem length_readValue {total : Nat} {cs value rest : List Char}
    (h : readValue total cs = .ok (value, rest)) : rest.length < cs.length := by
  have hd := (List.dropWhile_suffix isSpace (l := cs)).length_le
  unfold readValue at h
  split at h
  · cases h
  · next quote after hq =>
    rw [hq] at hd
    split at h
    · have hd' := (List.dropWhile_suffix (· != quote) (l := after)).length_le
      split at h
      · cases h
      · next hr =>
        cases h
        rw [hr] at hd'
        simp at hd hd'
        omega
    · cases h

theorem length_readAttribute {total : Nat} {seen : List (List Char × Nat)} {c : Char}
    {cs : List Char} {a : WrittenAttribute} (h : readAttribute total seen c cs = .ok a) :
    a.rest.length < cs.length := by
  have hk := (List.dropWhile_suffix isKeyChar (l := cs)).length_le
  have hs := (List.dropWhile_suffix isSpace (l := cs.dropWhile isKeyChar)).length_le
  simp only [readAttribute] at h
  split at h
  · next rest hr =>
    rw [hr] at hs
    split at h
    · cases h
    · split at h
      · next hv =>
        cases h
        have := length_readValue hv
        simp at hs ⊢
        omega
      · cases h
  · cases h

/-- The attributes in the last part of a tag whose content has `total` bytes. Every value has its
references replaced before the next attribute is read. -/
def attributesFrom (resolve : String → Option String) (total : Nat)
    (seen : List (List Char × Nat)) (cs : List Char) : Except TagFault (List Attribute) :=
  match _h : cs.dropWhile isSpace with
  | [] => .ok []
  | c :: rest =>
    match _ha : readAttribute total seen c rest with
    | .error fault => .error (.form fault)
    | .ok a =>
      match unescape resolve a.value with
      | .error fault => .error (.escape fault)
      | .ok value =>
        match attributesFrom resolve total (seen ++ [(a.name, a.position)]) a.rest with
        | .error fault => .error fault
        | .ok attributes => .ok (⟨String.ofList a.name, String.ofList value⟩ :: attributes)
termination_by cs.length
decreasing_by
  have hd := (List.dropWhile_suffix isSpace (l := cs)).length_le
  rw [_h] at hd
  have := length_readAttribute _ha
  simp at hd
  omega

/-- The attributes of a tag. -/
def readAttributes (resolve : String → Option String) (content : List Char) :
    Except TagFault (List Attribute) :=
  attributesFrom resolve (byteLength content) [] (content.dropWhile fun c => !isSpace c)

end XslLowering.Markup
